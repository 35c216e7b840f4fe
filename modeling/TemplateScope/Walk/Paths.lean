import TemplateScope.Walk.Visitor

/-!
# The paths of a walk

`walkPaths` lists the paths of a template in document order, by a visitor that leaves every hook
but one as it is. It may be told to stop at a path of a given spelling.
-/

namespace TemplateScope

variable {ℓ : Type}

/-- The visitor that looks at paths only. The error is the spelling it stopped at. -/
def pathVisitor (stopAt : Option String) : Visitor ℓ (Array String) String where
  path p _ := do
    modify (·.push p.spelling)
    if stopAt = some p.spelling then throw p.spelling

theorem pathVisitor_path_apply (stopAt : Option String) (p : Path) (loc : ℓ)
    (log : Array String) :
    (pathVisitor stopAt).path p loc log =
      if stopAt = some p.spelling then (.error p.spelling, log.push p.spelling)
      else (.ok (), log.push p.spelling) := by
  change (if stopAt = some p.spelling then throw p.spelling else pure () :
    Visit (Array String) String Unit) (log.push p.spelling) = _
  split <;> rfl

structure PathTrace where
  paths : Array String
  stoppedAt : Option String
deriving DecidableEq, Repr

def walkPaths (stopAt : Option String) (t : Template ℓ) : PathTrace :=
  match (pathVisitor stopAt).run t #[] with
  | (.ok (), paths) => ⟨paths, none⟩
  | (.error spelling, paths) => ⟨paths, some spelling⟩

end TemplateScope
