import TemplateScope.Proofs.Walk.Events
import TemplateScope.Walk.Paths

/-!
# The paths of a walk among its events

A visitor that looks at paths alone leaves every other hook as it is, so nothing but the paths can
show which way it went. `walk_eq_writePaths` says that it goes through the same calls as a visitor
that overrides every hook and keeps to itself all but the paths among them. So a walk of paths lists
the path events of a recorded walk, up to the first that it is to stop at (`walkPaths_eq_events`).
-/

namespace TemplateScope

variable {ℓ : Type}

/-! ## Paths among calls -/

def pathLabels (events : List Event) : List String :=
  (events.filter (·.hook = .path)).map Event.label

theorem pathLabels_append (events others : List Event) :
    pathLabels (events ++ others) = pathLabels events ++ pathLabels others := by
  rw [pathLabels, List.filter_append, List.map_append]
  rfl

theorem pathLabels_cons_of_ne {hook : Hook} (h : hook ≠ .path) (label : String)
    (rest : List Event) : pathLabels (⟨hook, label⟩ :: rest) = pathLabels rest := by
  rw [pathLabels, List.filter_cons_of_neg (by simpa using h)]
  rfl

namespace CallTree

def paths (trees : List CallTree) : List String := pathLabels (preorderAll [] trees)

theorem paths_append (trees others : List CallTree) :
    paths (trees ++ others) = paths trees ++ paths others := by
  rw [paths, preorderAll_append, pathLabels_append]
  rfl

theorem paths_node {hook : Hook} (h : hook ≠ .path) (label : String) (below : List CallTree) :
    paths [.node ⟨hook, label⟩ below] = paths below := by
  rw [paths, preorderAll, preorderAll, List.append_nil, preorder, if_neg List.not_mem_nil,
    pathLabels_cons_of_ne h]
  rfl

theorem paths_leaf {hook : Hook} (h : hook ≠ .path) (label : String) (trees : List CallTree) :
    paths (.leaf hook label :: trees) = paths trees := by
  rw [← List.singleton_append, paths_append, leaf, paths_node h]
  rfl

end CallTree

open CallTree

def Node.paths : Node ℓ → List String
  | .path p _ => [p.spelling]
  | _ => []

theorem Node.paths_callTrees (n : Node ℓ) (trees : List CallTree) :
    CallTree.paths (n.callTrees trees) = n.paths ++ CallTree.paths trees := by
  cases n with
  | path p _ => exact paths_append [.leaf .path p.spelling] trees
  | text t => exact paths_leaf (by decide) t.chars trees
  | mustacheComment c => exact paths_leaf (by decide) c.value trees
  | comment c => exact paths_leaf (by decide) c.value trees
  | literal l _ => exact paths_leaf (by decide) l.label trees
  | _ => exact paths_node (by decide) _ trees

/-! ## A walk writes its paths -/

/-- Write a spelling down, and end the walk if it is the one to stop at. -/
def writePath (stopAt : Option String) (spelling : String) : Visit (Array String) String Unit :=
  fun log =>
    if stopAt = some spelling then (.error spelling, log.push spelling)
    else (.ok (), log.push spelling)

theorem pathVisitor_path (stopAt : Option String) (p : Path) (loc : ℓ) :
    (pathVisitor stopAt).path p loc = writePath stopAt p.spelling := by
  funext log
  exact pathVisitor_path_apply stopAt p loc log

/-- Of the hooks only that of a path does anything of its own. -/
theorem hook_eq_writePaths (stopAt : Option String) (n : Node ℓ)
    (below : Visit (Array String) String Unit) :
    (pathVisitor stopAt).hook n below = (do forM n.paths (writePath stopAt); below) := by
  cases n with
  | path p loc =>
      rw [Visitor.hook, pathVisitor_path, Node.paths, List.forM_cons, List.forM_nil]
      simp
  | _ => rfl

mutual

theorem walk_eq_writePaths (stopAt : Option String) : ∀ o : Outline ℓ,
    (pathVisitor stopAt).walk o = forM (paths o.callTrees) (writePath stopAt)
  | .node n below => by
      rw [Visitor.walk, walkAll_eq_writePaths stopAt below, hook_eq_writePaths,
        ← List.forM_append, ← Node.paths_callTrees, Outline.callTrees]

theorem walkAll_eq_writePaths (stopAt : Option String) : ∀ os : List (Outline ℓ),
    (pathVisitor stopAt).walkAll os = forM (paths (Outline.callTreesAll os)) (writePath stopAt)
  | [] => rfl
  | o :: rest => by
      rw [Visitor.walkAll, walk_eq_writePaths stopAt o, walkAll_eq_writePaths stopAt rest,
        Outline.callTreesAll, paths_append, List.forM_append]

end

theorem visitTemplate_eq_writePaths (stopAt : Option String) (t : Template ℓ) :
    (pathVisitor stopAt).visitTemplate t =
      forM (pathLabels (t.callTree.preorder [])) (writePath stopAt) := by
  rw [Visitor.visitTemplate_eq_walk, walk_eq_writePaths, Template.callTrees_outline, paths,
    preorderAll, preorderAll, List.append_nil]

/-! ## What is written -/

theorem forM_writePath_cons_of_ne {stopAt : Option String} {spelling : String}
    (h : stopAt ≠ some spelling) (rest : List String) (log : Array String) :
    (forM (spelling :: rest) (writePath stopAt) : Visit _ _ Unit) log =
      (forM rest (writePath stopAt) : Visit _ _ Unit) (log.push spelling) := by
  rw [List.forM_cons, Visit.seq_apply, writePath, if_neg h]

/-- Spellings of which none is the one to stop at are all written down. -/
theorem forM_writePath_of_ne {stopAt : Option String} {spellings : List String}
    (h : ∀ spelling ∈ spellings, stopAt ≠ some spelling) (log : Array String) :
    (forM spellings (writePath stopAt) : Visit _ _ Unit) log =
      (.ok (), log ++ spellings.toArray) := by
  induction spellings generalizing log with
  | nil =>
      rw [Array.append_empty]
      rfl
  | cons spelling rest ih =>
      obtain ⟨hfirst, hrest⟩ := List.forall_mem_cons.1 h
      rw [forM_writePath_cons_of_ne hfirst, ih hrest]
      simp

/-- The walk ends at the first spelling that is the one to stop at. -/
theorem forM_writePath_of_mem {stop : String} {spellings : List String} (h : stop ∈ spellings)
    (log : Array String) :
    (forM spellings (writePath (some stop)) : Visit _ _ Unit) log =
      (.error stop, log ++ (spellings.take (spellings.idxOf stop + 1)).toArray) := by
  induction spellings generalizing log with
  | nil => exact absurd h List.not_mem_nil
  | cons spelling rest ih =>
      by_cases hstop : spelling = stop
      · subst hstop
        rw [List.forM_cons, Visit.seq_apply, writePath, if_pos rfl, List.idxOf_cons_self]
        simp
      · have hne : some stop ≠ some spelling := fun heq => hstop (Option.some.inj heq).symm
        have hrest : stop ∈ rest := List.mem_of_ne_of_mem (Ne.symm hstop) h
        rw [forM_writePath_cons_of_ne hne, ih hrest, List.idxOf_cons, beq_false_of_ne hstop]
        simp

/-! ## Walks of paths -/

def EventTrace.paths (trace : EventTrace) : List String := pathLabels trace.events.toList

theorem paths_walkEvents (t : Template ℓ) :
    (walkEvents {} t).paths = pathLabels (t.callTree.preorder []) := by
  rw [EventTrace.paths, walkEvents_of_stopAfter_eq_none rfl]

/-- A walk of paths that is not to stop lists the path events of a recorded walk in which no hook is
skipped. One that is to stop lists them up to the first of the spelling to stop at and says that it
stopped there; where there is none it lists them all and did not stop. -/
theorem walkPaths_eq_events (t : Template ℓ) :
    walkPaths none t = ⟨(walkEvents {} t).paths.toArray, none⟩ ∧
      ∀ stop : String,
        walkPaths (some stop) t =
          if stop ∈ (walkEvents {} t).paths then
            ⟨((walkEvents {} t).paths.take ((walkEvents {} t).paths.idxOf stop + 1)).toArray,
              some stop⟩
          else ⟨(walkEvents {} t).paths.toArray, none⟩ := by
  rw [paths_walkEvents]
  refine ⟨?_, fun stop => ?_⟩
  · rw [walkPaths, Visitor.run, visitTemplate_eq_writePaths, forM_writePath_of_ne (by simp),
      Array.empty_append]
  · rw [walkPaths, Visitor.run, visitTemplate_eq_writePaths]
    by_cases hstop : stop ∈ pathLabels (t.callTree.preorder [])
    · rw [if_pos hstop, forM_writePath_of_mem hstop, Array.empty_append]
    · have hne : ∀ spelling ∈ pathLabels (t.callTree.preorder []), some stop ≠ some spelling :=
        fun spelling hmem heq => hstop (Option.some.inj heq ▸ hmem)
      rw [if_neg hstop, forM_writePath_of_ne hne, Array.empty_append]

/-- In `{{a (b.c a) a}}` the walk ends inside the parentheses, at the first path that is spelled like
the one to stop at. -/
example :
    walkPaths (some "b.c")
        (⟨[], [.mustache ⟨⟨.path ⟨.var "a", []⟩ (),
          [.call ⟨.path ⟨.var "b", ["c"]⟩ (), [.path ⟨.var "a", []⟩ ()], ⟨[], ()⟩⟩ (),
            .path ⟨.var "a", []⟩ ()], ⟨[], ()⟩⟩, false, ()⟩], ()⟩ : Template Unit) =
      ⟨#["a", "b.c"], some "b.c"⟩ := by
  rfl

end TemplateScope
