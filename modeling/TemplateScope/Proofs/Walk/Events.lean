import TemplateScope.Proofs.Walk.CallTree

/-!
# What a recorded walk records

A recorded walk writes down the calls that are due and not skipped, one after another, until it is
stopped. `EventPlan.emit` does this with the calls given as a list, and `walk_eq_emit` shows that
the walk over an outline does nothing else. So the events of a walk are the calls of the call tree
(`walkEvents_eq_occurrences`), and stopping a walk cuts them off (`walkEvents_stopAfter`).
-/

namespace TemplateScope

variable {ℓ : Type}

namespace EventPlan

open CallTree

def write (plan : EventPlan) (e : Event) : Visit (Array Event) Nat Unit := fun log =>
  if plan.stopAfter = some (log.size + 1) then (.error (log.size + 1), log.push e)
  else (.ok (), log.push e)

/-- Write these calls down, up to the last one wanted. -/
def emit (plan : EventPlan) : List Event → Visit (Array Event) Nat Unit
  | [] => pure ()
  | e :: rest => do
      plan.write e
      plan.emit rest

theorem emit_append (plan : EventPlan) (events others : List Event) :
    plan.emit (events ++ others) = (do plan.emit events; plan.emit others) := by
  induction events with
  | nil => simp [emit]
  | cons e rest ih => simp [emit, ih]

/-! ## A walk emits its calls -/

theorem record_eq_write (plan : EventPlan) (hook : Hook) (label : String)
    (below : Visit (Array Event) Nat Unit) :
    plan.record hook label below =
      (do plan.write ⟨hook, label⟩; if hook ∈ plan.skip then pure () else below) := by
  funext log
  rw [record_apply, Visit.seq_apply, write]
  by_cases hstop : plan.stopAfter = some (log.size + 1)
  · rw [if_pos hstop, if_pos hstop]
  · rw [if_neg hstop, if_neg hstop]
    by_cases hskip : hook ∈ plan.skip
    · rw [if_pos hskip, if_pos hskip]
      rfl
    · rw [if_neg hskip, if_neg hskip]

/-- A hook that is given what lies below emits its call and, unless it is skipped, those below. -/
theorem record_emit (plan : EventPlan) (hook : Hook) (label : String) (trees : List CallTree) :
    plan.record hook label (plan.emit (preorderAll plan.skip trees)) =
      plan.emit (preorderAll plan.skip [.node ⟨hook, label⟩ trees]) := by
  rw [record_eq_write, preorderAll, preorderAll, List.append_nil, preorder, emit]
  by_cases hskip : hook ∈ plan.skip
  · rw [if_pos hskip, if_pos hskip]
    rfl
  · rw [if_neg hskip, if_neg hskip]

theorem record_leaf (plan : EventPlan) (hook : Hook) (label : String) (trees : List CallTree) :
    (do plan.record hook label (pure ()); plan.emit (preorderAll plan.skip trees)) =
      plan.emit (preorderAll plan.skip (.leaf hook label :: trees)) := by
  have hleaf := plan.record_emit hook label []
  rw [← List.singleton_append, preorderAll_append, emit_append, leaf, ← hleaf]
  rfl

theorem hook_emit (plan : EventPlan) (n : Node ℓ) (trees : List CallTree) :
    plan.visitor.hook n (plan.emit (preorderAll plan.skip trees)) =
      plan.emit (preorderAll plan.skip (n.callTrees trees)) := by
  cases n with
  | text t => exact plan.record_leaf .text t.chars trees
  | mustacheComment c => exact plan.record_leaf .mustacheComment c.value trees
  | comment c => exact plan.record_leaf .comment c.value trees
  | path p _ => exact plan.record_leaf .path p.spelling trees
  | literal l _ => exact plan.record_leaf .literal l.label trees
  | _ => exact plan.record_emit _ _ trees

mutual

theorem walk_eq_emit (plan : EventPlan) : ∀ o : Outline ℓ,
    plan.visitor.walk o = plan.emit (preorderAll plan.skip o.callTrees)
  | .node n below => by
      rw [Visitor.walk, walkAll_eq_emit plan below, hook_emit, Outline.callTrees]

theorem walkAll_eq_emit (plan : EventPlan) : ∀ os : List (Outline ℓ),
    plan.visitor.walkAll os = plan.emit (preorderAll plan.skip (Outline.callTreesAll os))
  | [] => rfl
  | o :: rest => by
      rw [Visitor.walkAll, walk_eq_emit plan o, walkAll_eq_emit plan rest, Outline.callTreesAll,
        preorderAll_append, emit_append]

end

theorem visitTemplate_eq_emit (plan : EventPlan) (t : Template ℓ) :
    plan.visitor.visitTemplate t = plan.emit (t.callTree.preorder plan.skip) := by
  rw [Visitor.visitTemplate_eq_walk, walk_eq_emit, Template.callTrees_outline, preorderAll,
    preorderAll, List.append_nil]

/-! ## What is written -/

theorem emit_cons_of_ne {plan : EventPlan} {e : Event} {rest : List Event} {log : Array Event}
    (h : plan.stopAfter ≠ some (log.size + 1)) :
    plan.emit (e :: rest) log = plan.emit rest (log.push e) := by
  rw [emit, Visit.seq_apply, write, if_neg h]

theorem emit_cons_of_eq {plan : EventPlan} {e : Event} {rest : List Event} {log : Array Event}
    (h : plan.stopAfter = some (log.size + 1)) :
    plan.emit (e :: rest) log = (.error (log.size + 1), log.push e) := by
  rw [emit, Visit.seq_apply, write, if_pos h]

theorem emit_of_not_stopped (plan : EventPlan) (events : List Event) (log : Array Event)
    (h : ∀ n < events.length, plan.stopAfter ≠ some (log.size + n + 1)) :
    plan.emit events log = (.ok (), log ++ events.toArray) := by
  induction events generalizing log with
  | nil =>
      rw [Array.append_empty]
      rfl
  | cons e rest ih =>
      have hrest : ∀ n < rest.length, plan.stopAfter ≠ some ((log.push e).size + n + 1) := by
        intro n hn
        have hnext := h (n + 1) (Nat.succ_lt_succ hn)
        rwa [Array.size_push, Nat.add_right_comm log.size 1 n]
      rw [emit_cons_of_ne (h 0 (Nat.succ_pos _)), ih _ hrest]
      simp

theorem emit_of_stopped (plan : EventPlan) (events : List Event) (log : Array Event) {n : Nat}
    (h : plan.stopAfter = some (log.size + n + 1)) (hn : n < events.length) :
    plan.emit events log = (.error (log.size + n + 1), log ++ (events.take (n + 1)).toArray) := by
  induction events generalizing log n with
  | nil => exact absurd hn (Nat.not_lt_zero n)
  | cons e rest ih =>
      cases n with
      | zero =>
          rw [emit_cons_of_eq h]
          simp
      | succ n =>
          have hfirst : plan.stopAfter ≠ some (log.size + 1) := by
            rw [h]
            simp
          have hsize : (log.push e).size + n + 1 = log.size + (n + 1) + 1 := by
            rw [Array.size_push, Nat.add_right_comm log.size 1 n, Nat.add_assoc log.size n 1]
          rw [emit_cons_of_ne hfirst, ih _ (hsize ▸ h) (Nat.lt_of_succ_lt_succ hn), hsize]
          simp

end EventPlan

/-! ## Recorded walks -/

theorem walkEvents_of_not_stopped {plan : EventPlan} {t : Template ℓ}
    (h : ∀ n < (t.callTree.preorder plan.skip).length, plan.stopAfter ≠ some (n + 1)) :
    walkEvents plan t = ⟨(t.callTree.preorder plan.skip).toArray, none⟩ := by
  have hemit := plan.emit_of_not_stopped (t.callTree.preorder plan.skip) #[] fun n hn => by
    rw [Array.size_empty, Nat.zero_add]
    exact h n hn
  rw [walkEvents, Visitor.run, EventPlan.visitTemplate_eq_emit, hemit, Array.empty_append]

theorem walkEvents_of_stopped {plan : EventPlan} {t : Template ℓ} {n : Nat}
    (h : plan.stopAfter = some (n + 1)) (hn : n < (t.callTree.preorder plan.skip).length) :
    walkEvents plan t =
      ⟨((t.callTree.preorder plan.skip).take (n + 1)).toArray, some (n + 1)⟩ := by
  have hemit := plan.emit_of_stopped (t.callTree.preorder plan.skip) #[] (n := n)
  rw [Array.size_empty, Nat.zero_add] at hemit
  rw [walkEvents, Visitor.run, EventPlan.visitTemplate_eq_emit, hemit h hn, Array.empty_append]

theorem walkEvents_of_stopAfter_eq_none {plan : EventPlan} (h : plan.stopAfter = none)
    (t : Template ℓ) : walkEvents plan t = ⟨(t.callTree.preorder plan.skip).toArray, none⟩ :=
  walkEvents_of_not_stopped fun n _ => by
    rw [h]
    exact nofun

/-- A walk that is not stopped records each call of the call tree once and in document order, and of
these, if some hooks are skipped, the ones that none of them encloses. -/
theorem walkEvents_eq_occurrences (t : Template ℓ) (skip : List Hook) :
    walkEvents {} t = ⟨(t.callTree.occurrences.map (·.event)).toArray, none⟩ ∧
      walkEvents { skip } t =
        ⟨((t.callTree.occurrences.filter (·.reached skip)).map (·.event)).toArray, none⟩ ∧
      (t.callTree.occurrences.Pairwise fun a b => a.address < b.address) ∧
      ∀ o, o ∈ t.callTree.occurrences ↔ t.callTree.Has o := by
  refine ⟨?_, ?_, t.callTree.pairwise_occurrences, fun o => CallTree.mem_occurrences_iff⟩
  · rw [walkEvents_of_stopAfter_eq_none rfl, CallTree.map_event_occurrences]
  · rw [walkEvents_of_stopAfter_eq_none rfl, CallTree.map_event_filter_occurrences]

/-- A walk that is to end after so many calls records just these of the calls that it records
otherwise. It reports that it was stopped if there are that many; after no call it never stops. -/
theorem walkEvents_stopAfter (t : Template ℓ) (skip : List Hook) (k : Nat) :
    walkEvents { skip, stopAfter := some (k + 1) } t =
        ⟨(walkEvents { skip } t).events.take (k + 1),
          if k + 1 ≤ (walkEvents { skip } t).events.size then some (k + 1) else none⟩ ∧
      walkEvents { skip, stopAfter := some 0 } t = walkEvents { skip } t ∧
      (walkEvents { skip } t).stoppedAfter = none := by
  have hall : walkEvents { skip } t = ⟨(t.callTree.preorder skip).toArray, none⟩ :=
    walkEvents_of_stopAfter_eq_none rfl t
  rw [hall]
  refine ⟨?_, walkEvents_of_not_stopped fun n _ => nofun, rfl⟩
  rw [List.size_toArray]
  by_cases h : k + 1 ≤ (t.callTree.preorder skip).length
  · rw [if_pos h, walkEvents_of_stopped rfl h, List.take_toArray]
  · rw [if_neg h, walkEvents_of_not_stopped, List.take_toArray,
      List.take_of_length_le (Nat.le_of_not_le h)]
    intro n hn heq
    cases heq
    exact h hn

/-- In `<a b="c"></a>` the text of the attribute is skipped, and the walk ends before the children. -/
example :
    walkEvents { skip := [.attr], stopAfter := some 5 }
        (⟨["x"], [.element ⟨"a", [⟨"b", .text ⟨"c", ()⟩, ()⟩], [], [], [], [], false, ()⟩], ()⟩ :
          Template Unit) =
      ⟨#[⟨.template, "x"⟩, ⟨.statement, "element"⟩, ⟨.element, "a"⟩, ⟨.attr, "b"⟩,
        ⟨.elementChildren, "a"⟩], some 5⟩ := by
  rfl

end TemplateScope
