import TemplateScope.Scope.Tracker

/-!
# A tracker is a stack of name lists

Whoever uses a tracker makes calls on it, one after another, and sees the replies. A plain stack
that keeps nothing but the open frames gives the same replies (`tracker_refines_stack`): what the
tracker counts beside its frames only spares it the search.
-/

namespace TemplateScope

inductive ScopeCall where
  | enter (names : List String)
  | exit
  | isBound (name : String)
  | depth
deriving DecidableEq, Repr

inductive ScopeReply where
  | done
  | fault (fault : ScopeFault)
  | bound (answer : Bool)
  | depth (frames : Nat)
deriving DecidableEq, Repr

/-! ## Calls in a row -/

def ScopeCall.runAll {σ : Type} (call : σ → ScopeCall → ScopeReply × σ) (s : σ) :
    List ScopeCall → List ScopeReply × σ
  | [] => ([], s)
  | c :: rest =>
      ((call s c).1 :: (runAll call (call s c).2 rest).1, (runAll call (call s c).2 rest).2)

/-- A call that fails leaves the tracker as it was. -/
def ScopeTracker.call (t : ScopeTracker) : ScopeCall → ScopeReply × ScopeTracker
  | .enter names => (.done, t.enter names)
  | .exit =>
      match t.exit with
      | .ok t' => (.done, t')
      | .error fault => (.fault fault, t)
  | .isBound name => (.bound (t.isBound name), t)
  | .depth => (.depth t.depth, t)

def ScopeTracker.run (calls : List ScopeCall) : List ScopeReply × ScopeTracker :=
  ScopeCall.runAll call new calls

/-- Frames that were entered and not yet exited, innermost first. -/
abbrev ScopeStack := List (List String)

namespace ScopeStack

def call (stack : ScopeStack) : ScopeCall → ScopeReply × ScopeStack
  | .enter names => (.done, names :: stack)
  | .exit =>
      match stack with
      | [] => (.fault .unmatchedExit, [])
      | _ :: outer => (.done, outer)
  | .isBound name => (.bound (stack.any (name ∈ ·)), stack)
  | .depth => (.depth stack.length, stack)

def run (calls : List ScopeCall) : List ScopeReply × ScopeStack :=
  ScopeCall.runAll call [] calls

end ScopeStack

/-! ## One call -/

namespace ScopeTracker

/-- The open frames are those of the stack, and the counts are right for them. -/
structure Refines (t : ScopeTracker) (stack : ScopeStack) : Prop where
  frames : t.frames = stack
  counted : t.Counted

theorem refines_new : new.Refines [] := ⟨rfl, new_counted⟩

theorem Refines.isBound_eq {t : ScopeTracker} {stack : ScopeStack} (h : t.Refines stack)
    (name : String) : t.isBound name = stack.any (name ∈ ·) := by
  rw [Bool.eq_iff_iff, isBound_iff h.counted, h.frames]
  simp

theorem Refines.enter {t : ScopeTracker} {stack : ScopeStack} (h : t.Refines stack)
    (names : List String) : (t.enter names).Refines (names :: stack) where
  frames := congrArg (names :: ·) h.frames
  counted := enter_counted h.counted names

theorem Refines.exit_nil {t : ScopeTracker} (h : t.Refines []) :
    t.exit = .error .unmatchedExit := by
  rw [exit, h.frames]

theorem Refines.exit_cons {t : ScopeTracker} {names : List String} {outer : ScopeStack}
    (h : t.Refines (names :: outer)) : ∃ t', t.exit = .ok t' ∧ t'.Refines outer := by
  obtain ⟨t', hexit, hframes, hcounted⟩ := exit_counted h.counted h.frames
  exact ⟨t', hexit, hframes, hcounted⟩

/-- Made on a tracker and on its stack, a call has the same reply, and leads to a tracker and its
stack again. -/
theorem Refines.call {t : ScopeTracker} {stack : ScopeStack} (h : t.Refines stack)
    (c : ScopeCall) :
    (t.call c).1 = (stack.call c).1 ∧ (t.call c).2.Refines (stack.call c).2 := by
  cases c with
  | enter names => exact ⟨rfl, h.enter names⟩
  | exit =>
      cases stack with
      | nil =>
          rw [ScopeTracker.call, h.exit_nil]
          exact ⟨rfl, h⟩
      | cons names outer =>
          obtain ⟨t', hexit, houter⟩ := h.exit_cons
          rw [ScopeTracker.call, hexit]
          exact ⟨rfl, houter⟩
  | isBound name => exact ⟨congrArg ScopeReply.bound (h.isBound_eq name), h⟩
  | depth =>
      have hdepth : t.depth = stack.length := congrArg List.length h.frames
      exact ⟨congrArg ScopeReply.depth hdepth, h⟩

/-! ## Any calls -/

theorem Refines.runAll {t : ScopeTracker} {stack : ScopeStack} (h : t.Refines stack)
    (calls : List ScopeCall) :
    (ScopeCall.runAll ScopeTracker.call t calls).1 =
        (ScopeCall.runAll ScopeStack.call stack calls).1 ∧
      (ScopeCall.runAll ScopeTracker.call t calls).2.Refines
        (ScopeCall.runAll ScopeStack.call stack calls).2 := by
  induction calls generalizing t stack with
  | nil => exact ⟨rfl, h⟩
  | cons c rest ih =>
      obtain ⟨hreply, hnext⟩ := h.call c
      obtain ⟨hreplies, hlast⟩ := ih hnext
      refine ⟨?_, hlast⟩
      rw [ScopeCall.runAll, ScopeCall.runAll, hreply, hreplies]

theorem Refines.count_le {t : ScopeTracker} {stack : ScopeStack} (h : t.Refines stack)
    {name : String} {n : Nat} (hn : t.counts[name]? = some n) : n ≤ stack.flatten.length := by
  have hcount := h.counted name
  rw [h.frames, hn] at hcount
  by_cases hmem : name ∈ stack.flatten
  · rw [if_pos hmem, Option.some.injEq] at hcount
    exact hcount ▸ List.count_le_length
  · rw [if_neg hmem] at hcount
    cases hcount

theorem Refines.exit_eq_error_iff {t : ScopeTracker} {stack : ScopeStack} (h : t.Refines stack)
    {fault : ScopeFault} : t.exit = .error fault ↔ fault = .unmatchedExit ∧ stack = [] := by
  cases stack with
  | nil =>
      rw [h.exit_nil, Except.error.injEq]
      exact ⟨fun hfault => ⟨hfault.symm, rfl⟩, fun hfault => hfault.1.symm⟩
  | cons names outer =>
      obtain ⟨t', hexit, _⟩ := h.exit_cons
      rw [hexit]
      exact ⟨nofun, fun hfault => nomatch hfault.2⟩

theorem call_exit_of_error {t : ScopeTracker} {fault : ScopeFault} (h : t.exit = .error fault) :
    t.call .exit = (.fault fault, t) := by
  rw [call, h]

/-- The tracker replies to any calls like the stack. After them its frames, its bound names, its
depth and its counts are those of the stack. To exit fails when no frame is open, and for no other
reason, and later calls then go as if it had not been tried; else it closes the innermost frame. As
long as the open frames hold no more names than 32 bits can count, every count fits these, too. -/
theorem tracker_refines_stack (calls : List ScopeCall) :
    (run calls).1 = (ScopeStack.run calls).1 ∧
      (run calls).2.frames = (ScopeStack.run calls).2 ∧
      (∀ name, (run calls).2.isBound name = true ↔
        ∃ frame ∈ (ScopeStack.run calls).2, name ∈ frame) ∧
      (run calls).2.depth = (ScopeStack.run calls).2.length ∧
      (∀ name, (run calls).2.counts[name]? =
        if name ∈ (ScopeStack.run calls).2.flatten then
          some ((ScopeStack.run calls).2.flatten.count name)
        else none) ∧
      (∀ fault, (run calls).2.exit = .error fault ↔
        fault = .unmatchedExit ∧ (ScopeStack.run calls).2 = []) ∧
      ((ScopeStack.run calls).2 = [] →
        ∀ later, ScopeCall.runAll call (run calls).2 (.exit :: later) =
          (.fault .unmatchedExit :: (ScopeCall.runAll call (run calls).2 later).1,
            (ScopeCall.runAll call (run calls).2 later).2)) ∧
      (∀ frame outer, (ScopeStack.run calls).2 = frame :: outer →
        ∃ t, (run calls).2.exit = .ok t ∧ t.frames = outer) ∧
      ((ScopeStack.run calls).2.flatten.length < UInt32.size →
        ∀ (name : String) (n : Nat), (run calls).2.counts[name]? = some n → n < UInt32.size) := by
  obtain ⟨hreplies, hlast⟩ : (run calls).1 = (ScopeStack.run calls).1 ∧
      (run calls).2.Refines (ScopeStack.run calls).2 := refines_new.runAll calls
  have hcounts := hlast.counted
  rw [Counted, hlast.frames] at hcounts
  refine ⟨hreplies, hlast.frames, fun name => ?_, congrArg List.length hlast.frames, hcounts,
    fun fault => hlast.exit_eq_error_iff, fun hempty later => ?_, fun frame outer hopen => ?_,
    fun hfits name n hn => ?_⟩
  · rw [isBound_iff hlast.counted, hlast.frames]
  · rw [hempty] at hlast
    rw [ScopeCall.runAll, call_exit_of_error hlast.exit_nil]
  · rw [hopen] at hlast
    obtain ⟨t, hexit, houter⟩ := hlast.exit_cons
    exact ⟨t, hexit, houter.frames⟩
  · have hle : n ≤ (ScopeStack.run calls).2.flatten.length := hlast.count_le hn
    exact Nat.lt_of_le_of_lt hle hfits

/-- The inner frame binds a name twice that is bound outside, too, and the last exit fails. -/
example :
    (run [.enter ["item"], .enter ["item", "index", "item"], .exit, .isBound "item",
        .isBound "index", .exit, .exit, .depth]).1 =
      [.done, .done, .done, .bound true, .bound false, .done, .fault .unmatchedExit, .depth 0] := by
  decide

end ScopeTracker

end TemplateScope
