import Std.Data.TreeMap

/-!
# Tracking the names in scope

A tracker keeps the open frames of a traversal, innermost first, and beside them how often each
name is bound in them, so that asking whether a name is bound does not search the frames. `Counted`
says that the two agree. Opening and closing a frame keep it, and closing a frame of a tracker that
has it can only fail for want of a frame (`exit_counted`).

Counts are natural numbers, which do not run out. In 32 bits they are the same for as long as the
open frames list no name 2 ^ 32 times. `ScopeTracker.tracker_refines_stack` has this condition in its
statement. What is proved of the check of a template relies on it without saying so.
-/

namespace TemplateScope

/-- What may go wrong with the bookkeeping of scopes. -/
inductive ScopeFault where
  | unmatchedExit
  /-- A frame binds a name whose count is already zero. -/
  | countBelowZero (name : String)
  | unclosed (depth : Nat)
deriving DecidableEq, Repr

def ScopeFault.message : ScopeFault → String
  | .unmatchedExit => "exit_scope called without a matching enter_scope"
  | .countBelowZero name => s!"the count of {name} falls below zero"
  | .unclosed depth => s!"{depth} scopes are open at the end"

/-- How many open frames bind a name, counted once for every time a frame lists it. -/
abbrev NameCounts := Std.TreeMap String Nat

namespace NameCounts

def add (counts : NameCounts) (name : String) : NameCounts :=
  counts.insert name (counts.getD name 0 + 1)

/-- A name whose count reaches zero has no entry any more. -/
def release (counts : NameCounts) (name : String) : Except ScopeFault NameCounts :=
  match counts[name]? with
  | none => .ok counts
  | some 0 => .error (.countBelowZero name)
  | some 1 => .ok (counts.erase name)
  | some (n + 2) => .ok (counts.insert name (n + 1))

/-- The counts are those of the names in a list, and a name that is not in it has no entry. -/
def Agrees (counts : NameCounts) (names : List String) : Prop :=
  ∀ name, counts[name]? = if name ∈ names then some (names.count name) else none

theorem agrees_empty : Agrees ∅ [] := by
  intro name
  simp

theorem agrees_add {counts : NameCounts} {names : List String} (h : counts.Agrees names)
    (name : String) : (counts.add name).Agrees (name :: names) := by
  intro other
  have hname := h name
  have hother := h other
  by_cases heq : name = other
  · subst heq
    by_cases hmem : name ∈ names
    · simp_all [add, Std.TreeMap.getD_eq_getD_getElem?]
    · simp_all [add, Std.TreeMap.getD_eq_getD_getElem?, List.count_eq_zero]
  · have hne : ¬ other = name := fun h => heq h.symm
    simp_all [add, Std.TreeMap.getElem?_insert]

theorem agrees_release {counts : NameCounts} {name : String} {names : List String}
    (h : counts.Agrees (name :: names)) :
    ∃ counts', counts.release name = .ok counts' ∧ counts'.Agrees names := by
  have hname := h name
  simp only [List.mem_cons, true_or, if_true, List.count_cons_self] at hname
  by_cases hmem : name ∈ names
  · have hpos : 0 < names.count name := List.count_pos_iff.2 hmem
    obtain ⟨n, hn⟩ : ∃ n, names.count name = n + 1 := ⟨names.count name - 1, by omega⟩
    refine ⟨counts.insert name (n + 1), by simp [release, hname, hn], ?_⟩
    intro other
    have hother := h other
    by_cases heq : name = other
    · subst heq
      simp [hmem, hn]
    · have hne : ¬ other = name := fun h => heq h.symm
      simp_all [Std.TreeMap.getElem?_insert]
  · refine ⟨counts.erase name, by simp [release, hname, List.count_eq_zero.2 hmem], ?_⟩
    intro other
    have hother := h other
    by_cases heq : name = other
    · subst heq
      simp [hmem]
    · have hne : ¬ other = name := fun h => heq h.symm
      simp_all [Std.TreeMap.getElem?_erase]

theorem Agrees.perm {counts : NameCounts} {names others : List String} (h : counts.Agrees names)
    (hperm : names.Perm others) : counts.Agrees others := by
  intro name
  rw [h name, hperm.count_eq]
  simp only [hperm.mem_iff]

theorem agrees_foldl_add {counts : NameCounts} {outer : List String} (h : counts.Agrees outer)
    (names : List String) : (names.foldl add counts).Agrees (names ++ outer) := by
  induction names generalizing counts outer with
  | nil => exact h
  | cons name names ih => exact (ih (agrees_add h name)).perm List.perm_middle

theorem agrees_foldlM_release {counts : NameCounts} {names outer : List String}
    (h : counts.Agrees (names ++ outer)) :
    ∃ counts', names.foldlM release counts = .ok counts' ∧ counts'.Agrees outer := by
  induction names generalizing counts with
  | nil => exact ⟨counts, rfl, h⟩
  | cons name names ih =>
      obtain ⟨middle, hmiddle, hagrees⟩ := agrees_release h
      obtain ⟨counts', hcounts', houter⟩ := ih hagrees
      exact ⟨counts', by simpa [hmiddle, bind, Except.bind] using hcounts', houter⟩

end NameCounts

/-- The open frames, innermost first, and the count of each name in them. -/
structure ScopeTracker where
  frames : List (List String)
  counts : NameCounts

namespace ScopeTracker

def new : ScopeTracker := ⟨[], ∅⟩

/-- Open a frame that binds `names`, some of them perhaps more than once. -/
def enter (t : ScopeTracker) (names : List String) : ScopeTracker :=
  ⟨names :: t.frames, names.foldl NameCounts.add t.counts⟩

def exit (t : ScopeTracker) : Except ScopeFault ScopeTracker :=
  match t.frames with
  | [] => .error .unmatchedExit
  | names :: frames => do
      let counts ← names.foldlM NameCounts.release t.counts
      return ⟨frames, counts⟩

def isBound (t : ScopeTracker) (name : String) : Bool := t.counts.contains name

def depth (t : ScopeTracker) : Nat := t.frames.length

/-- The counts are those of the names in the open frames. -/
def Counted (t : ScopeTracker) : Prop := t.counts.Agrees t.frames.flatten

theorem new_counted : new.Counted := NameCounts.agrees_empty

theorem enter_counted {t : ScopeTracker} (h : t.Counted) (names : List String) :
    (t.enter names).Counted := by
  simpa [Counted, enter] using NameCounts.agrees_foldl_add h names

theorem exit_counted {t : ScopeTracker} (h : t.Counted) {names : List String}
    {frames : List (List String)} (hframes : t.frames = names :: frames) :
    ∃ t', t.exit = .ok t' ∧ t'.frames = frames ∧ t'.Counted := by
  unfold Counted at h
  rw [hframes, List.flatten_cons] at h
  obtain ⟨counts, hcounts, houter⟩ := NameCounts.agrees_foldlM_release h
  exact ⟨⟨frames, counts⟩, by simp [exit, hframes, hcounts, bind, Except.bind, pure, Except.pure],
    rfl, houter⟩

/-- Where the counts agree with the frames, a name is bound when some open frame lists it. -/
theorem isBound_iff {t : ScopeTracker} (h : t.Counted) {name : String} :
    t.isBound name = true ↔ ∃ frame ∈ t.frames, name ∈ frame := by
  have hname := h name
  rw [isBound, Std.TreeMap.contains_eq_isSome_getElem?, hname, ← List.mem_flatten]
  by_cases hmem : name ∈ t.frames.flatten <;> simp [hmem]

end ScopeTracker

end TemplateScope
