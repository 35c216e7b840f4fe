import TemplateScope.Proofs.Diagnostic.Sorting

/-!
# Collecting and sorting in turn

A collection may be sorted at any time, and more may be added to it afterwards. A sort moves only
what is out of order, so however adding and sorting take turns, diagnostics that are level stand in
the order in which they were added (`Gathers.run`). Right after a sort this leaves one arrangement
of what was added, as if there had been no other sort (`run_sort_arranges`).
-/

namespace TemplateScope

namespace Diagnostic

/-! ## A total preorder -/

theorem Precedes.trans {d d' d'' : Diagnostic} (h : d.Precedes d') (h' : d'.Precedes d'') :
    d.Precedes d'' := by
  rw [← order_isLE_iff] at h h' ⊢
  exact Std.TransCmp.isLE_trans h h'

theorem precedes_total (d d' : Diagnostic) : d.Precedes d' ∨ d'.Precedes d := by
  have htotal := order_total d d'
  rwa [Bool.or_eq_true, order_isLE_iff, order_isLE_iff] at htotal

theorem level_iff_precedes {d d' : Diagnostic} :
    d.Level d' ↔ d.Precedes d' ∧ d'.Precedes d := by
  rw [← order_isLE_iff, ← order_isLE_iff]
  constructor
  · intro h
    exact ⟨h.isLE, h.symm.isLE⟩
  · rintro ⟨hle, hge⟩
    exact level_of_isLE hle hge

theorem pairwise_precedes_iff {ds : List Diagnostic} :
    ds.Pairwise Precedes ↔ ds.Pairwise fun x y => (order x y).isLE :=
  List.Pairwise.iff fun _ _ => order_isLE_iff.symm

end Diagnostic

inductive CollectionStep where
  | add (d : Diagnostic)
  | sort
deriving DecidableEq, Repr

namespace CollectionStep

def added? : CollectionStep → Option Diagnostic
  | .add d => some d
  | .sort => none

/-- Everything that some steps add, in the order in which they do. -/
def additions (steps : List CollectionStep) : List Diagnostic := steps.filterMap added?

theorem additions_cons (s : CollectionStep) (steps : List CollectionStep) :
    additions (s :: steps) = s.added?.toList ++ additions steps := by
  cases s with
  | add d => rfl
  | sort => rfl

end CollectionStep

namespace DiagnosticCollection

open Diagnostic CollectionStep

def step (c : DiagnosticCollection) : CollectionStep → DiagnosticCollection
  | .add d => c.add d
  | .sort => c.sort

def run (steps : List CollectionStep) : DiagnosticCollection := steps.foldl step empty

theorem run_sort (steps : List CollectionStep) : run (steps ++ [.sort]) = (run steps).sort := by
  rw [run, List.foldl_append]
  rfl

/-! ## What a collection holds -/

/-- The collection holds these diagnostics, each as often as it is there, and those that are level
in the order given. -/
structure Gathers (c : DiagnosticCollection) (ds : List Diagnostic) : Prop where
  perm : c.toList.Perm ds
  peers : ∀ d, peers d c.toList = peers d ds

theorem gathers_empty : empty.Gathers [] := ⟨.refl _, fun _ => rfl⟩

theorem Gathers.add {c : DiagnosticCollection} {ds : List Diagnostic} (h : c.Gathers ds)
    (d : Diagnostic) : (c.add d).Gathers (ds ++ [d]) where
  perm := h.perm.append_right [d]
  peers e := by
    have hlast : (c.add d).toList = c.toList ++ [d] := rfl
    rw [hlast, peers_append, peers_append, h.peers]

theorem Gathers.sort {c : DiagnosticCollection} {ds : List Diagnostic} (h : c.Gathers ds) :
    c.sort.Gathers ds where
  perm := c.sort_perm.trans h.perm
  peers d := (peers_sort d c).trans (h.peers d)

theorem Gathers.step {c : DiagnosticCollection} {ds : List Diagnostic} (h : c.Gathers ds)
    (s : CollectionStep) : (c.step s).Gathers (ds ++ s.added?.toList) := by
  cases s with
  | add d => exact h.add d
  | sort =>
      have hsort : c.sort.Gathers ds := h.sort
      rwa [← List.append_nil ds] at hsort

theorem Gathers.foldl {c : DiagnosticCollection} {ds : List Diagnostic} (h : c.Gathers ds)
    (steps : List CollectionStep) : (steps.foldl DiagnosticCollection.step c).Gathers
      (ds ++ additions steps) := by
  induction steps generalizing c ds with
  | nil =>
      rw [← List.append_nil ds] at h
      exact h
  | cons s steps ih =>
      rw [additions_cons, ← List.append_assoc]
      exact ih (h.step s)

theorem Gathers.run (steps : List CollectionStep) : (run steps).Gathers (additions steps) :=
  gathers_empty.foldl steps

/-! ## Right after a sort -/

/-- The order of modules and starts is a total preorder that ties exactly the diagnostics that are
level. Whatever sorts there have been in between, a sort leaves what has been added so far in this
order, and level diagnostics as they were added. There is no other list like this. -/
theorem run_sort_arranges :
    (∀ d : Diagnostic, d.Precedes d) ∧
      (∀ d d' d'' : Diagnostic, d.Precedes d' → d'.Precedes d'' → d.Precedes d'') ∧
      (∀ d d' : Diagnostic, d.Precedes d' ∨ d'.Precedes d) ∧
      (∀ d d' : Diagnostic, d.Level d' ↔ d.Precedes d' ∧ d'.Precedes d) ∧
      ∀ steps : List CollectionStep,
        (run (steps ++ [.sort])).toList.Perm (additions steps) ∧
          (run (steps ++ [.sort])).toList.Pairwise Precedes ∧
          (∀ d : Diagnostic, (run (steps ++ [.sort])).toList.filter (d.Level ·) =
            (additions steps).filter (d.Level ·)) ∧
          ∀ ds : List Diagnostic, ds.Pairwise Precedes →
            (∀ d : Diagnostic, ds.filter (d.Level ·) = (additions steps).filter (d.Level ·)) →
              ds = (run (steps ++ [.sort])).toList := by
  refine ⟨fun d => (level_iff_precedes.1 ⟨rfl, rfl⟩).1, fun d d' d'' => Precedes.trans,
    precedes_total, fun d d' => level_iff_precedes, fun steps => ?_⟩
  have hgathers : (run steps).sort.Gathers (additions steps) := (Gathers.run steps).sort
  have hsorted := (run steps).sort_pairwise
  rw [run_sort]
  refine ⟨hgathers.perm, pairwise_precedes_iff.2 hsorted, hgathers.peers, fun ds hds hpeers => ?_⟩
  rw [pairwise_precedes_iff] at hds
  exact eq_of_peers_eq hds hsorted fun d => (hpeers d).trans (hgathers.peers d).symm

end DiagnosticCollection

end TemplateScope
