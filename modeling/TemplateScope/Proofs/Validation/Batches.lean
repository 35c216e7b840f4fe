import Mathlib.Data.List.Pairwise
import TemplateScope.Proofs.Diagnostic.Sorting
import TemplateScope.Validation

/-!
# Batches

The units of a batch are diagnosed one by one, and sorting brings what is found into one order.
Since the sorting is stable, neither how a batch is cut into smaller ones nor, where no two
diagnostics are level, the order of its units has a part in the outcome (`diagnoseAll_sorts_findings`).
-/

namespace TemplateScope

open Diagnostic

variable (format : LocationFormat)

def findings (units : List TemplateUnit) : List Diagnostic :=
  units.flatMap fun u => (diagnose format u).toList

theorem diagnose_of_ok {u : TemplateUnit} (h : validate format u = .ok ()) :
    (diagnose format u).toList = [] := by
  rw [diagnose, conflict?, h]
  rfl

theorem diagnose_of_error {u : TemplateUnit} {c : Conflict} (h : validate format u = .error c) :
    (diagnose format u).toList = [c.toDiagnostic] := by
  rw [diagnose, conflict?, h]
  rfl

theorem validate_of_strictMode {u : TemplateUnit} (h : u.options.strictMode = true) :
    validate format u = .ok () :=
  Shadowing.check_of_strictMode h u.template

theorem diagnose_toList (u : TemplateUnit) :
    (diagnose format u).toList = ((conflict? format u).map Conflict.toDiagnostic).toList := by
  unfold diagnose
  cases conflict? format u with
  | none => rfl
  | some c => rfl

theorem findings_eq_map (units : List TemplateUnit) :
    findings format units = (units.filterMap (conflict? format)).map Conflict.toDiagnostic := by
  induction units with
  | nil => rfl
  | cons u rest ih =>
      rw [findings, List.flatMap_cons, diagnose_toList]
      change _ ++ findings format rest = _
      rw [ih, List.filterMap_cons]
      cases conflict? format u with
      | none => rfl
      | some c => rfl

theorem diagnoseAll_eq_sort (units : List TemplateUnit) :
    diagnoseAll format units = DiagnosticCollection.sort ⟨findings format units⟩ := by
  rw [findings_eq_map]
  rfl

theorem findings_append (units others : List TemplateUnit) :
    findings format (units ++ others) = findings format units ++ findings format others :=
  List.flatMap_append

theorem findings_perm {units units' : List TemplateUnit} (h : units.Perm units') :
    (findings format units).Perm (findings format units') :=
  h.flatMap_right _

/-! ## Sub-batches -/

theorem peers_diagnoseAll (d : Diagnostic) (units : List TemplateUnit) :
    peers d (diagnoseAll format units).toList = peers d (findings format units) := by
  rw [diagnoseAll_eq_sort, DiagnosticCollection.peers_sort]

/-- Level diagnostics stand in the order of their units in a sub-batch, too. -/
theorem diagnoseAll_flatten (batches : List (List TemplateUnit)) :
    diagnoseAll format batches.flatten =
      DiagnosticCollection.sort
        ⟨batches.flatMap fun units => (diagnoseAll format units).toList⟩ := by
  rw [diagnoseAll_eq_sort, DiagnosticCollection.sort_eq_sort_iff]
  intro d
  induction batches with
  | nil => rfl
  | cons units rest ih =>
      rw [List.flatten_cons, List.flatMap_cons, findings_append, peers_append, peers_append,
        peers_diagnoseAll, ih]

/-! ## Reordered units -/

/-- The modules are the same, and the starts. -/
def Conflict.Agrees (c c' : Conflict) : Prop :=
  c.moduleName = c'.moduleName ∧ c.loc.start = c'.loc.start

theorem Conflict.level_toDiagnostic_iff {c c' : Conflict} :
    c.toDiagnostic.Level c'.toDiagnostic ↔ c.Agrees c' :=
  and_congr_right fun _ => Option.some_inj

theorem Conflict.Agrees.symm {c c' : Conflict} (h : c.Agrees c') : c'.Agrees c :=
  ⟨h.1.symm, h.2.symm⟩

instance : Std.Symm fun c c' : Conflict => ¬ c.Agrees c' where
  symm _ _ h h' := h h'.symm

/-- Of findings that no two rejected units agree on, no two are level. -/
theorem eq_of_level_of_mem_findings {units : List TemplateUnit}
    (h : (units.filterMap (conflict? format)).Pairwise fun c c' => ¬ c.Agrees c')
    {d d' : Diagnostic} (hd : d ∈ findings format units) (hd' : d' ∈ findings format units)
    (hlevel : d.Level d') : d = d' := by
  rw [findings_eq_map, List.mem_map] at hd hd'
  obtain ⟨c, hc, rfl⟩ := hd
  obtain ⟨c', hc', rfl⟩ := hd'
  have hagrees := Conflict.level_toDiagnostic_iff.1 hlevel
  by_cases heq : c = c'
  · rw [heq]
  · exact absurd hagrees (h.forall hc hc' heq)

theorem diagnoseAll_perm {units units' : List TemplateUnit} (h : units.Perm units') :
    (diagnoseAll format units).toList.Perm (diagnoseAll format units').toList := by
  rw [diagnoseAll_eq_sort, diagnoseAll_eq_sort]
  exact (DiagnosticCollection.sort_perm _).trans
    ((findings_perm format h).trans (DiagnosticCollection.sort_perm _).symm)

theorem diagnoseAll_eq_of_perm {units units' : List TemplateUnit} (h : units.Perm units')
    (hdistinct : (units.filterMap (conflict? format)).Pairwise fun c c' => ¬ c.Agrees c') :
    diagnoseAll format units = diagnoseAll format units' := by
  have hperm := diagnoseAll_perm format h
  rw [diagnoseAll_eq_sort, diagnoseAll_eq_sort] at hperm ⊢
  refine congrArg DiagnosticCollection.mk (hperm.eq_of_pairwise (fun d d' hd hd' hle hge => ?_)
    (DiagnosticCollection.sort_pairwise _) (DiagnosticCollection.sort_pairwise _))
  have hmem : d ∈ findings format units := (DiagnosticCollection.sort_perm _).mem_iff.1 hd
  have hmem' : d' ∈ findings format units :=
    (findings_perm format h).mem_iff.2 ((DiagnosticCollection.sort_perm _).mem_iff.1 hd')
  exact eq_of_level_of_mem_findings format hdistinct hmem hmem' (level_of_isLE hle hge)

/-- A batch has one diagnostic for each rejected unit, the one of this unit by itself, in the order
of modules and starts and, where these are the same, of the units. The collections of sub-batches,
one after another and sorted, are the collection of the whole batch. Reordered units have the same
diagnostics, and in the same order if no two rejected units agree in module and start. -/
theorem diagnoseAll_sorts_findings :
    (∀ u : TemplateUnit,
      (∀ c, validate format u = .error c → (diagnose format u).toList = [c.toDiagnostic]) ∧
        (validate format u = .ok () → (diagnose format u).toList = []) ∧
        (u.options.strictMode = true → validate format u = .ok ())) ∧
      (∀ units,
        (diagnoseAll format units).toList.Perm
            (units.flatMap fun u => (diagnose format u).toList) ∧
          (diagnoseAll format units).toList.Pairwise Precedes ∧
          ∀ d : Diagnostic, (diagnoseAll format units).toList.filter (d.Level ·) =
            (units.flatMap fun u => (diagnose format u).toList).filter (d.Level ·)) ∧
      (∀ batches : List (List TemplateUnit), diagnoseAll format batches.flatten =
        DiagnosticCollection.sort
          ⟨batches.flatMap fun units => (diagnoseAll format units).toList⟩) ∧
      ∀ units units' : List TemplateUnit, units.Perm units' →
        (diagnoseAll format units).toList.Perm (diagnoseAll format units').toList ∧
          (((units.filterMap (conflict? format)).Pairwise fun c c' => ¬ c.Agrees c') →
            diagnoseAll format units = diagnoseAll format units') := by
  refine ⟨fun u => ⟨fun c => diagnose_of_error format, diagnose_of_ok format,
    validate_of_strictMode format⟩, fun units => ⟨?_, ?_, fun d => peers_diagnoseAll format d units⟩,
    diagnoseAll_flatten format, fun units units' h =>
      ⟨diagnoseAll_perm format h, diagnoseAll_eq_of_perm format h⟩⟩
  · rw [diagnoseAll_eq_sort]
    exact DiagnosticCollection.sort_perm _
  · rw [diagnoseAll_eq_sort]
    exact (DiagnosticCollection.sort_pairwise _).imp order_isLE_iff.1

end TemplateScope
