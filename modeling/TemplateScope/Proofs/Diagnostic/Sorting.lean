import TemplateScope.Diagnostic.Collection
import TemplateScope.Proofs.Text.ByteOrder

/-!
# Sorted diagnostics

`Diagnostic.order` in plain words is `Precedes`. Sorting leaves diagnostics in the order in which
they were as far as the order does not tell them apart (`peers_sort`), and a sorted list is known
once it is known of any diagnostic which ones are level with it, and in which order
(`eq_of_peers_eq`). So a stable arrangement is unique, and lists are compared class by class.
-/

namespace TemplateScope

namespace Diagnostic

/-! ## The order -/

/-- Modules go by their bytes, and in a module starts go by line and then by column. Having no
module comes before having one, and so it is with starts. -/
def Precedes (d d' : Diagnostic) : Prop :=
  Option.lt (fun m n => Utf8.bytes m < Utf8.bytes n) d.moduleName d'.moduleName ∨
    d.moduleName = d'.moduleName ∧ (Option.lt (· < ·) d.start? d'.start? ∨ d.start? = d'.start?)

theorem compare_string_eq_lt_iff {s t : String} :
    compare s t = .lt ↔ Utf8.bytes s < Utf8.bytes t := by
  rw [Utf8.bytes_lt_iff]
  exact compareOfLessAndEq_eq_lt

theorem compare_option_eq_lt_iff {α : Type} [Ord α] {lt : α → α → Prop}
    (h : ∀ x y : α, compare x y = .lt ↔ lt x y) (a b : Option α) :
    compare a b = .lt ↔ Option.lt lt a b := by
  cases a with
  | none => cases b <;> simp [compare, Option.lt]
  | some x =>
      cases b with
      | none => simp [compare, Option.lt]
      | some y => exact h x y

theorem order_isLE_iff {d d' : Diagnostic} : (order d d').isLE ↔ d.Precedes d' := by
  have hmodule := compare_option_eq_lt_iff (fun _ _ => compare_string_eq_lt_iff)
    d.moduleName d'.moduleName
  have hposition (p q : Position) : compare p q = .lt ↔ p < q := Iff.rfl
  have hstart := compare_option_eq_lt_iff hposition d.start? d'.start?
  rw [order, compareLex, Ordering.isLE_then_iff_or, compareOn, compareOn, hmodule,
    Std.LawfulEqOrd.compare_eq_iff_eq, Ordering.isLE_iff_eq_lt_or_eq_eq, hstart,
    Std.LawfulEqOrd.compare_eq_iff_eq]
  rfl

/-! ## Stability -/

/-- Nothing that the order looks at tells the two apart. -/
def Level (d d' : Diagnostic) : Prop := d.moduleName = d'.moduleName ∧ d.start? = d'.start?

instance (d d' : Diagnostic) : Decidable (d.Level d') := inferInstanceAs (Decidable (_ ∧ _))

theorem Level.symm {d d' : Diagnostic} (h : d.Level d') : d'.Level d := ⟨h.1.symm, h.2.symm⟩

theorem Level.trans {d d' d'' : Diagnostic} (h : d.Level d') (h' : d'.Level d'') : d.Level d'' :=
  ⟨h.1.trans h'.1, h.2.trans h'.2⟩

theorem Level.isLE {d d' : Diagnostic} (h : d.Level d') : (order d d').isLE := by
  rw [order_eq_eq_iff.2 h]
  rfl

theorem order_total (d d' : Diagnostic) : ((order d d').isLE || (order d' d).isLE) = true := by
  have hswap : order d' d = (order d d').swap := Std.OrientedCmp.eq_swap
  rw [hswap]
  cases order d d' <;> rfl

theorem level_of_isLE {d d' : Diagnostic} (h : (order d d').isLE) (h' : (order d' d).isLE) :
    d.Level d' :=
  order_eq_eq_iff.1 (Std.OrientedCmp.isLE_antisymm h h')

def peers (d : Diagnostic) (ds : List Diagnostic) : List Diagnostic := ds.filter (d.Level ·)

theorem peers_cons (d e : Diagnostic) (ds : List Diagnostic) :
    peers d (e :: ds) = if d.Level e then e :: peers d ds else peers d ds := by
  rw [peers, List.filter_cons]
  simp only [decide_eq_true_eq]
  rfl

theorem peers_append (d : Diagnostic) (ds es : List Diagnostic) :
    peers d (ds ++ es) = peers d ds ++ peers d es :=
  List.filter_append ds es

theorem mem_peers {d e : Diagnostic} {ds : List Diagnostic} :
    e ∈ peers d ds ↔ e ∈ ds ∧ d.Level e := by
  rw [peers, List.mem_filter, decide_eq_true_eq]

theorem mem_of_peers_eq {d : Diagnostic} {ds es : List Diagnostic}
    (h : peers d ds = peers d es) (hd : d ∈ ds) : d ∈ es := by
  have hmem : d ∈ peers d ds := mem_peers.2 ⟨hd, rfl, rfl⟩
  rw [h] at hmem
  exact (mem_peers.1 hmem).1

theorem isLE_of_pairwise_cons {d e : Diagnostic} {ds : List Diagnostic}
    (h : (d :: ds).Pairwise fun x y => (order x y).isLE) (he : e ∈ d :: ds) :
    (order d e).isLE := by
  rcases List.mem_cons.1 he with rfl | he
  · exact Level.isLE ⟨rfl, rfl⟩
  · exact List.rel_of_pairwise_cons h he

/-- There is one sorted list with given peers of each diagnostic. -/
theorem eq_of_peers_eq {ds es : List Diagnostic}
    (hds : ds.Pairwise fun x y => (order x y).isLE)
    (hes : es.Pairwise fun x y => (order x y).isLE)
    (h : ∀ d, peers d ds = peers d es) : ds = es := by
  induction ds generalizing es with
  | nil =>
      cases es with
      | nil => rfl
      | cons e es => exact nomatch mem_of_peers_eq (h e).symm List.mem_cons_self
  | cons d ds ih =>
      cases es with
      | nil => exact nomatch mem_of_peers_eq (h d) List.mem_cons_self
      | cons e es =>
          -- each of the two heads occurs in the other list, so neither precedes the other
          have hle := isLE_of_pairwise_cons hds (mem_of_peers_eq (h e).symm List.mem_cons_self)
          have hge := isLE_of_pairwise_cons hes (mem_of_peers_eq (h d) List.mem_cons_self)
          have hlevel := level_of_isLE hle hge
          have hheads := h d
          rw [peers_cons, peers_cons, if_pos ⟨rfl, rfl⟩, if_pos hlevel, List.cons.injEq] at hheads
          obtain ⟨rfl, -⟩ := hheads
          rw [ih hds.of_cons hes.of_cons fun other => ?_]
          have hother := h other
          rw [peers_cons, peers_cons] at hother
          split at hother
          · exact List.tail_eq_of_cons_eq hother
          · exact hother

end Diagnostic

namespace DiagnosticCollection

open Diagnostic

theorem sort_perm (c : DiagnosticCollection) : c.sort.toList.Perm c.toList :=
  List.mergeSort_perm _ _

theorem sort_pairwise (c : DiagnosticCollection) :
    c.sort.toList.Pairwise fun x y => (order x y).isLE :=
  List.pairwise_mergeSort (fun _ _ _ => Std.TransCmp.isLE_trans)
    order_total _

/-- What the order does not tell apart stays in the order in which it was. -/
theorem peers_sort (d : Diagnostic) (c : DiagnosticCollection) :
    peers d c.sort.toList = peers d c.toList := by
  have hlength : (peers d c.sort.toList).length = (peers d c.toList).length :=
    (c.sort_perm.filter _).length_eq
  have hlevel : (peers d c.toList).Pairwise fun x y => (order x y).isLE = true := by
    refine List.pairwise_of_forall_mem_list fun x hx y hy => ?_
    exact ((mem_peers.1 hx).2.symm.trans (mem_peers.1 hy).2).isLE
  have hsub : (peers d c.toList).Sublist c.sort.toList :=
    List.sublist_mergeSort (fun _ _ _ => Std.TransCmp.isLE_trans)
      order_total hlevel List.filter_sublist
  have hpeers : (peers d c.toList).Sublist (peers d c.sort.toList) := by
    have hfilter := hsub.filter (d.Level ·)
    simpa only [peers, List.filter_filter, Bool.and_self] using hfilter
  exact (hpeers.eq_of_length hlength.symm).symm

theorem sort_eq_sort_iff {c c' : DiagnosticCollection} :
    c.sort = c'.sort ↔ ∀ d, peers d c.toList = peers d c'.toList := by
  constructor
  · intro h d
    rw [← peers_sort d c, h, peers_sort]
  · intro h
    have htoList : c.sort.toList = c'.sort.toList :=
      eq_of_peers_eq c.sort_pairwise c'.sort_pairwise fun d => by
        rw [peers_sort, peers_sort, h d]
    exact congrArg DiagnosticCollection.mk htoList

end DiagnosticCollection

end TemplateScope
