import Mathlib.Data.Set.Operations
import TemplateScope.Syntax.Path

/-!
# Paths and their spellings

Every text is the spelling of the path that is read from it. The other way round a path need not be
the one that its spelling is read as: a dot inside a name is taken for a separator, and a bare name
may look like another head. These are the only ways to be misread (`spelling_bijOn`), so canonical
paths and texts correspond one to one.
-/

namespace TemplateScope

/-! ## Cutting at dots -/

theorem splitDots_dot (rest : List Char) :
    splitDots ('.' :: rest) = ([], (splitDots rest).1 :: (splitDots rest).2) := by
  rw [splitDots]
  exact if_pos rfl

theorem splitDots_cons {c : Char} (hc : c ≠ '.') (rest : List Char) :
    splitDots (c :: rest) = (c :: (splitDots rest).1, (splitDots rest).2) := by
  rw [splitDots]
  exact if_neg hc

theorem dot_notMem_splitDots (text : List Char) :
    '.' ∉ (splitDots text).1 ∧ ∀ segment ∈ (splitDots text).2, '.' ∉ segment := by
  induction text with
  | nil => exact ⟨List.not_mem_nil, nofun⟩
  | cons c rest ih =>
      by_cases hc : c = '.'
      · subst hc
        rw [splitDots_dot]
        exact ⟨List.not_mem_nil, List.forall_mem_cons.2 ih⟩
      · rw [splitDots_cons hc]
        exact ⟨List.not_mem_cons_of_ne_of_not_mem (Ne.symm hc) ih.1, ih.2⟩

/-- What holds no dot stays in one piece, and joins the first segment of what follows it. -/
theorem splitDots_append {first : List Char} (hfirst : '.' ∉ first) (rest : List Char) :
    splitDots (first ++ rest) = (first ++ (splitDots rest).1, (splitDots rest).2) := by
  induction first with
  | nil => rfl
  | cons c first ih =>
      obtain ⟨hc, htail⟩ := List.ne_and_not_mem_of_not_mem_cons hfirst
      rw [List.cons_append, splitDots_cons (Ne.symm hc), ih htail]
      rfl

/-- Segments without a dot are found again. -/
theorem splitDots_joinDots {first : List Char} {others : List (List Char)} (hfirst : '.' ∉ first)
    (hothers : ∀ segment ∈ others, '.' ∉ segment) :
    splitDots (joinDots first others) = (first, others) := by
  have hrest : splitDots (others.flatMap ('.' :: ·)) = ([], others) := by
    induction others with
    | nil => rfl
    | cons segment others ih =>
        obtain ⟨hsegment, hothers⟩ := List.forall_mem_cons.1 hothers
        rw [List.flatMap_cons, List.cons_append, splitDots_dot, splitDots_append hsegment,
          ih hothers, List.append_nil]
  rw [joinDots, splitDots_append hfirst, hrest, List.append_nil]

/-! ## Heads -/

namespace PathHead

theorem isCanonical_parse {segment : List Char} (h : '.' ∉ segment) :
    (parse segment).IsCanonical := by
  unfold parse
  split
  · exact trivial
  · next hthis =>
      split
      · next name _ => simpa [IsCanonical] using (List.ne_and_not_mem_of_not_mem_cons h).2
      · next hat =>
          refine ⟨by simpa using h, fun hname => hthis ?_, fun hhead => ?_⟩
          · rw [← String.toList_ofList (l := segment), hname]
            rfl
          · rw [String.toList_ofList] at hhead
            obtain ⟨name, rfl⟩ := List.head?_eq_some_iff.1 hhead
            exact hat name rfl

theorem IsCanonical.dot_notMem_spelling {head : PathHead} (h : head.IsCanonical) :
    '.' ∉ head.spelling.toList := by
  cases head with
  | this => decide
  | argument name => simpa [spelling, IsCanonical] using h
  | var name => exact h.1

theorem IsCanonical.parse_spelling {head : PathHead} (h : head.IsCanonical) :
    parse head.spelling.toList = head := by
  cases head with
  | this => rfl
  | argument name => simp [parse, spelling]
  | var name =>
      obtain ⟨-, hthis, hat⟩ := h
      have hne : name.toList ≠ ['t', 'h', 'i', 's'] := fun hname =>
        hthis (String.toList_inj.1 hname)
      unfold parse spelling
      rw [if_neg hne]
      split
      · next hname => exact absurd (congrArg List.head? hname) hat
      · rw [String.ofList_toList]

end PathHead

/-! ## Paths -/

namespace Path

theorem isCanonical_parse (text : String) : (parse text).IsCanonical := by
  obtain ⟨hfirst, hothers⟩ := dot_notMem_splitDots text.toList
  refine ⟨PathHead.isCanonical_parse hfirst, fun segment hsegment => ?_⟩
  obtain ⟨chars, hchars, rfl⟩ := List.mem_map.1 hsegment
  rw [String.toList_ofList]
  exact hothers chars hchars

theorem IsCanonical.parse_spelling {p : Path} (h : p.IsCanonical) : parse p.spelling = p := by
  obtain ⟨hhead, htail⟩ := h
  have hsplit : splitDots p.spelling.toList =
      (p.head.spelling.toList, p.tail.map String.toList) := by
    rw [toList_spelling]
    exact splitDots_joinDots hhead.dot_notMem_spelling (List.forall_mem_map.2 htail)
  have hsegments : (p.tail.map String.toList).map String.ofList = p.tail := by
    rw [List.map_map]
    exact List.map_id'' (fun segment => String.ofList_toList) p.tail
  rw [parse, hsplit]
  exact congrArg₂ Path.mk hhead.parse_spelling hsegments

theorem parse_spelling_eq_iff {p : Path} : parse p.spelling = p ↔ p.IsCanonical :=
  ⟨fun h => h ▸ isCanonical_parse p.spelling, IsCanonical.parse_spelling⟩

/-- A text is always read back from the path it spells. A path is read back from its spelling just
if it is canonical, so no two canonical paths are spelled alike, and every text spells one. -/
theorem spelling_bijOn :
    (∀ text, (parse text).spelling = text) ∧
      (∀ p, parse p.spelling = p ↔ p.IsCanonical) ∧
      Set.BijOn spelling {p | p.IsCanonical} Set.univ := by
  refine ⟨spelling_parse, fun p => parse_spelling_eq_iff, fun p _ => trivial, ?_, ?_⟩
  · intro p hp q hq hspelling
    calc p = parse p.spelling := (IsCanonical.parse_spelling hp).symm
      _ = parse q.spelling := congrArg parse hspelling
      _ = q := IsCanonical.parse_spelling hq
  · exact fun text _ => ⟨parse text, isCanonical_parse text, spelling_parse text⟩

/-- A dot in a segment, and a bare name that looks like the receiver or like an argument. -/
example :
    parse (⟨.var "a", ["b.c"]⟩ : Path).spelling = ⟨.var "a", ["b", "c"]⟩ ∧
      parse (⟨.var "this", []⟩ : Path).spelling = ⟨.this, []⟩ ∧
      parse (⟨.var "@this", [""]⟩ : Path).spelling = ⟨.argument "this", [""]⟩ := by
  decide

end Path

end TemplateScope
