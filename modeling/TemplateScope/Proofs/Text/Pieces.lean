import TemplateScope.Text.Placeholder

/-!
# The pieces of a text with placeholders

A text with placeholders is made of characters and of holes. `pieces` takes it apart so that
nothing is lost (`render_pieces`) and no placeholder is overlooked (`not_infix_blank_pieces`). No
brace stands inside a placeholder, so two placeholders never overlap, and whether one begins at a
character is the same question for the text and for the text with all its holes left blank
(`mark_prefix_render_iff`).
-/

namespace TemplateScope.Placeholder

/-! ## Marks -/

theorem isDigit_of_mem_digits {i : Nat} {c : Char} (h : c ∈ Nat.toDigits 10 i) : c.isDigit :=
  Nat.isDigit_of_mem_toDigits (by decide) (by decide) h

def markTail (i : Nat) : List Char := Nat.toDigits 10 i ++ ['\x7d']

theorem mark_append (i : Nat) (rest : List Char) :
    mark i ++ rest = '\x7b' :: (markTail i ++ rest) := rfl

theorem drop_markTail_append (i : Nat) (rest : List Char) :
    (markTail i ++ rest).drop ((mark i).length - 1) = rest :=
  List.drop_left

theorem ne_of_mem_markTail {i : Nat} {c : Char} (h : c ∈ markTail i) :
    c ≠ '\x7b' ∧ c ≠ ' ' := by
  rcases List.mem_append.1 h with hdigit | hbrace
  · have hc := isDigit_of_mem_digits hdigit
    refine ⟨?_, ?_⟩
    · rintro rfl
      exact absurd hc (by decide)
    · rintro rfl
      exact absurd hc (by decide)
  · rw [List.mem_singleton.1 hbrace]
    decide

def number? (text : List Char) : Option Nat :=
  let i := Nat.ofDigitChars 10 ((text.drop 1).takeWhile Char.isDigit) 0
  if (mark i).isPrefixOf text then some i else none

theorem number?_mark_append (i : Nat) (rest : List Char) : number? (mark i ++ rest) = some i := by
  have hdigits : ((mark i ++ rest).drop 1).takeWhile Char.isDigit = Nat.toDigits 10 i := by
    have hdrop : (mark i ++ rest).drop 1 = Nat.toDigits 10 i ++ '\x7d' :: rest := by simp [mark]
    rw [hdrop, List.takeWhile_append_of_pos fun _ => isDigit_of_mem_digits,
      List.takeWhile_cons_of_neg (by decide), List.append_nil]
  unfold number?
  rw [hdigits, Nat.ofDigitChars_ten_toDigits]
  exact if_pos (List.isPrefixOf_iff_prefix.2 (List.prefix_append _ _))

theorem number?_eq_some_iff {text : List Char} {i : Nat} :
    number? text = some i ↔ mark i <+: text := by
  constructor
  · intro h
    simp only [number?, Option.ite_none_right_eq_some, Option.some.injEq] at h
    obtain ⟨hbegins, rfl⟩ := h
    exact List.isPrefixOf_iff_prefix.1 hbegins
  · rintro ⟨rest, rfl⟩
    exact number?_mark_append i rest

theorem mark_prefix_mark_append_iff {i j : Nat} {rest : List Char} :
    mark i <+: mark j ++ rest ↔ i = j := by
  rw [← number?_eq_some_iff, number?_mark_append, Option.some.injEq, eq_comm]

/-- Text without an opening brace has no part in a placeholder behind it. -/
theorem mark_infix_append_iff_right {k : Nat} {front : List Char}
    (h : ∀ c ∈ front, c ≠ '\x7b') (text : List Char) :
    mark k <:+: front ++ text ↔ mark k <:+: text := by
  induction front with
  | nil => rfl
  | cons c front ih =>
      rw [List.forall_mem_cons] at h
      rw [List.cons_append, List.infix_cons_iff, ih h.2, mark, List.cons_prefix_cons]
      exact or_iff_right fun hbrace => h.1 hbrace.1.symm

/-- Text without a closing brace has no part in a placeholder before it. -/
theorem mark_infix_append_iff_left {k : Nat} {back : List Char}
    (h : ∀ c ∈ back, c ≠ '\x7d') (text : List Char) :
    mark k <:+: text ++ back ↔ mark k <:+: text := by
  induction back generalizing text with
  | nil => rw [List.append_nil]
  | cons c back ih =>
      rw [List.forall_mem_cons] at h
      have hsuffix : ¬ mark k <:+ text ++ [c] := by
        rw [List.suffix_concat_iff]
        rintro (hnil | ⟨front, hmark, -⟩)
        · exact List.cons_ne_nil _ _ hnil
        · have hends : '\x7b' :: Nat.toDigits 10 k ++ ['\x7d'] = front ++ [c] := hmark
          have hlast := List.append_inj_right' hends rfl
          exact h.1 (List.head_eq_of_cons_eq hlast).symm
      rw [List.append_cons, ih h.2, List.infix_concat_iff]
      exact or_iff_right hsuffix

/-! ## Taking a text apart -/

inductive Piece where
  | char (c : Char)
  | hole (i : Nat)
deriving DecidableEq, Repr

def Piece.chars : Piece → List Char
  | .char c => [c]
  | .hole i => mark i

/-- The text of some pieces. A hole is there as its placeholder. -/
def render (ps : List Piece) : List Char := ps.flatMap Piece.chars

@[simp] theorem render_char (c : Char) (ps : List Piece) :
    render (.char c :: ps) = c :: render ps := rfl

@[simp] theorem render_hole (i : Nat) (ps : List Piece) :
    render (.hole i :: ps) = mark i ++ render ps := rfl

@[simp] theorem render_append (ps qs : List Piece) : render (ps ++ qs) = render ps ++ render qs :=
  List.flatMap_append

@[simp] theorem render_map_char (text : List Char) : render (text.map .char) = text := by
  induction text with
  | nil => rfl
  | cons c rest ih => rw [List.map_cons, render_char, ih]

/-- `covered` characters in front belong to a placeholder that has been met. -/
def piecesFrom (covered : Nat) : List Char → List Piece
  | [] => []
  | c :: rest =>
      match covered with
      | n + 1 => piecesFrom n rest
      | 0 =>
          match number? (c :: rest) with
          | some i => .hole i :: piecesFrom ((mark i).length - 1) rest
          | none => .char c :: piecesFrom 0 rest

/-- From left to right, a hole for each placeholder and all other characters as they are. -/
def pieces (text : List Char) : List Piece := piecesFrom 0 text

theorem piecesFrom_covered (covered : Nat) (text : List Char) :
    piecesFrom covered text = pieces (text.drop covered) := by
  induction text generalizing covered with
  | nil => simp [piecesFrom, pieces]
  | cons c rest ih =>
      cases covered with
      | zero => rfl
      | succ n => simpa [piecesFrom] using ih n

theorem pieces_mark_append (i : Nat) (rest : List Char) :
    pieces (mark i ++ rest) = .hole i :: pieces rest := by
  have hnumber := number?_mark_append i rest
  rw [mark_append] at hnumber ⊢
  rw [pieces, piecesFrom]
  simp only [hnumber]
  rw [piecesFrom_covered, drop_markTail_append]

theorem pieces_cons {c : Char} {rest : List Char} (h : ∀ i, ¬ mark i <+: c :: rest) :
    pieces (c :: rest) = .char c :: pieces rest := by
  have hnumber : number? (c :: rest) = none := by
    rw [Option.eq_none_iff_forall_ne_some]
    exact fun i hi => h i (number?_eq_some_iff.1 hi)
  rw [pieces, piecesFrom]
  simp only [hnumber]
  rfl

theorem pieces_append_of_ne {w : List Char} (h : ∀ c ∈ w, c ≠ '\x7b') (rest : List Char) :
    pieces (w ++ rest) = w.map .char ++ pieces rest := by
  induction w with
  | nil => rfl
  | cons c w ih =>
      rw [List.forall_mem_cons] at h
      have hmark : ∀ i, ¬ mark i <+: c :: (w ++ rest) := by
        intro i
        rw [mark, List.cons_prefix_cons]
        exact fun hbrace => h.1 hbrace.1.symm
      rw [List.cons_append, pieces_cons hmark, ih h.2]
      rfl

/-- A text is empty, or it begins with a placeholder, or with a character that begins none. -/
theorem text_induction {P : List Char → Prop} (text : List Char) (nil : P [])
    (placeholder : ∀ i rest, P rest → P (mark i ++ rest))
    (plain : ∀ c rest, (∀ i, ¬ mark i <+: c :: rest) → P rest → P (c :: rest)) : P text := by
  induction hlength : text.length using Nat.strongRecOn generalizing text with
  | ind n ih =>
    cases text with
    | nil => exact nil
    | cons c rest =>
        by_cases h : ∃ i, mark i <+: c :: rest
        · obtain ⟨i, last, hlast⟩ := h
          have hlt : last.length < n := by
            rw [← hlength, ← hlast]
            simp [mark]
            omega
          rw [← hlast]
          exact placeholder i last (ih last.length hlt last rfl)
        · have hlt : rest.length < n := by
            rw [← hlength]
            exact Nat.lt_succ_self _
          exact plain c rest (not_exists.1 h) (ih rest.length hlt rest rfl)

theorem render_pieces (text : List Char) : render (pieces text) = text := by
  induction text using text_induction with
  | nil => rfl
  | placeholder i rest ih => rw [pieces_mark_append, render_hole, ih]
  | plain c rest h ih => rw [pieces_cons h, render_char, ih]

/-! ## Holes left blank -/

def Piece.blank : Piece → Char
  | .char c => c
  | .hole _ => ' '

/-- The characters of some pieces, with a blank for each hole. -/
def blank (ps : List Piece) : List Char := ps.map Piece.blank

@[simp] theorem blank_char (c : Char) (ps : List Piece) :
    blank (.char c :: ps) = c :: blank ps := rfl

@[simp] theorem blank_hole (i : Nat) (ps : List Piece) :
    blank (.hole i :: ps) = ' ' :: blank ps := rfl

@[simp] theorem blank_append (ps qs : List Piece) : blank (ps ++ qs) = blank ps ++ blank qs :=
  List.map_append

@[simp] theorem blank_map_char (text : List Char) : blank (text.map .char) = text := by
  induction text with
  | nil => rfl
  | cons c rest ih => rw [List.map_cons, blank_char, ih]

theorem prefix_render_iff {w : List Char} (hw : ∀ c ∈ w, c ≠ '\x7b' ∧ c ≠ ' ')
    (ps : List Piece) : w <+: render ps ↔ w <+: blank ps := by
  induction ps generalizing w with
  | nil => rfl
  | cons p ps ih =>
      cases w with
      | nil => simp
      | cons c w =>
          rw [List.forall_mem_cons] at hw
          cases p with
          | char d =>
              rw [render_char, blank_char, List.cons_prefix_cons, List.cons_prefix_cons, ih hw.2]
          | hole i => simp [mark, hw.1.1, hw.1.2]

/-- A placeholder that begins at a character has no hole in it. -/
theorem mark_prefix_render_iff {i : Nat} {c : Char} {ps : List Piece} :
    mark i <+: c :: render ps ↔ mark i <+: c :: blank ps := by
  rw [mark, List.cons_prefix_cons, List.cons_prefix_cons]
  exact and_congr_right fun _ => prefix_render_iff (fun _ => ne_of_mem_markTail) ps

theorem mark_infix_blank_hole_iff {i j : Nat} {ps : List Piece} :
    mark i <:+: blank (.hole j :: ps) ↔ mark i <:+: blank ps := by
  rw [blank_hole, List.infix_cons_iff, mark, List.cons_prefix_cons]
  simp

theorem mark_infix_blank_char_iff {i : Nat} {c : Char} {ps : List Piece} :
    mark i <:+: blank (.char c :: ps) ↔ mark i <+: c :: render ps ∨ mark i <:+: blank ps := by
  rw [blank_char, List.infix_cons_iff, mark_prefix_render_iff]

/-- What is not a hole holds no placeholder. -/
theorem not_infix_blank_pieces (i : Nat) (text : List Char) :
    ¬ mark i <:+: blank (pieces text) := by
  induction text using text_induction with
  | nil => simp [pieces, piecesFrom, blank, mark]
  | placeholder j rest ih =>
      rw [pieces_mark_append, mark_infix_blank_hole_iff]
      exact ih
  | plain c rest h ih =>
      rw [pieces_cons h, mark_infix_blank_char_iff, render_pieces]
      exact not_or.2 ⟨h i, ih⟩

end TemplateScope.Placeholder
