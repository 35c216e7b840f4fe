import TemplateScope.Proofs.Json.Strings

/-!
# Written strings decode to what was written

A character is written as itself unless it would end the string, begin an escape, or is a control
character (`escapeChar_cases`). Each of these forms decodes to the character, whatever the text
around it looks like, so a written string says what was written (`decodes_flatMap_escapeChar`).
-/

namespace TemplateScope.Json

/-! ## Hexadecimal digits -/

theorem hexDigit_digit {n : Nat} (h : n < 16) : HexDigit (Hex.digit n) n :=
  value?_eq_some_iff.1 (Hex.value?_digit h)

theorem unit16_padded {n : Nat} (h : n < 0x10000) : Unit16 (Hex.padded 4 n) n := by
  have hlt (m : Nat) : m % 16 < 16 := Nat.mod_lt m (by decide)
  have digits := Unit16.digits (hexDigit_digit (hlt (n / 16 / 16 / 16)))
    (hexDigit_digit (hlt (n / 16 / 16))) (hexDigit_digit (hlt (n / 16))) (hexDigit_digit (hlt n))
  have hsum : n / 16 / 16 / 16 % 16 * 0x1000 + n / 16 / 16 % 16 * 0x100 + n / 16 % 16 * 0x10 +
      n % 16 = n := by omega
  rw [hsum] at digits
  exact digits

/-! ## Characters -/

theorem escapeChar_of_mem {letter c : Char} (h : (letter, c) ∈ shortEscapes) (hslash : c ≠ '/') :
    escapeChar c = ['\\', letter] := by
  simp only [shortEscapes, List.mem_cons, Prod.mk.injEq, List.not_mem_nil, or_false] at h
  rcases h with ⟨rfl, rfl⟩ | ⟨rfl, rfl⟩ | ⟨rfl, rfl⟩ | ⟨rfl, rfl⟩ | ⟨rfl, rfl⟩ | ⟨rfl, rfl⟩ |
    ⟨rfl, rfl⟩ | ⟨rfl, rfl⟩
  case inr.inr.inl => exact absurd rfl hslash
  all_goals rfl

theorem escapeChar_of_not_mem {c : Char} (h : ∀ letter, (letter, c) ∉ shortEscapes) :
    escapeChar c = if c < ' ' then '\\' :: 'u' :: Hex.padded 4 c.toNat else [c] := by
  have hne (letter d : Char) (hd : (letter, d) ∈ shortEscapes) : c ≠ d := by
    rintro rfl
    exact h letter hd
  rw [escapeChar, if_neg (hne '"' '"' (by decide)), if_neg (hne '\\' '\\' (by decide)),
    if_neg (hne 'b' '\x08' (by decide)), if_neg (hne 'f' '\x0c' (by decide)),
    if_neg (hne 'n' '\n' (by decide)), if_neg (hne 'r' '\r' (by decide)),
    if_neg (hne 't' '\t' (by decide))]

/-- A character is written by its short escape if it has one, by the digits of its number if it is
another control character, and else as it is. The slash alone has an escape and is written without
it. -/
theorem escapeChar_cases (c : Char) :
    (∃ letter, (letter, c) ∈ shortEscapes ∧ escapeChar c = ['\\', letter]) ∨
      (c < ' ' ∧ escapeChar c = '\\' :: 'u' :: Hex.padded 4 c.toNat) ∨
      (Plain c ∧ escapeChar c = [c]) := by
  by_cases hslash : c = '/'
  · rw [hslash]
    exact .inr (.inr ⟨by simp [Plain], rfl⟩)
  by_cases hshort : ∃ letter, (letter, c) ∈ shortEscapes
  · obtain ⟨letter, hletter⟩ := hshort
    exact .inl ⟨letter, hletter, escapeChar_of_mem hletter hslash⟩
  rw [not_exists] at hshort
  rw [escapeChar_of_not_mem hshort]
  by_cases hcontrol : c < ' '
  · exact .inr (.inl ⟨hcontrol, if_pos hcontrol⟩)
  · have hquote : c ≠ '"' := by
      rintro rfl
      exact hshort '"' (by decide)
    have hbackslash : c ≠ '\\' := by
      rintro rfl
      exact hshort '\\' (by decide)
    exact .inr (.inr ⟨⟨hquote, hbackslash, Char.not_lt.1 hcontrol⟩, if_neg hcontrol⟩)

theorem decodes_escapeChar_append (c : Char) {raw chars : List Char} (h : Decodes raw chars) :
    Decodes (escapeChar c ++ raw) (c :: chars) := by
  rcases escapeChar_cases c with ⟨letter, hletter, hc⟩ | ⟨hcontrol, hc⟩ | ⟨hplain, hc⟩
  · rw [hc]
    exact .escape (.short hletter) h
  · have hlt : c.toNat < 0x20 := hcontrol
    have hescape : Escape ('u' :: Hex.padded 4 c.toNat) c :=
      .scalar (unit16_padded (Nat.lt_trans hlt (by decide)))
    rw [hc]
    exact .escape hescape h
  · rw [hc]
    exact .plain hplain h

/-! ## Strings -/

theorem decodes_flatMap_escapeChar (chars : List Char) :
    Decodes (chars.flatMap escapeChar) chars := by
  induction chars with
  | nil => exact .nil
  | cons c rest ih =>
      rw [List.flatMap_cons]
      exact decodes_escapeChar_append c ih

theorem decodes_of_plain {chars : List Char} (h : ∀ c ∈ chars, Plain c) : Decodes chars chars := by
  induction chars with
  | nil => exact .nil
  | cons c rest ih =>
      rw [List.forall_mem_cons] at h
      exact .plain h.1 (ih h.2)

end TemplateScope.Json
