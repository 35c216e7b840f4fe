import TemplateScope.Proofs.Json.Grammar

/-!
# Strings are read by their grammar

A reader of strings accepts a text exactly when a string of its kind stands at the front of it. A
string ends at the first quote that is not part of an escape, so what follows it is free.
-/

namespace TemplateScope.Json

/-! ## Hexadecimal digits -/

theorem hexDigit_of_value? {c : Char} {value : Nat} (h : Hex.value? c = some value) :
    HexDigit c value := by
  unfold Hex.value? at h
  split at h
  · next hc =>
      have hlow : 48 ≤ c.toNat := hc.1
      have hhigh : c.toNat ≤ 57 := hc.2
      have digit := HexDigit.decimal (show c.toNat - 48 < 10 by omega)
      rw [show '0'.toNat = 48 from rfl, Nat.add_sub_cancel' hlow, Char.ofNat_toNat] at digit
      cases h
      exact digit
  split at h
  · next hc =>
      have hlow : 97 ≤ c.toNat := hc.1
      have hhigh : c.toNat ≤ 102 := hc.2
      have digit := HexDigit.lower (show c.toNat - 97 < 6 by omega)
      rw [show 'a'.toNat = 97 from rfl, Nat.add_sub_cancel' hlow, Char.ofNat_toNat] at digit
      cases h
      rwa [show c.toNat - 87 = c.toNat - 97 + 10 by omega]
  split at h
  · next hc =>
      have hlow : 65 ≤ c.toNat := hc.1
      have hhigh : c.toNat ≤ 70 := hc.2
      have digit := HexDigit.upper (show c.toNat - 65 < 6 by omega)
      rw [show 'A'.toNat = 65 from rfl, Nat.add_sub_cancel' hlow, Char.ofNat_toNat] at digit
      cases h
      rwa [show c.toNat - 55 = c.toNat - 65 + 10 by omega]
  · cases h

theorem value?_eq_some_iff {c : Char} {value : Nat} :
    Hex.value? c = some value ↔ HexDigit c value := by
  constructor
  · exact hexDigit_of_value?
  · have decimal : ∀ n < 10, Hex.value? (Char.ofNat ('0'.toNat + n)) = some n := by decide
    have lower : ∀ n < 6, Hex.value? (Char.ofNat ('a'.toNat + n)) = some (n + 10) := by decide
    have upper : ∀ n < 6, Hex.value? (Char.ofNat ('A'.toNat + n)) = some (n + 10) := by decide
    rintro (h | h | h)
    · exact decimal _ h
    · exact lower _ h
    · exact upper _ h

theorem HexDigit.lt {c : Char} {value : Nat} (h : HexDigit c value) : value < 16 := by
  rcases h with h | h | h
  · omega
  · omega
  · omega

theorem hex4?_eq_some_iff {a b c d : Char} {unit : Nat} :
    hex4? a b c d = some unit ↔ Unit16 [a, b, c, d] unit := by
  constructor
  · intro h
    simp only [hex4?, Option.bind_eq_bind, Option.bind_eq_some_iff, Option.pure_def,
      Option.some.injEq] at h
    rcases h with ⟨i, ha, j, hb, k, hc, l, hd, rfl⟩
    rw [value?_eq_some_iff] at ha hb hc hd
    have digits := Unit16.digits ha hb hc hd
    rwa [show ((i * 16 + j) * 16 + k) * 16 + l = i * 0x1000 + j * 0x100 + k * 0x10 + l by omega]
  · intro h
    cases h with
    | @digits _ _ _ _ i j k l ha hb hc hd =>
        rw [← value?_eq_some_iff] at ha hb hc hd
        simp only [hex4?, ha, hb, hc, hd, Option.bind_eq_bind, Option.bind_some, Option.pure_def]
        congr 1
        omega

theorem Unit16.lt {digits : List Char} {unit : Nat} (h : Unit16 digits unit) :
    unit < 0x10000 := by
  cases h with
  | digits ha hb hc hd =>
      have := ha.lt
      have := hb.lt
      have := hc.lt
      have := hd.lt
      omega

theorem Unit16.readHex4_append {digits : List Char} {unit : Nat} (h : Unit16 digits unit)
    (rest : List Char) : readHex4 (digits ++ rest) = .ok (unit, rest) := by
  have hunit := h
  cases h with
  | digits => simp [readHex4, hex4?_eq_some_iff.2 hunit]

theorem readHex4_eq_ok_iff {text rest : List Char} {unit : Nat} :
    readHex4 text = .ok (unit, rest) ↔ ∃ digits, text = digits ++ rest ∧ Unit16 digits unit := by
  constructor
  · intro h
    unfold readHex4 at h
    split at h
    · next a b c d tail =>
        split at h
        · next hunit =>
            cases h
            exact ⟨[a, b, c, d], rfl, hex4?_eq_some_iff.1 hunit⟩
        · cases h
    · split at h <;> cases h
  · rintro ⟨digits, rfl, h⟩
    exact h.readHex4_append rest

/-! ## Escapes -/

theorem shortEscape?_eq_some_iff {letter c : Char} :
    shortEscape? letter = some c ↔ (letter, c) ∈ shortEscapes := by
  constructor
  · intro h
    unfold shortEscape? at h
    split at h
    all_goals cases h
    all_goals simp [shortEscapes]
  · intro h
    simp only [shortEscapes, List.mem_cons, Prod.mk.injEq, List.not_mem_nil, or_false] at h
    rcases h with ⟨rfl, rfl⟩ | ⟨rfl, rfl⟩ | ⟨rfl, rfl⟩ | ⟨rfl, rfl⟩ | ⟨rfl, rfl⟩ | ⟨rfl, rfl⟩ |
      ⟨rfl, rfl⟩ | ⟨rfl, rfl⟩
    all_goals rfl

/-- No escape of a single letter can be taken for a numeric one. -/
theorem ne_u_of_mem_shortEscapes {letter c : Char} (h : (letter, c) ∈ shortEscapes) :
    letter ≠ 'u' := by
  rintro rfl
  rw [← shortEscape?_eq_some_iff] at h
  cases h

theorem toNat_ofNat_of_valid {n : Nat} (h : n.isValidChar) : (Char.ofNat n).toNat = n := by
  rw [Char.ofNat, dif_pos h]
  rfl

theorem isLeading_iff {unit : Nat} : isLeading unit ↔ 0xD800 ≤ unit ∧ unit < 0xDC00 := by
  simp only [isLeading, decide_eq_true_eq]
  omega

theorem isTrailing_iff {unit : Nat} : isTrailing unit ↔ 0xDC00 ≤ unit ∧ unit < 0xE000 := by
  simp only [isTrailing, decide_eq_true_eq]
  omega

theorem not_surrogate (c : Char) : isTrailing c.toNat = false ∧ isLeading c.toNat = false := by
  have hvalid : c.toNat < 0xD800 ∨ 0xDFFF < c.toNat ∧ c.toNat < 0x110000 := c.valid
  simp only [isTrailing, isLeading, decide_eq_false_iff_not]
  omega

theorem toNat_pairChar {leading trailing : Nat} (hleading : 0xD800 ≤ leading ∧ leading < 0xDC00)
    (htrailing : 0xDC00 ≤ trailing ∧ trailing < 0xE000) :
    (pairChar leading trailing).toNat =
      0x10000 + (leading - 0xD800) * 0x400 + (trailing - 0xDC00) := by
  unfold pairChar
  rw [toNat_ofNat_of_valid]
  · omega
  · refine .inr ⟨?_, ?_⟩
    · omega
    · omega

theorem escape_of_readUnicode {text rest : List Char} {c : Char}
    (h : readUnicode text = .ok (c, rest)) :
    ∃ piece, 'u' :: text = piece ++ rest ∧ Escape piece c := by
  unfold readUnicode at h
  split at h
  · cases h
  · next unit middle hunit =>
      rcases readHex4_eq_ok_iff.1 hunit with ⟨high, rfl, hhigh⟩
      by_cases htrailing : isTrailing unit
      · rw [if_pos htrailing] at h
        cases h
      rw [if_neg htrailing] at h
      by_cases hleading : isLeading unit
      · rw [if_pos hleading] at h
        split at h
        · cases h
        · cases h
        · next tail =>
            split at h
            · cases h
            · next other last hother =>
                rcases readHex4_eq_ok_iff.1 hother with ⟨low, rfl, hlow⟩
                split at h
                · next hpair =>
                    simp only [Except.ok.injEq, Prod.mk.injEq] at h
                    rcases h with ⟨rfl, rfl⟩
                    rw [isLeading_iff] at hleading
                    rw [isTrailing_iff] at hpair
                    have hc := toNat_pairChar hleading hpair
                    exact ⟨'u' :: (high ++ '\\' :: 'u' :: low), by simp,
                      .pair hhigh hleading hlow hpair hc⟩
                · cases h
        · cases h
      · rw [if_neg hleading] at h
        cases h
        have hlt := hhigh.lt
        rw [isTrailing_iff] at htrailing
        rw [isLeading_iff] at hleading
        have hvalid : unit.isValidChar := by
          unfold Nat.isValidChar
          omega
        refine ⟨'u' :: high, rfl, .scalar ?_⟩
        rwa [toNat_ofNat_of_valid hvalid]

theorem readUnicode_scalar {digits : List Char} {c : Char} (h : Unit16 digits c.toNat)
    (rest : List Char) : readUnicode (digits ++ rest) = .ok (c, rest) := by
  have hunit := h.readHex4_append rest
  rcases not_surrogate c with ⟨htrailing, hleading⟩
  simp [readUnicode, hunit, htrailing, hleading]

theorem readUnicode_pair {high low : List Char} {leading trailing : Nat} {c : Char}
    (hhigh : Unit16 high leading) (hleading : 0xD800 ≤ leading ∧ leading < 0xDC00)
    (hlow : Unit16 low trailing) (htrailing : 0xDC00 ≤ trailing ∧ trailing < 0xE000)
    (h : c.toNat = 0x10000 + (leading - 0xD800) * 0x400 + (trailing - 0xDC00))
    (rest : List Char) :
    readUnicode (high ++ '\\' :: 'u' :: (low ++ rest)) = .ok (c, rest) := by
  have hfirst := hhigh.readHex4_append ('\\' :: 'u' :: (low ++ rest))
  have hsecond := hlow.readHex4_append rest
  have hnot : isTrailing leading = false := by
    rw [Bool.eq_false_iff, Ne, isTrailing_iff]
    omega
  have hc : pairChar leading trailing = c := by
    rw [← Char.toNat_inj, toNat_pairChar hleading htrailing, h]
  rw [← isLeading_iff] at hleading
  rw [← isTrailing_iff] at htrailing
  simp [readUnicode, hfirst, hsecond, hnot, hleading, htrailing, hc]

theorem readEscape_eq_ok_iff {text rest : List Char} {c : Char} :
    readEscape text = .ok (c, rest) ↔ ∃ piece, text = piece ++ rest ∧ Escape piece c := by
  constructor
  · intro h
    unfold readEscape at h
    split at h
    · cases h
    · next letter tail =>
        split at h
        · next hletter =>
            rw [hletter]
            exact escape_of_readUnicode h
        · split at h
          · next decoded hshort =>
              cases h
              exact ⟨[letter], rfl, .short (shortEscape?_eq_some_iff.1 hshort)⟩
          · cases h
  · rintro ⟨piece, rfl, h⟩
    cases h with
    | short h =>
        have hne := ne_u_of_mem_shortEscapes h
        rw [← shortEscape?_eq_some_iff] at h
        simp [readEscape, hne, h]
    | scalar h => exact readUnicode_scalar h rest
    | pair hhigh hleading hlow htrailing h =>
        rw [List.cons_append, List.append_assoc]
        exact readUnicode_pair hhigh hleading hlow htrailing h rest

theorem skipEscape_eq_ok_iff {text rest : List Char} :
    skipEscape text = .ok rest ↔ ∃ piece, text = piece ++ rest ∧ LooseEscape piece := by
  constructor
  · intro h
    unfold skipEscape at h
    split at h
    · cases h
    · next letter tail =>
        split at h
        · next hletter =>
            split at h
            · cases h
            · next unit last hunit =>
                cases h
                rcases readHex4_eq_ok_iff.1 hunit with ⟨digits, rfl, hdigits⟩
                exact ⟨'u' :: digits, by rw [hletter]; rfl, .unit hdigits⟩
        · split at h
          · next hshort =>
              cases h
              rcases Option.isSome_iff_exists.1 hshort with ⟨c, hc⟩
              exact ⟨[letter], rfl, .short (shortEscape?_eq_some_iff.1 hc)⟩
          · cases h
  · rintro ⟨piece, rfl, h⟩
    cases h with
    | short h =>
        have hne := ne_u_of_mem_shortEscapes h
        rw [← shortEscape?_eq_some_iff] at h
        simp [skipEscape, hne, h]
    | unit h =>
        simp [skipEscape, h.readHex4_append rest]

/-! ## Whole strings -/

theorem decodes_of_readText {text chars rest : List Char} (h : readText text = .ok (chars, rest)) :
    ∃ raw, text = raw ++ '"' :: rest ∧ Decodes raw chars := by
  fun_induction readText text generalizing chars rest with
  | case1 => cases h
  | case2 =>
      cases h
      exact ⟨[], rfl, .nil⟩
  | case3 => cases h
  | case4 => cases h
  | case5 tail decoded middle hescape chars' last htext _ ih =>
      cases h
      rcases readEscape_eq_ok_iff.1 hescape with ⟨piece, rfl, hpiece⟩
      rcases ih htext with ⟨raw, rfl, hraw⟩
      exact ⟨'\\' :: (piece ++ raw), by simp, .escape hpiece hraw⟩
  | case6 => cases h
  | case7 => cases h
  | case8 c tail hquote hbackslash hcontrol chars' last htext ih =>
      cases h
      rcases ih htext with ⟨raw, rfl, hraw⟩
      exact ⟨c :: raw, rfl, .plain ⟨hquote, hbackslash, Char.not_lt.1 hcontrol⟩ hraw⟩

theorem Decodes.readText_append {raw chars : List Char} (h : Decodes raw chars)
    (rest : List Char) : readText (raw ++ '"' :: rest) = .ok (chars, rest) := by
  induction h with
  | nil =>
      rw [List.nil_append, readText]
      rfl
  | @plain c raw chars hc _ ih =>
      rcases hc with ⟨hquote, hbackslash, hcontrol⟩
      rw [List.cons_append, readText, if_neg hquote, if_neg hbackslash,
        if_neg (Char.not_lt.2 hcontrol), ih]
  | @escape piece raw chars c hpiece _ ih =>
      have hescape : readEscape (piece ++ (raw ++ '"' :: rest)) = .ok (c, raw ++ '"' :: rest) :=
        readEscape_eq_ok_iff.2 ⟨piece, rfl, hpiece⟩
      rw [List.cons_append, List.append_assoc, readText, if_neg (by decide), if_pos rfl]
      split
      · next hfault =>
          rw [hescape] at hfault
          cases hfault
      · next hread =>
          rw [hescape] at hread
          cases hread
          rw [ih]

theorem readText_eq_ok_iff {text chars rest : List Char} :
    readText text = .ok (chars, rest) ↔ ∃ raw, text = raw ++ '"' :: rest ∧ Decodes raw chars := by
  constructor
  · exact decodes_of_readText
  · rintro ⟨raw, rfl, h⟩
    exact h.readText_append rest

theorem loose_of_skipText {text rest : List Char} (h : skipText text = .ok rest) :
    ∃ raw, text = raw ++ '"' :: rest ∧ Loose raw := by
  fun_induction skipText text generalizing rest with
  | case1 => cases h
  | case2 =>
      cases h
      exact ⟨[], rfl, .nil⟩
  | case3 => cases h
  | case4 tail middle hescape _ ih =>
      rcases skipEscape_eq_ok_iff.1 hescape with ⟨piece, rfl, hpiece⟩
      rcases ih h with ⟨raw, rfl, hraw⟩
      exact ⟨'\\' :: (piece ++ raw), by simp, .escape hpiece hraw⟩
  | case5 => cases h
  | case6 c tail hquote hbackslash hcontrol ih =>
      rcases ih h with ⟨raw, rfl, hraw⟩
      exact ⟨c :: raw, rfl, .plain ⟨hquote, hbackslash, Char.not_lt.1 hcontrol⟩ hraw⟩

theorem Loose.skipText_append {raw : List Char} (h : Loose raw) (rest : List Char) :
    skipText (raw ++ '"' :: rest) = .ok rest := by
  induction h with
  | nil =>
      rw [List.nil_append, skipText]
      rfl
  | @plain c raw hc _ ih =>
      rcases hc with ⟨hquote, hbackslash, hcontrol⟩
      rw [List.cons_append, skipText, if_neg hquote, if_neg hbackslash,
        if_neg (Char.not_lt.2 hcontrol), ih]
  | @escape piece raw hpiece _ ih =>
      have hescape : skipEscape (piece ++ (raw ++ '"' :: rest)) = .ok (raw ++ '"' :: rest) :=
        skipEscape_eq_ok_iff.2 ⟨piece, rfl, hpiece⟩
      rw [List.cons_append, List.append_assoc, skipText, if_neg (by decide), if_pos rfl]
      split
      · next hfault =>
          rw [hescape] at hfault
          cases hfault
      · next hskip =>
          rw [hescape] at hskip
          cases hskip
          exact ih

theorem skipText_eq_ok_iff {text rest : List Char} :
    skipText text = .ok rest ↔ ∃ raw, text = raw ++ '"' :: rest ∧ Loose raw := by
  constructor
  · exact loose_of_skipText
  · rintro ⟨raw, rfl, h⟩
    exact h.skipText_append rest

end TemplateScope.Json
