import TemplateScope.Proofs.Json.Values

/-!
# Words, strings and keys that are cut short

A text that stops inside a word, a string or the space before a colon stops where the grammar asks
for more, and the readers say so and nothing else. What has been read up to the cut is as good as
in the whole text, so it gives no other fault. Numbers are not like this: one that is passed over
and stops behind its point is malformed.
-/

namespace TemplateScope.Json

/-! ## Cuts -/

/-- A text that stops before another one is complete. -/
def Cut (text whole : List Char) : Prop := ∃ c rest, whole = text ++ c :: rest

theorem cut_iff_prefix {text whole : List Char} : Cut text whole ↔ text <+: whole ∧ text ≠ whole := by
  constructor
  · rintro ⟨c, rest, rfl⟩
    exact ⟨List.prefix_append _ _, by simp⟩
  · rintro ⟨⟨rest, rfl⟩, hne⟩
    cases rest with
    | nil => exact absurd (List.append_nil text).symm hne
    | cons c rest => exact ⟨c, rest, rfl⟩

theorem not_cut_nil (text : List Char) : ¬ Cut text [] := by
  rintro ⟨c, rest, h⟩
  simp at h

theorem cut_cons_iff {text whole : List Char} {c : Char} :
    Cut text (c :: whole) ↔ text = [] ∨ ∃ tail, text = c :: tail ∧ Cut tail whole := by
  constructor
  · rintro ⟨d, rest, h⟩
    cases text with
    | nil => exact .inl rfl
    | cons c' tail =>
        cases h
        exact .inr ⟨tail, rfl, d, rest, rfl⟩
  · rintro (rfl | ⟨tail, rfl, d, rest, rfl⟩)
    · exact ⟨c, whole, rfl⟩
    · exact ⟨d, rest, rfl⟩

theorem cut_append_iff {text front back : List Char} :
    Cut text (front ++ back) ↔ Cut text front ∨ ∃ tail, text = front ++ tail ∧ Cut tail back := by
  induction front generalizing text with
  | nil => simp [not_cut_nil]
  | cons c front ih =>
      rw [List.cons_append, cut_cons_iff, cut_cons_iff]
      constructor
      · rintro (rfl | ⟨tail, rfl, htail⟩)
        · exact .inl (.inl rfl)
        · rcases ih.1 htail with hfront | ⟨last, rfl, hlast⟩
          · exact .inl (.inr ⟨tail, rfl, hfront⟩)
          · exact .inr ⟨last, rfl, hlast⟩
      · rintro ((rfl | ⟨tail, rfl, htail⟩) | ⟨last, rfl, hlast⟩)
        · exact .inl rfl
        · exact .inr ⟨tail, rfl, ih.2 (.inl htail)⟩
        · exact .inr ⟨front ++ last, rfl, ih.2 (.inr ⟨last, rfl, hlast⟩)⟩

theorem cut_singleton_iff {text : List Char} {c : Char} : Cut text [c] ↔ text = [] := by
  simp [cut_cons_iff, not_cut_nil]

/-! ## Words and blanks -/

theorem readWord_of_cut {letters text : List Char} (h : Cut text letters) :
    readWord letters text = .error .truncated := by
  induction letters generalizing text with
  | nil => exact absurd h (not_cut_nil text)
  | cons letter letters ih =>
      rcases cut_cons_iff.1 h with rfl | ⟨tail, rfl, htail⟩
      · rfl
      · rw [readWord, if_pos rfl, ih htail]

theorem Blank.of_cut {blank text : List Char} (h : Blank blank) (hcut : Cut text blank) :
    Blank text := by
  obtain ⟨c, rest, rfl⟩ := hcut
  exact fun d hd => h d (List.mem_append_left _ hd)

theorem Blank.of_cut_append_singleton {blank text : List Char} {c : Char} (h : Blank blank)
    (hcut : Cut text (blank ++ [c])) : Blank text := by
  rcases cut_append_iff.1 hcut with hblank | ⟨tail, rfl, htail⟩
  · exact h.of_cut hblank
  · rw [cut_singleton_iff.1 htail, List.append_nil]
    exact h

theorem Blank.noNumber {blank : List Char} (h : Blank blank) : NoNumber blank := by
  have hend : NoNumber [] := fun c hc => by cases hc
  have hnumber := h.noNumber_append hend
  rwa [List.append_nil] at hnumber

theorem Blank.readColon_of_cut {blank text : List Char} (h : Blank blank)
    (hcut : Cut text (blank ++ [':'])) : readColon text = .error .truncated := by
  rw [readColon, (h.of_cut_append_singleton hcut).skipSpace_eq_nil]

/-! ## Strings -/

theorem HexDigit.utf8Size {c : Char} {value : Nat} (h : HexDigit c value) : c.utf8Size = 1 := by
  have decimal : ∀ n < 10, (Char.ofNat ('0'.toNat + n)).utf8Size = 1 := by decide
  have lower : ∀ n < 6, (Char.ofNat ('a'.toNat + n)).utf8Size = 1 := by decide
  have upper : ∀ n < 6, (Char.ofNat ('A'.toNat + n)).utf8Size = 1 := by decide
  rcases h with h | h | h
  · exact decimal _ h
  · exact lower _ h
  · exact upper _ h

/-- A hexadecimal digit is one byte, so fewer than four of them are fewer than four bytes. -/
theorem Unit16.readHex4_of_cut {digits text : List Char} {unit : Nat} (h : Unit16 digits unit)
    (hcut : Cut text digits) : readHex4 text = .error .truncated := by
  cases h with
  | digits ha hb hc _ =>
      rcases cut_cons_iff.1 hcut with rfl | ⟨_, rfl, hsecond⟩
      · rfl
      rcases cut_cons_iff.1 hsecond with rfl | ⟨_, rfl, hthird⟩
      · simp [readHex4, byteLength, ha.utf8Size]
      rcases cut_cons_iff.1 hthird with rfl | ⟨_, rfl, hfourth⟩
      · simp [readHex4, byteLength, ha.utf8Size, hb.utf8Size]
      · rw [cut_singleton_iff.1 hfourth]
        simp [readHex4, byteLength, ha.utf8Size, hb.utf8Size, hc.utf8Size]

/-- Behind the first half of a pair the escape of the other half has to follow. -/
theorem readUnicode_of_cut_pair {high low text : List Char} {leading trailing : Nat}
    (hhigh : Unit16 high leading) (hleading : 0xD800 ≤ leading ∧ leading < 0xDC00)
    (hlow : Unit16 low trailing) (hcut : Cut text (high ++ '\\' :: 'u' :: low)) :
    readUnicode text = .error .truncated := by
  have hnot : isTrailing leading = false := by
    rw [Bool.eq_false_iff, Ne, isTrailing_iff]
    omega
  rw [← isLeading_iff] at hleading
  rcases cut_append_iff.1 hcut with hfirst | ⟨tail, rfl, htail⟩
  · simp [readUnicode, hhigh.readHex4_of_cut hfirst]
  · have hread := hhigh.readHex4_append tail
    rcases cut_cons_iff.1 htail with htail | ⟨middle, htail, hmiddle⟩
    · rw [readUnicode, hread, htail]
      simp [hnot, hleading]
    rcases cut_cons_iff.1 hmiddle with rfl | ⟨last, rfl, hlast⟩
    · rw [readUnicode, hread, htail]
      simp [hnot, hleading]
    · rw [readUnicode, hread, htail]
      simp [hnot, hleading, hlow.readHex4_of_cut hlast]

theorem Escape.readEscape_of_cut {piece text : List Char} {c : Char} (h : Escape piece c)
    (hcut : Cut text piece) : readEscape text = .error .truncated := by
  cases h with
  | short => rw [cut_singleton_iff.1 hcut, readEscape]
  | scalar h =>
      rcases cut_cons_iff.1 hcut with rfl | ⟨tail, rfl, htail⟩
      · rfl
      · simp [readEscape, readUnicode, h.readHex4_of_cut htail]
  | pair hhigh hleading hlow _ _ =>
      rcases cut_cons_iff.1 hcut with rfl | ⟨tail, rfl, htail⟩
      · rfl
      · simp [readEscape, readUnicode_of_cut_pair hhigh hleading hlow htail]

/-- A string without its closing quote ends too early, wherever in it the text stops. -/
theorem Decodes.readText_of_cut {raw chars text : List Char} (h : Decodes raw chars)
    (hcut : Cut text (raw ++ ['"'])) : readText text = .error .truncated := by
  induction h generalizing text with
  | nil => rw [cut_singleton_iff.1 hcut, readText]
  | @plain c raw chars hc _ ih =>
      obtain ⟨hquote, hbackslash, hcontrol⟩ := hc
      rcases cut_cons_iff.1 hcut with rfl | ⟨tail, rfl, htail⟩
      · rw [readText]
      · rw [readText, if_neg hquote, if_neg hbackslash, if_neg (Char.not_lt.2 hcontrol), ih htail]
  | @escape piece raw chars c hpiece _ ih =>
      rw [List.cons_append, List.append_assoc] at hcut
      rcases cut_cons_iff.1 hcut with rfl | ⟨tail, rfl, htail⟩
      · rw [readText]
      rw [readText, if_neg (by decide), if_pos rfl]
      rcases cut_append_iff.1 htail with hescape | ⟨last, rfl, hlast⟩
      · split
        · next hfault =>
            rw [hpiece.readEscape_of_cut hescape] at hfault
            cases hfault
            rfl
        · next hread =>
            rw [hpiece.readEscape_of_cut hescape] at hread
            cases hread
      · have hread : readEscape (piece ++ last) = .ok (c, last) :=
          readEscape_eq_ok_iff.2 ⟨piece, rfl, hpiece⟩
        split
        · next hfault =>
            rw [hread] at hfault
            cases hfault
        · next hread' =>
            rw [hread] at hread'
            cases hread'
            rw [ih hlast]

end TemplateScope.Json
