import TemplateScope.Proofs.Json.Grammar

/-!
# Numbers are passed over by their grammar

A number has no end of its own: it goes on as long as it can. What is passed over is a number in
any case, and a number is passed over as a whole where none goes on behind it.
-/

namespace TemplateScope.Json

/-- What steps in a row give, the last of them gives, and those before it gave something too. -/
theorem bind_eq_ok_iff {ε α β : Type} {x : Except ε α} {f : α → Except ε β} {b : β} :
    x >>= f = .ok b ↔ ∃ a, x = .ok a ∧ f a = .ok b := by
  cases x with
  | error e => simp [bind, Except.bind]
  | ok a => simp [bind, Except.bind]

/-! ## What may follow -/

def NoDigit (text : List Char) : Prop := ∀ c ∈ text.head?, isDigit c = false

def NoNumber (text : List Char) : Prop :=
  ∀ c ∈ text.head?, isDigit c = false ∧ c ≠ '.' ∧ c ≠ 'e' ∧ c ≠ 'E'

theorem NoNumber.noDigit {text : List Char} (h : NoNumber text) : NoDigit text :=
  fun c hc => (h c hc).1

/-! ## Digits -/

theorem dropWhile_isDigit_of_noDigit {text : List Char} (h : NoDigit text) :
    text.dropWhile isDigit = text := by
  cases text with
  | nil => rfl
  | cons c rest =>
      have hc : isDigit c = false := h c rfl
      simp [hc]

theorem digits_of_skipDigits {text rest : List Char} (h : skipDigits text = .ok rest) :
    ∃ digits, text = digits ++ rest ∧ Digits digits := by
  unfold skipDigits at h
  split at h
  · cases h
  · next c tail =>
      split at h
      · next hc =>
          cases h
          refine ⟨c :: tail.takeWhile isDigit, ?_, List.cons_ne_nil _ _, ?_⟩
          · rw [List.cons_append, List.takeWhile_append_dropWhile]
          · intro d hd
            rcases List.mem_cons.1 hd with rfl | hd
            · exact hc
            · exact List.all_eq_true.1 List.all_takeWhile d hd
      · cases h

theorem Digits.skipDigits_append {digits rest : List Char} (h : Digits digits)
    (hrest : NoDigit rest) : skipDigits (digits ++ rest) = .ok rest := by
  obtain ⟨hne, hall⟩ := h
  cases digits with
  | nil => exact absurd rfl hne
  | cons c tail =>
      have hc : isDigit c := hall c List.mem_cons_self
      have htail : ∀ d ∈ tail, isDigit d := fun d hd => hall d (List.mem_cons_of_mem c hd)
      rw [List.cons_append, skipDigits, if_pos hc, List.dropWhile_append_of_pos htail,
        dropWhile_isDigit_of_noDigit hrest]

theorem Digits.head {digits : List Char} (h : Digits digits) (rest : List Char) :
    ∃ c tail, digits ++ rest = c :: tail ∧ isDigit c := by
  obtain ⟨hne, hall⟩ := h
  cases digits with
  | nil => exact absurd rfl hne
  | cons c tail => exact ⟨c, tail ++ rest, rfl, hall c List.mem_cons_self⟩

theorem ne_of_isDigit {c d : Char} (hc : isDigit c) (hd : isDigit d = false) : c ≠ d := by
  rintro rfl
  rw [hc] at hd
  cases hd

/-! ## The parts of a number -/

theorem integer_of_skipInteger {text rest : List Char} (h : skipInteger text = .ok rest) :
    ∃ integer, text = integer ++ rest ∧ Integer integer := by
  unfold skipInteger at h
  split at h
  · cases h
  · next c tail =>
      split at h
      · next hzero =>
          rw [hzero]
          split at h
          · cases h
            exact ⟨['0'], rfl, .zero⟩
          · split at h
            · cases h
            · cases h
              exact ⟨['0'], rfl, .zero⟩
      · next hzero =>
          obtain ⟨digits, htext, hdigits⟩ := digits_of_skipDigits h
          cases digits with
          | nil => exact absurd rfl hdigits.1
          | cons d digits =>
              cases htext
              exact ⟨c :: digits, rfl, .digits hzero hdigits⟩

theorem Integer.skipInteger_append {integer rest : List Char} (h : Integer integer)
    (hrest : NoDigit rest) : skipInteger (integer ++ rest) = .ok rest := by
  cases h with
  | zero =>
      cases rest with
      | nil => rfl
      | cons d rest =>
          have hd : isDigit d = false := hrest d rfl
          simp [skipInteger, hd]
  | digits hzero h =>
      have hdigits := h.skipDigits_append hrest
      rw [List.cons_append] at hdigits ⊢
      simp only [skipInteger, if_neg hzero, hdigits]

theorem Integer.head {integer : List Char} (h : Integer integer) :
    ∃ c tail, integer = c :: tail ∧ isDigit c := by
  cases h with
  | zero => exact ⟨'0', [], rfl, by decide⟩
  | digits _ h => exact ⟨_, _, rfl, h.2 _ List.mem_cons_self⟩

theorem fraction_of_skipFraction {text rest : List Char} (h : skipFraction text = .ok rest) :
    ∃ fraction, text = fraction ++ rest ∧ Fraction fraction := by
  unfold skipFraction at h
  split at h
  · cases h
    exact ⟨[], rfl, .none⟩
  · next c tail =>
      split at h
      · next hpoint =>
          obtain ⟨digits, rfl, hdigits⟩ := digits_of_skipDigits h
          rw [hpoint]
          exact ⟨'.' :: digits, rfl, .digits hdigits⟩
      · cases h
        exact ⟨[], rfl, .none⟩

theorem Fraction.skipFraction_append {fraction rest : List Char} (h : Fraction fraction)
    (hrest : NoDigit rest) (hpoint : ∀ c ∈ rest.head?, c ≠ '.') :
    skipFraction (fraction ++ rest) = .ok rest := by
  cases h with
  | none =>
      cases rest with
      | nil => rfl
      | cons c rest =>
          have hc : c ≠ '.' := hpoint c rfl
          rw [List.nil_append, skipFraction, if_neg hc]
  | digits h => exact h.skipDigits_append hrest

theorem sign_of_skipSign (text : List Char) :
    ∃ sign, text = sign ++ skipSign text ∧ Sign sign := by
  unfold skipSign
  split
  · exact ⟨[], rfl, .none⟩
  · next c rest =>
      by_cases hplus : c = '+'
      · exact ⟨['+'], by simp [hplus], .plus⟩
      by_cases hminus : c = '-'
      · exact ⟨['-'], by simp [hminus], .minus⟩
      · exact ⟨[], by simp [hplus, hminus], .none⟩

theorem Sign.skipSign_append {sign : List Char} (h : Sign sign) {c : Char} {rest : List Char}
    (hc : isDigit c) : skipSign (sign ++ c :: rest) = c :: rest := by
  cases h with
  | none =>
      have hplus : c ≠ '+' := ne_of_isDigit hc rfl
      have hminus : c ≠ '-' := ne_of_isDigit hc rfl
      simp [skipSign, hplus, hminus]
  | plus => rfl
  | minus => rfl

theorem exponent_of_skipExponent {text rest : List Char} (h : skipExponent text = .ok rest) :
    ∃ exponent, text = exponent ++ rest ∧ Exponent exponent := by
  unfold skipExponent at h
  split at h
  · cases h
    exact ⟨[], rfl, .none⟩
  · next c tail =>
      split at h
      · next he =>
          obtain ⟨sign, htail, hsign⟩ := sign_of_skipSign tail
          obtain ⟨digits, hskip, hdigits⟩ := digits_of_skipDigits h
          rw [hskip] at htail
          exact ⟨c :: (sign ++ digits), by rw [htail]; simp, .digits he hsign hdigits⟩
      · cases h
        exact ⟨[], rfl, .none⟩

theorem Exponent.skipExponent_append {exponent rest : List Char} (h : Exponent exponent)
    (hrest : NoNumber rest) : skipExponent (exponent ++ rest) = .ok rest := by
  cases h with
  | none =>
      cases rest with
      | nil => rfl
      | cons c rest =>
          obtain ⟨_, _, hlower, hupper⟩ := hrest c rfl
          simp [skipExponent, hlower, hupper]
  | @digits e sign digits he hsign h =>
      obtain ⟨c, tail, htail, hc⟩ := h.head rest
      have hskip := h.skipDigits_append hrest.noDigit
      rw [htail] at hskip
      rw [List.cons_append, List.append_assoc, htail, skipExponent, if_pos he,
        hsign.skipSign_append hc, hskip]

theorem Exponent.head {exponent rest : List Char} (h : Exponent exponent)
    (hrest : NoNumber rest) : ∀ c ∈ (exponent ++ rest).head?, isDigit c = false ∧ c ≠ '.' := by
  cases h with
  | none =>
      intro c hc
      obtain ⟨hdigit, hpoint, _⟩ := hrest c hc
      exact ⟨hdigit, hpoint⟩
  | digits he _ _ =>
      intro c hc
      cases hc
      rcases he with rfl | rfl
      · decide
      · decide

theorem Fraction.noDigit {fraction rest : List Char} (h : Fraction fraction)
    (hrest : NoDigit rest) : NoDigit (fraction ++ rest) := by
  cases h with
  | none => exact hrest
  | digits _ =>
      intro c hc
      cases hc
      decide

/-! ## Numbers -/

theorem magnitude_of_skipNumber {text rest : List Char} (h : skipNumber text = .ok rest) :
    ∃ number, text = number ++ rest ∧ Magnitude number := by
  unfold skipNumber at h
  obtain ⟨middle, hinteger, h⟩ := bind_eq_ok_iff.1 h
  obtain ⟨last, hfraction, hexponent⟩ := bind_eq_ok_iff.1 h
  obtain ⟨exponent, rfl, exponent_ok⟩ := exponent_of_skipExponent hexponent
  obtain ⟨fraction, rfl, fraction_ok⟩ := fraction_of_skipFraction hfraction
  obtain ⟨integer, rfl, integer_ok⟩ := integer_of_skipInteger hinteger
  exact ⟨integer ++ fraction ++ exponent, by simp, .parts integer_ok fraction_ok exponent_ok⟩

theorem Magnitude.skipNumber_append {number rest : List Char} (h : Magnitude number)
    (hrest : NoNumber rest) : skipNumber (number ++ rest) = .ok rest := by
  cases h with
  | @parts integer fraction exponent hinteger hfraction hexponent =>
      have hhead := hexponent.head hrest
      have hdigit : NoDigit (exponent ++ rest) := fun c hc => (hhead c hc).1
      have hpoint : ∀ c ∈ (exponent ++ rest).head?, c ≠ '.' := fun c hc => (hhead c hc).2
      have hfirst := hinteger.skipInteger_append (hfraction.noDigit hdigit)
      have hsecond := hfraction.skipFraction_append hdigit hpoint
      have hthird := hexponent.skipExponent_append hrest
      rw [List.append_assoc, List.append_assoc]
      simp only [skipNumber, hfirst, hsecond, hthird, bind, Except.bind]

theorem Magnitude.head {number : List Char} (h : Magnitude number) :
    ∃ c tail, number = c :: tail ∧ isDigit c := by
  cases h with
  | @parts integer fraction exponent hinteger _ _ =>
      obtain ⟨c, tail, rfl, hc⟩ := hinteger.head
      exact ⟨c, tail ++ fraction ++ exponent, rfl, hc⟩

end TemplateScope.Json
