import TemplateScope.Proofs.Json.Numbers
import TemplateScope.Proofs.Json.Strings

/-!
# Values are passed over by their grammar

The pass over values keeps the containers that are open around its place. What it does with a
value does not depend on them: it stops behind the value and goes on there. So each statement here
says where the pass goes on, and the containers around stay as they are.
-/

namespace TemplateScope.Json

/-! ## Blanks -/

theorem blank_nil : Blank [] := fun _ h => absurd h List.not_mem_nil

theorem Blank.append {first second : List Char} (h : Blank first) (h' : Blank second) :
    Blank (first ++ second) := by
  intro c hc
  rcases List.mem_append.1 hc with hc | hc
  · exact h c hc
  · exact h' c hc

theorem Blank.skipSpace_append {blank : List Char} (h : Blank blank) (rest : List Char) :
    skipSpace (blank ++ rest) = skipSpace rest :=
  List.dropWhile_append_of_pos h

theorem Blank.skipSpace_eq_nil {blank : List Char} (h : Blank blank) : skipSpace blank = [] := by
  have hskip := h.skipSpace_append []
  rwa [List.append_nil] at hskip

theorem skipSpace_cons {c : Char} (h : isSpace c = false) (rest : List Char) :
    skipSpace (c :: rest) = c :: rest := by
  simp [skipSpace, h]

theorem Blank.skipSpace_append_cons {blank : List Char} (h : Blank blank) {c : Char}
    (hc : isSpace c = false) (rest : List Char) : skipSpace (blank ++ c :: rest) = c :: rest := by
  rw [h.skipSpace_append, skipSpace_cons hc]

theorem blank_of_skipSpace (text : List Char) :
    ∃ blank, text = blank ++ skipSpace text ∧ Blank blank :=
  ⟨text.takeWhile isSpace, List.takeWhile_append_dropWhile.symm,
    List.all_eq_true.1 List.all_takeWhile⟩

theorem blank_of_skipSpace_eq {text rest : List Char} (h : skipSpace text = rest) :
    ∃ blank, text = blank ++ rest ∧ Blank blank :=
  h ▸ blank_of_skipSpace text

theorem isEmpty_skipSpace_iff {text : List Char} : (skipSpace text).isEmpty ↔ Blank text := by
  rw [List.isEmpty_iff]
  constructor
  · intro h
    obtain ⟨blank, htext, hblank⟩ := blank_of_skipSpace_eq h
    rw [List.append_nil] at htext
    exact htext ▸ hblank
  · exact Blank.skipSpace_eq_nil

theorem isSpace_eq_false_of_skipSpace {text rest : List Char} {c : Char}
    (h : skipSpace text = c :: rest) : isSpace c = false := by
  have hhead := List.head?_dropWhile_not isSpace text
  rw [show text.dropWhile isSpace = c :: rest from h] at hhead
  simpa using hhead

theorem skipSpace_skipSpace (text : List Char) : skipSpace (skipSpace text) = skipSpace text := by
  cases h : skipSpace text with
  | nil => rfl
  | cons c rest => exact skipSpace_cons (isSpace_eq_false_of_skipSpace h) rest

/-- Blanks and a sign that no number contains end every number. -/
theorem Blank.noNumber_append {blank : List Char} (h : Blank blank) {rest : List Char}
    (hrest : NoNumber rest) : NoNumber (blank ++ rest) := by
  cases blank with
  | nil => exact hrest
  | cons c blank =>
      intro d hd
      cases hd
      have hspace : isSpace c := h c List.mem_cons_self
      simp only [isSpace, decide_eq_true_eq] at hspace
      rcases hspace with rfl | rfl | rfl | rfl
      · decide
      · decide
      · decide
      · decide

/-! ## In front of a value -/

theorem blank_of_readColon {text rest : List Char} (h : readColon text = .ok rest) :
    ∃ blank, text = blank ++ ':' :: rest ∧ Blank blank := by
  unfold readColon at h
  split at h
  · cases h
  · next c tail hspace =>
      split at h
      · next hcolon =>
          cases h
          rw [hcolon] at hspace
          exact blank_of_skipSpace_eq hspace
      · cases h

theorem Blank.readColon_append {blank : List Char} (h : Blank blank) (rest : List Char) :
    readColon (blank ++ ':' :: rest) = .ok rest := by
  simp [readColon, h.skipSpace_append_cons (show isSpace ':' = false from rfl)]

theorem label_of_skipKey {text rest : List Char} (h : skipKey text = .ok rest) :
    ∃ label, text = label ++ rest ∧ Label .object label := by
  unfold skipKey at h
  split at h
  · cases h
  · next c tail hspace =>
      split at h
      · next hquote =>
          rcases bind_eq_ok_iff.1 h with ⟨middle, htext, hcolon⟩
          rcases blank_of_readColon hcolon with ⟨after, rfl, hafter⟩
          rcases skipText_eq_ok_iff.1 htext with ⟨raw, rfl, hraw⟩
          rw [hquote] at hspace
          obtain ⟨before, rfl, hbefore⟩ := blank_of_skipSpace_eq hspace
          exact ⟨before ++ '"' :: (raw ++ '"' :: (after ++ [':'])), by simp,
            .key hbefore hraw hafter⟩
      · cases h

theorem Label.skipLabel_append {container : Container} {label : List Char}
    (h : Label container label) (rest : List Char) :
    skipLabel container (label ++ rest) = .ok rest := by
  cases h with
  | none => rfl
  | @key before raw after hbefore hraw hafter =>
      have hquote := hbefore.skipSpace_append_cons (show isSpace '"' = false from rfl)
        (raw ++ '"' :: (after ++ ':' :: rest))
      have htext := hraw.skipText_append (after ++ ':' :: rest)
      have hcolon := hafter.readColon_append rest
      simp [skipLabel, skipKey, hquote, htext, hcolon, bind, Except.bind]

theorem label_of_skipLabel {container : Container} {text rest : List Char}
    (h : skipLabel container text = .ok rest) :
    ∃ label, text = label ++ rest ∧ Label container label := by
  cases container with
  | array =>
      cases h
      exact ⟨[], rfl, .none⟩
  | object => exact label_of_skipKey h

theorem skipLabel_skipSpace (text : List Char) :
    skipLabel .object (skipSpace text) = skipLabel .object text := by
  simp only [skipLabel, skipKey, skipSpace_skipSpace]

/-! ## Scalars -/

theorem scalar_of_skipScalar {text rest : List Char} (h : skipScalar text = .ok rest) :
    ∃ scalar, text = scalar ++ rest ∧ Scalar scalar := by
  unfold skipScalar at h
  split at h
  · cases h
  · next c tail =>
      split at h
      · next hc =>
          rw [hc, readWord_eq_ok_iff.1 h]
          exact ⟨['n', 'u', 'l', 'l'], rfl, .null⟩
      split at h
      · next hc =>
          rw [hc, readWord_eq_ok_iff.1 h]
          exact ⟨['t', 'r', 'u', 'e'], rfl, .true⟩
      split at h
      · next hc =>
          rw [hc, readWord_eq_ok_iff.1 h]
          exact ⟨['f', 'a', 'l', 's', 'e'], rfl, .false⟩
      split at h
      · next hc =>
          rcases skipText_eq_ok_iff.1 h with ⟨raw, rfl, hraw⟩
          rw [hc]
          exact ⟨'"' :: (raw ++ ['"']), by simp, .string hraw⟩
      split at h
      · next hc =>
          rcases magnitude_of_skipNumber h with ⟨number, rfl, hnumber⟩
          rw [hc]
          exact ⟨'-' :: number, rfl, .negative hnumber⟩
      split at h
      · rcases magnitude_of_skipNumber h with ⟨number, hnumber⟩
        exact ⟨number, hnumber.1, .positive hnumber.2⟩
      · cases h

theorem Scalar.skipScalar_append {scalar rest : List Char} (h : Scalar scalar)
    (hrest : NoNumber rest) : skipScalar (scalar ++ rest) = .ok rest := by
  cases h with
  | null => exact readWord_eq_ok_iff.2 rfl
  | true => exact readWord_eq_ok_iff.2 rfl
  | false => exact readWord_eq_ok_iff.2 rfl
  | string h =>
      rw [List.cons_append, List.append_assoc]
      exact h.skipText_append rest
  | negative h => exact h.skipNumber_append hrest
  | positive h =>
      have hskip := h.skipNumber_append hrest
      rcases h.head with ⟨c, tail, rfl, hc⟩
      have hn : c ≠ 'n' := ne_of_isDigit hc rfl
      have ht : c ≠ 't' := ne_of_isDigit hc rfl
      have hf : c ≠ 'f' := ne_of_isDigit hc rfl
      have hquote : c ≠ '"' := ne_of_isDigit hc rfl
      have hminus : c ≠ '-' := ne_of_isDigit hc rfl
      rw [List.cons_append] at hskip ⊢
      rw [skipScalar, if_neg hn, if_neg ht, if_neg hf, if_neg hquote, if_neg hminus, if_pos hc,
        hskip]

def BeginsScalar (c : Char) : Prop :=
  isSpace c = false ∧ Container.ofOpening? c = none ∧ c ≠ ']'

theorem beginsScalar_of_isDigit {c : Char} (h : isDigit c) : BeginsScalar c := by
  have hspace : isSpace c = false := by
    simp only [isSpace, decide_eq_false_iff_not, not_or]
    exact ⟨ne_of_isDigit h rfl, ne_of_isDigit h rfl,
      ne_of_isDigit h rfl, ne_of_isDigit h rfl⟩
  have hopening : Container.ofOpening? c = none := by
    rw [Container.ofOpening?, if_neg (ne_of_isDigit h rfl),
      if_neg (ne_of_isDigit h rfl)]
  exact ⟨hspace, hopening, ne_of_isDigit h rfl⟩

theorem Scalar.head {scalar : List Char} (h : Scalar scalar) :
    ∃ c tail, scalar = c :: tail ∧ BeginsScalar c := by
  cases h with
  | null => exact ⟨'n', _, rfl, rfl, rfl, by decide⟩
  | true => exact ⟨'t', _, rfl, rfl, rfl, by decide⟩
  | false => exact ⟨'f', _, rfl, rfl, rfl, by decide⟩
  | string => exact ⟨'"', _, rfl, rfl, rfl, by decide⟩
  | negative => exact ⟨'-', _, rfl, rfl, rfl, by decide⟩
  | positive h =>
      rcases h.head with ⟨c, tail, rfl, hc⟩
      exact ⟨c, tail, rfl, beginsScalar_of_isDigit hc⟩

/-! ## Steps -/

/-- Pass over an item, behind the bracket that opens its container or behind a comma, and over
what is left of the containers around. -/
def skipItem (container : Container) (around : List Container) (text : List Char) :
    Except Fault (List Char) :=
  match skipLabel container text with
  | .error fault => .error fault
  | .ok rest => skipValue (container :: around) rest

theorem ofOpening?_opening (container : Container) :
    Container.ofOpening? container.opening = some container := by
  cases container with
  | array => rfl
  | object => rfl

theorem opening_of_ofOpening? {c : Char} {container : Container}
    (h : Container.ofOpening? c = some container) : c = container.opening := by
  unfold Container.ofOpening? at h
  split at h
  · next hc =>
      cases h
      exact hc
  split at h
  · next hc =>
      cases h
      exact hc
  · cases h

theorem isSpace_opening (container : Container) : isSpace container.opening = false := by
  cases container with
  | array => rfl
  | object => rfl

theorem isSpace_closing (container : Container) : isSpace container.closing = false := by
  cases container with
  | array => rfl
  | object => rfl

theorem opening_ne_bracket (container : Container) : container.opening ≠ ']' := by
  cases container with
  | array => decide
  | object => decide

theorem closing_ne_comma (container : Container) : container.closing ≠ ',' := by
  cases container with
  | array => decide
  | object => decide

/-- What the pass does in front of a value, without the proofs that it ends. -/
theorem skipValue_eq (around : List Container) (text : List Char) :
    skipValue around text =
      match skipSpace text with
      | [] => .error .truncated
      | c :: rest =>
          match Container.ofOpening? c with
          | some container =>
              match skipSpace rest with
              | [] => .error .truncated
              | d :: rest' =>
                  if d = container.closing then skipAfter around rest'
                  else skipItem container around (d :: rest')
          | none =>
              match skipScalar (c :: rest) with
              | .error fault => .error fault
              | .ok rest' => skipAfter around rest' := by
  rw [skipValue.eq_def]
  split
  · next hspace => rw [hspace]
  · next c rest hspace =>
      rw [hspace]
      simp only
      cases Container.ofOpening? c with
      | none =>
          simp only
          split
          · next hscalar => rw [hscalar]
          · next hscalar => rw [hscalar]
      | some container =>
          simp only
          split
          · next hspace' => rw [hspace']
          · next d rest' hspace' =>
              rw [hspace']
              simp only [skipItem]
              split
              · rfl
              · split
                · next hlabel => rw [hlabel]
                · next hlabel => rw [hlabel]

theorem skipAfter_eq (container : Container) (around : List Container) (text : List Char) :
    skipAfter (container :: around) text =
      match skipSpace text with
      | [] => .error .truncated
      | c :: rest =>
          if c = ',' then skipItem container around rest
          else if c = container.closing then skipAfter around rest
          else .error .malformed := by
  rw [skipAfter.eq_def]
  simp only
  split
  · next hspace => rw [hspace]
  · next c rest hspace =>
      rw [hspace]
      simp only [skipItem]
      split
      · split
        · next hlabel => rw [hlabel]
        · next hlabel => rw [hlabel]
      · rfl

theorem skipAfter_nil (text : List Char) : skipAfter [] text = .ok text := by
  rw [skipAfter]

section

variable {container : Container} {around : List Container} {text : List Char}

theorem Blank.skipAfter_comma {blank : List Char} (h : Blank blank) (rest : List Char) :
    skipAfter (container :: around) (blank ++ ',' :: rest) = skipItem container around rest := by
  rw [skipAfter_eq, h.skipSpace_append_cons rfl]
  rfl

theorem Blank.skipAfter_closing {blank : List Char} (h : Blank blank) (rest : List Char) :
    skipAfter (container :: around) (blank ++ container.closing :: rest) =
      skipAfter around rest := by
  rw [skipAfter_eq, h.skipSpace_append_cons (isSpace_closing container)]
  simp only [if_neg (closing_ne_comma container), if_true]

theorem skipValue_skipSpace : skipValue around (skipSpace text) = skipValue around text := by
  rw [skipValue_eq, skipSpace_skipSpace, ← skipValue_eq]

theorem skipItem_skipSpace :
    skipItem container around (skipSpace text) = skipItem container around text := by
  cases container with
  | array => exact skipValue_skipSpace
  | object => simp only [skipItem, skipLabel_skipSpace]

theorem Label.skipItem_append {label : List Char} (h : Label container label)
    (rest : List Char) :
    skipItem container around (label ++ rest) = skipValue (container :: around) rest := by
  simp only [skipItem, h.skipLabel_append rest]

end

/-! ## Values that stand there are passed over -/

theorem Value.head {value : List Char} (h : Value value) :
    ∃ c tail, value = c :: tail ∧ isSpace c = false ∧ c ≠ ']' := by
  cases h with
  | scalar h =>
      rcases h.head with ⟨c, tail, rfl, hspace, _, hne⟩
      exact ⟨c, tail, rfl, hspace, hne⟩
  | empty container =>
      exact ⟨container.opening, _, rfl, isSpace_opening container, opening_ne_bracket container⟩
  | @filled container =>
      exact ⟨container.opening, _, rfl, isSpace_opening container, opening_ne_bracket container⟩

/-- What stands in front of the value of an item and the value do not begin with the end of their
container. -/
theorem Label.head {container : Container} {label before value : List Char}
    (h : Label container label) (hbefore : Blank before) (hvalue : Value value)
    (rest : List Char) :
    ∃ d tail, skipSpace (label ++ before ++ value ++ rest) = d :: tail ∧
      d ≠ container.closing := by
  cases h with
  | none =>
      rcases hvalue.head with ⟨c, tail, rfl, hspace, hne⟩
      exact ⟨c, tail ++ rest, by simp [hbefore.skipSpace_append_cons hspace], hne⟩
  | @key blank raw after hblank hraw hafter =>
      have hquote := hblank.skipSpace_append_cons (show isSpace '"' = false from rfl)
        (raw ++ '"' :: (after ++ [':']) ++ before ++ value ++ rest)
      exact ⟨'"', _, by simpa using hquote, by decide⟩

theorem Derives.items_head {container : Container} {items : List Char}
    (h : Derives (.items container) items) (rest : List Char) :
    ∃ d tail, skipSpace (items ++ rest) = d :: tail ∧ d ≠ container.closing := by
  cases h with
  | @last _ label before value after hlabel hbefore hvalue hafter =>
      rcases hlabel.head hbefore hvalue (after ++ rest) with ⟨d, tail, hhead, hne⟩
      exact ⟨d, tail, by simpa using hhead, hne⟩
  | @more _ label before value after items hlabel hbefore hvalue hafter hitems =>
      rcases hlabel.head hbefore hvalue (after ++ ',' :: items ++ rest) with ⟨d, tail, hhead, hne⟩
      exact ⟨d, tail, by simpa using hhead, hne⟩

theorem noNumber_closing (container : Container) (rest : List Char) :
    NoNumber (container.closing :: rest) := by
  intro c hc
  cases hc
  cases container with
  | array => decide
  | object => decide

theorem noNumber_comma (rest : List Char) : NoNumber (',' :: rest) := by
  intro c hc
  cases hc
  decide

/-- Where the pass goes on when a text of a form stands there. -/
def Form.PassedOver : Form → List Char → Prop
  | .value, text => ∀ (around : List Container) (before rest : List Char), Blank before →
      NoNumber rest → skipValue around (before ++ (text ++ rest)) = skipAfter around rest
  | .items container, text => ∀ (around : List Container) (rest : List Char),
      skipItem container around (text ++ container.closing :: rest) = skipAfter around rest

theorem Derives.passedOver {form : Form} {text : List Char} (h : Derives form text) :
    form.PassedOver text := by
  induction h with
  | @scalar text h =>
      intro around before rest hbefore hrest
      have hskip := h.skipScalar_append hrest
      rcases h.head with ⟨c, tail, rfl, hspace, hopening, _⟩
      rw [List.cons_append] at hskip ⊢
      rw [skipValue_eq, hbefore.skipSpace_append_cons hspace]
      simp only [hopening, hskip]
  | @empty container blank h =>
      intro around before rest hbefore _
      have hclosing := h.skipSpace_append_cons (isSpace_closing container) rest
      rw [List.cons_append, skipValue_eq,
        hbefore.skipSpace_append_cons (isSpace_opening container)]
      simp [ofOpening?_opening, hclosing]
  | @filled container items h ih =>
      intro around before rest hbefore _
      rcases h.items_head (container.closing :: rest) with ⟨d, tail, hhead, hne⟩
      have hitem := ih around rest
      rw [← skipItem_skipSpace, hhead] at hitem
      rw [List.cons_append, List.append_assoc, skipValue_eq,
        hbefore.skipSpace_append_cons (isSpace_opening container)]
      simp [ofOpening?_opening, hhead, hne, hitem]
  | @last container label before value after hlabel hbefore _ hafter ih =>
      intro around rest
      have hnumber := hafter.noNumber_append (noNumber_closing container rest)
      have hvalue := ih (container :: around) before (after ++ container.closing :: rest) hbefore
        hnumber
      simp only [List.append_assoc]
      rw [hlabel.skipItem_append, hvalue, hafter.skipAfter_closing]
  | @more container label before value after items hlabel hbefore _ hafter _ ih ih' =>
      intro around rest
      have hnumber := hafter.noNumber_append
        (noNumber_comma (items ++ container.closing :: rest))
      have hvalue := ih (container :: around) before _ hbefore hnumber
      simp only [List.append_assoc, List.cons_append]
      rw [hlabel.skipItem_append, hvalue, hafter.skipAfter_comma]
      exact ih' around rest

theorem Value.skipValue_append {value before rest : List Char} (h : Value value)
    (hbefore : Blank before) (hrest : NoNumber rest) :
    skipValue [] (before ++ (value ++ rest)) = .ok rest := by
  rw [← skipAfter_nil]
  exact h.passedOver [] before rest hbefore hrest

/-! ## What is passed over is a value -/

mutual

theorem value_of_skipValue {around : List Container} {text rest : List Char}
    (h : skipValue around text = .ok rest) :
    ∃ before value tail, text = before ++ (value ++ tail) ∧ Blank before ∧ Value value ∧
      skipAfter around tail = .ok rest := by
  rw [skipValue_eq] at h
  split at h
  · cases h
  · next c middle hspace =>
      obtain ⟨before, htext, hbefore⟩ := blank_of_skipSpace_eq hspace
      split at h
      · next container hopening =>
          rw [opening_of_ofOpening? hopening] at htext
          split at h
          · cases h
          · next d last hspace' =>
              obtain ⟨blank, hmiddle, hblank⟩ := blank_of_skipSpace_eq hspace'
              split at h
              · next hclosing =>
                  rw [hmiddle, hclosing] at htext
                  exact ⟨before, container.opening :: (blank ++ [container.closing]), last,
                    by simp [htext], hbefore, .empty container hblank, h⟩
              · rw [← hspace', skipItem_skipSpace] at h
                have hlength := length_lt_of_skipSpace hspace
                rcases items_of_skipItem h with ⟨items, tail, rfl, hitems, hafter⟩
                exact ⟨before, container.opening :: (items ++ [container.closing]), tail,
                  by simp [htext], hbefore, .filled hitems, hafter⟩
      · split at h
        · cases h
        · next last hscalar =>
            rcases scalar_of_skipScalar hscalar with ⟨scalar, hmiddle, hscalar'⟩
            rw [hmiddle] at htext
            exact ⟨before, scalar, last, htext, hbefore, .scalar hscalar', h⟩
termination_by 2 * text.length
decreasing_by omega

theorem items_of_skipItem {container : Container} {around : List Container}
    {text rest : List Char} (h : skipItem container around text = .ok rest) :
    ∃ items tail, text = items ++ container.closing :: tail ∧
      Derives (.items container) items ∧ skipAfter around tail = .ok rest := by
  unfold skipItem at h
  split at h
  · cases h
  · next middle hlabel =>
      have hmiddle := skipLabel_length hlabel
      rcases label_of_skipLabel hlabel with ⟨label, htext, hlabel'⟩
      rcases value_of_skipValue h with ⟨before, value, behind, hvalue, hbefore, hvalue', hafter⟩
      rw [skipAfter_eq] at hafter
      split at hafter
      · cases hafter
      · next c last hspace =>
          obtain ⟨after, hbehind, hblank⟩ := blank_of_skipSpace_eq hspace
          split at hafter
          · next hcomma =>
              have hlast : last.length < text.length := by
                have := length_lt_of_skipSpace hspace
                rw [hvalue] at hmiddle
                simp only [List.length_append] at hmiddle
                omega
              rcases items_of_skipItem hafter with ⟨items, tail, rfl, hitems, hrest⟩
              refine ⟨label ++ before ++ value ++ after ++ ',' :: items, tail, ?_,
                .more hlabel' hbefore hvalue' hblank hitems, hrest⟩
              simp [htext, hvalue, hbehind, hcomma]
          · split at hafter
            · next hclosing =>
                refine ⟨label ++ before ++ value ++ after, last, ?_,
                  .last hlabel' hbefore hvalue' hblank, hafter⟩
                simp [htext, hvalue, hbehind, hclosing]
            · cases hafter
termination_by 2 * text.length + 1
decreasing_by all_goals omega

end

theorem value_of_skipValue_nil {text rest : List Char} (h : skipValue [] text = .ok rest) :
    ∃ before value, text = before ++ (value ++ rest) ∧ Blank before ∧ Value value := by
  rcases value_of_skipValue h with ⟨before, value, tail, htext, hbefore, hvalue, hafter⟩
  rw [skipAfter_nil] at hafter
  cases hafter
  exact ⟨before, value, htext, hbefore, hvalue⟩

end TemplateScope.Json
