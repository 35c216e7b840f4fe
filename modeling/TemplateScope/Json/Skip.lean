import TemplateScope.Json.Text

/-!
# Passing over JSON values

A value that nobody asks for is passed over. It has to be well formed, to any depth of nesting,
but its numbers may be of any size and its strings need not decode.

The containers that are open around the current place are kept in a list, innermost first, so that
the depth of a text is bounded by nothing but its length.
-/

namespace TemplateScope.Json

/-! ## Numbers -/

def isDigit (c : Char) : Bool := '0' ≤ c ∧ c ≤ '9'

def skipDigits : List Char → Except Fault (List Char)
  | [] => .error .malformed
  | c :: rest => if isDigit c then .ok (rest.dropWhile isDigit) else .error .malformed

/-- A zero in front is the whole integer, and no digit may follow it. -/
def skipInteger : List Char → Except Fault (List Char)
  | [] => .error .malformed
  | c :: rest =>
      if c = '0' then
        match rest with
        | [] => .ok []
        | d :: _ => if isDigit d then .error .malformed else .ok rest
      else skipDigits (c :: rest)

def skipFraction : List Char → Except Fault (List Char)
  | [] => .ok []
  | c :: rest => if c = '.' then skipDigits rest else .ok (c :: rest)

def skipSign : List Char → List Char
  | [] => []
  | c :: rest => if c = '+' ∨ c = '-' then rest else c :: rest

def skipExponent : List Char → Except Fault (List Char)
  | [] => .ok []
  | c :: rest => if c = 'e' ∨ c = 'E' then skipDigits (skipSign rest) else .ok (c :: rest)

/-- Pass over a number without its sign. A number cut off in the middle is malformed, like one
with a wrong character there. -/
def skipNumber (text : List Char) : Except Fault (List Char) := do
  skipExponent (← skipFraction (← skipInteger text))

theorem skipDigits_length {text rest : List Char} (h : skipDigits text = .ok rest) :
    rest.length < text.length := by
  unfold skipDigits at h
  split at h
  · cases h
  · next c tail =>
      split at h
      · cases h
        have := (List.dropWhile_sublist isDigit (l := tail)).length_le
        simp only [List.length_cons]
        omega
      · cases h

theorem skipInteger_length {text rest : List Char} (h : skipInteger text = .ok rest) :
    rest.length < text.length := by
  unfold skipInteger at h
  split at h
  · cases h
  · split at h
    · split at h
      · cases h
        simp
      · split at h
        · cases h
        · cases h
          simp
    · exact skipDigits_length h

theorem skipFraction_length {text rest : List Char} (h : skipFraction text = .ok rest) :
    rest.length ≤ text.length := by
  unfold skipFraction at h
  split at h
  · cases h
    simp
  · split at h
    · have := skipDigits_length h
      simp only [List.length_cons]
      omega
    · cases h
      simp

theorem skipSign_length (text : List Char) : (skipSign text).length ≤ text.length := by
  unfold skipSign
  split
  · simp
  · split <;> simp

theorem skipExponent_length {text rest : List Char} (h : skipExponent text = .ok rest) :
    rest.length ≤ text.length := by
  unfold skipExponent at h
  split at h
  · cases h
    simp
  · next c tail =>
      split at h
      · have := skipDigits_length h
        have := skipSign_length tail
        simp only [List.length_cons]
        omega
      · cases h
        simp

theorem skipNumber_length {text rest : List Char} (h : skipNumber text = .ok rest) :
    rest.length < text.length := by
  unfold skipNumber at h
  cases hinteger : skipInteger text with
  | error _ => simp [hinteger, bind, Except.bind] at h
  | ok middle =>
      cases hfraction : skipFraction middle with
      | error _ => simp [hinteger, hfraction, bind, Except.bind] at h
      | ok last =>
          simp only [hinteger, hfraction, bind, Except.bind] at h
          have := skipInteger_length hinteger
          have := skipFraction_length hfraction
          have := skipExponent_length h
          omega

/-! ## Scalars -/

def skipScalar : List Char → Except Fault (List Char)
  | [] => .error .truncated
  | c :: rest =>
      if c = 'n' then readWord ['u', 'l', 'l'] rest
      else if c = 't' then readWord ['r', 'u', 'e'] rest
      else if c = 'f' then readWord ['a', 'l', 's', 'e'] rest
      else if c = '"' then skipText rest
      else if c = '-' then skipNumber rest
      else if isDigit c then skipNumber (c :: rest)
      else .error .malformed

theorem readWord_length {letters text rest : List Char} (h : readWord letters text = .ok rest) :
    rest.length ≤ text.length := by
  simp [readWord_eq_ok_iff.1 h]

theorem skipScalar_length {text rest : List Char} (h : skipScalar text = .ok rest) :
    rest.length < text.length := by
  unfold skipScalar at h
  split at h
  · cases h
  · next c tail =>
      have hcons : (c :: tail).length = tail.length + 1 := rfl
      split at h
      · have := readWord_length h
        omega
      split at h
      · have := readWord_length h
        omega
      split at h
      · have := readWord_length h
        omega
      split at h
      · have := skipText_length h
        omega
      split at h
      · have := skipNumber_length h
        omega
      split at h
      · exact skipNumber_length h
      · cases h

/-! ## Containers -/

inductive Container where
  | array
  | object
deriving DecidableEq, Repr

namespace Container

def ofOpening? (c : Char) : Option Container :=
  if c = '[' then some .array else if c = '\x7b' then some .object else none

def closing : Container → Char
  | .array => ']'
  | .object => '\x7d'

end Container

def skipKey (text : List Char) : Except Fault (List Char) :=
  match skipSpace text with
  | [] => .error .truncated
  | c :: rest =>
      if c = '"' then do readColon (← skipText rest) else .error .malformed

theorem skipKey_length {text rest : List Char} (h : skipKey text = .ok rest) :
    rest.length < text.length := by
  have hspace := skipSpace_length text
  unfold skipKey at h
  split at h
  · cases h
  · next c tail heq =>
      simp only [heq, List.length_cons] at hspace
      split at h
      · cases htext : skipText tail with
        | error _ => simp [htext, bind, Except.bind] at h
        | ok middle =>
            simp only [htext, bind, Except.bind] at h
            have := skipText_length htext
            have := readColon_length h
            omega
      · cases h

/-- Pass over what stands before the value of an item: a key, if the container is an object. -/
def skipLabel (container : Container) (text : List Char) : Except Fault (List Char) :=
  match container with
  | .array => .ok text
  | .object => skipKey text

theorem skipLabel_length {container : Container} {text rest : List Char}
    (h : skipLabel container text = .ok rest) : rest.length ≤ text.length := by
  cases container with
  | array => cases h; exact Nat.le_refl _
  | object => exact Nat.le_of_lt (skipKey_length h)

theorem length_lt_of_skipSpace {text rest : List Char} {c : Char}
    (h : skipSpace text = c :: rest) : rest.length < text.length := by
  have := skipSpace_length text
  simp only [h, List.length_cons] at this
  omega

mutual

/-- Pass over a value, and then over what is left of the containers that are open around it. -/
def skipValue (around : List Container) (text : List Char) : Except Fault (List Char) :=
  match _h : skipSpace text with
  | [] => .error .truncated
  | c :: rest =>
      match Container.ofOpening? c with
      | some container =>
          match _h' : skipSpace rest with
          | [] => .error .truncated
          | d :: rest' =>
              if d = container.closing then skipAfter around rest'
              else
                match _h'' : skipLabel container (d :: rest') with
                | .error fault => .error fault
                | .ok item => skipValue (container :: around) item
      | none =>
          match _h' : skipScalar (c :: rest) with
          | .error fault => .error fault
          | .ok rest' => skipAfter around rest'
termination_by text.length
decreasing_by
  · have := length_lt_of_skipSpace _h
    have := length_lt_of_skipSpace _h'
    omega
  · have := length_lt_of_skipSpace _h
    have := length_lt_of_skipSpace _h'
    have := skipLabel_length _h''
    simp only [List.length_cons] at this
    omega
  · have := length_lt_of_skipSpace _h
    have := skipScalar_length _h'
    simp only [List.length_cons] at this
    omega

def skipAfter (around : List Container) (text : List Char) : Except Fault (List Char) :=
  match around with
  | [] => .ok text
  | container :: outer =>
      match _h : skipSpace text with
      | [] => .error .truncated
      | c :: rest =>
          if c = ',' then
            match _h' : skipLabel container rest with
            | .error fault => .error fault
            | .ok item => skipValue (container :: outer) item
          else if c = container.closing then skipAfter outer rest
          else .error .malformed
termination_by text.length
decreasing_by
  · have := length_lt_of_skipSpace _h
    have := skipLabel_length _h'
    omega
  · exact length_lt_of_skipSpace _h

end

mutual

theorem skipValue_length {around : List Container} {text rest : List Char}
    (h : skipValue around text = .ok rest) : rest.length < text.length := by
  rw [skipValue.eq_def] at h
  split at h
  · cases h
  · next c tail hspace =>
      have := length_lt_of_skipSpace hspace
      split at h
      · split at h
        · cases h
        · next d tail' hspace' =>
            have := length_lt_of_skipSpace hspace'
            split at h
            · have := skipAfter_length h
              omega
            · split at h
              · cases h
              · next item hlabel =>
                  have : item.length ≤ tail'.length + 1 := skipLabel_length hlabel
                  have := skipValue_length h
                  omega
      · split at h
        · cases h
        · next tail' hscalar =>
            have : tail'.length < tail.length + 1 := skipScalar_length hscalar
            have := skipAfter_length h
            omega
termination_by text.length
decreasing_by all_goals omega

theorem skipAfter_length {around : List Container} {text rest : List Char}
    (h : skipAfter around text = .ok rest) : rest.length ≤ text.length := by
  rw [skipAfter.eq_def] at h
  split at h
  · cases h
    exact Nat.le_refl _
  · split at h
    · cases h
    · next c tail hspace =>
        have := length_lt_of_skipSpace hspace
        split at h
        · split at h
          · cases h
          · next item hlabel =>
              have := skipLabel_length hlabel
              have := skipValue_length h
              omega
        · split at h
          · have := skipAfter_length h
            omega
          · cases h
termination_by text.length
decreasing_by all_goals omega

end

end TemplateScope.Json
