/-!
# Reading JSON: blanks and words

Readers take the characters that are left and give back what they read together with the
characters after it. They look no further than they must, so the first fault of a text is the one
reported, and they tell a text that breaks a rule from one that stops too early.
-/

namespace TemplateScope.Json

inductive Fault where
  /-- A character stands where the grammar has no place for it. -/
  | malformed
  /-- The text ends where the grammar asks for more. -/
  | truncated
deriving DecidableEq, Repr

def isSpace (c : Char) : Bool := c = ' ' ∨ c = '\n' ∨ c = '\t' ∨ c = '\r'

def skipSpace (text : List Char) : List Char := text.dropWhile isSpace

theorem skipSpace_length (text : List Char) : (skipSpace text).length ≤ text.length :=
  (List.dropWhile_sublist isSpace).length_le

def readWord : List Char → List Char → Except Fault (List Char)
  | [], text => .ok text
  | _ :: _, [] => .error .truncated
  | letter :: letters, c :: rest =>
      if c = letter then readWord letters rest else .error .malformed

theorem readWord_eq_ok_iff {letters text rest : List Char} :
    readWord letters text = .ok rest ↔ text = letters ++ rest := by
  induction letters generalizing text with
  | nil => simp [readWord]
  | cons letter letters ih =>
      cases text with
      | nil => simp [readWord]
      | cons c text =>
          by_cases h : c = letter
          · simp [readWord, h, ih]
          · simp [readWord, h]

def readColon (text : List Char) : Except Fault (List Char) :=
  match skipSpace text with
  | [] => .error .truncated
  | c :: rest => if c = ':' then .ok rest else .error .malformed

theorem readColon_length {text rest : List Char} (h : readColon text = .ok rest) :
    rest.length < text.length := by
  have hspace := skipSpace_length text
  unfold readColon at h
  split at h
  · cases h
  · next c tail heq =>
      split at h
      · cases h
        simp only [heq, List.length_cons] at hspace
        omega
      · cases h

end TemplateScope.Json
