import TemplateScope.Options.Basic
import TemplateScope.Options.Error

/-!
# Reading options

Options are a JSON object whose members may come in any order and may be left out, or an array of
the same values in their fixed order, which may be cut short. Members with other keys are passed
over. A text is read from left to right and the first fault decides.
-/

namespace TemplateScope.Options

open Json (Fault skipSpace)

/-- What has been read so far. A member that was there with a null is not a missing member. -/
structure Members where
  moduleName : Option (Option String) := none
  strictMode : Option Bool := none
deriving DecidableEq, Repr

namespace Members

def has (m : Members) : Field → Bool
  | .moduleName => m.moduleName.isSome
  | .strictMode => m.strictMode.isSome

def toOptions (m : Members) : Options where
  moduleName := m.moduleName.getD Options.default.moduleName
  strictMode := m.strictMode.getD Options.default.strictMode

end Members

/-! ## Values -/

/-- What the value that begins here is. Arrays and objects are told by their first character, and
all else has to be well formed to be told. -/
def found : List Char → Except Fault Found
  | [] => .error .truncated
  | c :: rest =>
      if c = 'n' then (Json.readWord ['u', 'l', 'l'] rest).map fun _ => .null
      else if c = 't' then (Json.readWord ['r', 'u', 'e'] rest).map fun _ => .boolean true
      else if c = 'f' then (Json.readWord ['a', 'l', 's', 'e'] rest).map fun _ => .boolean false
      else if c = '-' then (Json.readNumber true rest).map .number
      else if Json.isDigit c then (Json.readNumber false (c :: rest)).map .number
      else if c = '"' then (Json.readText rest).map fun (chars, _) => .string (String.ofList chars)
      else if c = '[' then .ok .sequence
      else if c = '\x7b' then .ok .map
      else .error .malformed

def wrongType (expected : Expected) (text : List Char) : ReadError :=
  match found text with
  | .error fault => .text fault
  | .ok found => .data (.invalidType found expected)

def readModuleName (text : List Char) : Except ReadError (Option String × List Char) :=
  match skipSpace text with
  | [] => .error (.text .truncated)
  | c :: rest =>
      if c = 'n' then
        match Json.readWord ['u', 'l', 'l'] rest with
        | .error fault => .error (.text fault)
        | .ok rest => .ok (none, rest)
      else if c = '"' then
        match Json.readText rest with
        | .error fault => .error (.text fault)
        | .ok (chars, rest) => .ok (some (String.ofList chars), rest)
      else .error (wrongType .string (c :: rest))

def readStrictMode (text : List Char) : Except ReadError (Bool × List Char) :=
  match skipSpace text with
  | [] => .error (.text .truncated)
  | c :: rest =>
      if c = 't' then
        match Json.readWord ['r', 'u', 'e'] rest with
        | .error fault => .error (.text fault)
        | .ok rest => .ok (true, rest)
      else if c = 'f' then
        match Json.readWord ['a', 'l', 's', 'e'] rest with
        | .error fault => .error (.text fault)
        | .ok rest => .ok (false, rest)
      else .error (wrongType .boolean (c :: rest))

def readField (m : Members) (field : Field) (text : List Char) :
    Except ReadError (Members × List Char) :=
  match field with
  | .moduleName => do
      let (value, rest) ← readModuleName text
      return ({ m with moduleName := some value }, rest)
  | .strictMode => do
      let (value, rest) ← readStrictMode text
      return ({ m with strictMode := some value }, rest)

/-! ## Objects -/

/-- Read a member behind the opening quote of its key. That it repeats another is noticed at its
key, before anything after it is looked at. -/
def readMember (m : Members) (text : List Char) : Except ReadError (Members × List Char) :=
  match Json.readText text with
  | .error fault => .error (.text fault)
  | .ok (key, rest) =>
      match Field.ofKey? key with
      | some field =>
          if m.has field then .error (.data (.duplicateField field))
          else
            match Json.readColon rest with
            | .error fault => .error (.text fault)
            | .ok rest => readField m field rest
      | none =>
          match Json.readColon rest with
          | .error fault => .error (.text fault)
          | .ok rest =>
              match Json.skipValue [] rest with
              | .error fault => .error (.text fault)
              | .ok rest => .ok (m, rest)

theorem readModuleName_length {text rest : List Char} {value : Option String}
    (h : readModuleName text = .ok (value, rest)) : rest.length < text.length := by
  unfold readModuleName at h
  split at h
  · cases h
  · next c tail hspace =>
      have := Json.length_lt_of_skipSpace hspace
      split at h
      · split at h
        · cases h
        · next hword =>
            cases h
            have := Json.readWord_length hword
            omega
      split at h
      · split at h
        · cases h
        · next htext =>
            cases h
            have := Json.readText_length htext
            omega
      · cases h

theorem readStrictMode_length {text rest : List Char} {value : Bool}
    (h : readStrictMode text = .ok (value, rest)) : rest.length < text.length := by
  unfold readStrictMode at h
  split at h
  · cases h
  · next c tail hspace =>
      have := Json.length_lt_of_skipSpace hspace
      split at h
      · split at h
        · cases h
        · next hword =>
            cases h
            have := Json.readWord_length hword
            omega
      split at h
      · split at h
        · cases h
        · next hword =>
            cases h
            have := Json.readWord_length hword
            omega
      · cases h

theorem readField_length {m m' : Members} {field : Field} {text rest : List Char}
    (h : readField m field text = .ok (m', rest)) : rest.length < text.length := by
  cases field with
  | moduleName =>
      cases hvalue : readModuleName text with
      | error _ => simp [readField, hvalue, bind, Except.bind] at h
      | ok pair =>
          simp only [readField, hvalue, bind, Except.bind, pure, Except.pure, Except.ok.injEq,
            Prod.mk.injEq] at h
          exact h.2 ▸ readModuleName_length hvalue
  | strictMode =>
      cases hvalue : readStrictMode text with
      | error _ => simp [readField, hvalue, bind, Except.bind] at h
      | ok pair =>
          simp only [readField, hvalue, bind, Except.bind, pure, Except.pure, Except.ok.injEq,
            Prod.mk.injEq] at h
          exact h.2 ▸ readStrictMode_length hvalue

theorem readMember_length {m m' : Members} {text rest : List Char}
    (h : readMember m text = .ok (m', rest)) : rest.length < text.length := by
  unfold readMember at h
  split at h
  · cases h
  · next key tail htext =>
      have := Json.readText_length htext
      split at h
      · split at h
        · cases h
        · split at h
          · cases h
          · next hcolon =>
              have := Json.readColon_length hcolon
              have := readField_length h
              omega
      · split at h
        · cases h
        · next hcolon =>
            have := Json.readColon_length hcolon
            split at h
            · cases h
            · next hvalue =>
                cases h
                have := Json.skipValue_length hvalue
                omega

def readMembers (m : Members) (text : List Char) : Except ReadError (Members × List Char) :=
  match _h : readMember m text with
  | .error e => .error e
  | .ok (m, rest) =>
      match _h' : skipSpace rest with
      | [] => .error (.text .truncated)
      | c :: rest =>
          if c = '\x7d' then .ok (m, rest)
          else if c = ',' then
            match _h'' : skipSpace rest with
            | [] => .error (.text .truncated)
            | d :: rest => if d = '"' then readMembers m rest else .error (.text .malformed)
          else .error (.text .malformed)
termination_by text.length
decreasing_by
  have := readMember_length _h
  have := Json.length_lt_of_skipSpace _h'
  have := Json.length_lt_of_skipSpace _h''
  omega

def readObject (text : List Char) : Except ReadError (Members × List Char) :=
  match skipSpace text with
  | [] => .error (.text .truncated)
  | c :: rest =>
      if c = '\x7d' then .ok ({}, rest)
      else if c = '"' then readMembers {} rest
      else .error (.text .malformed)

/-! ## Arrays -/

def readArrayEnd (m : Members) (text : List Char) : Except ReadError (Members × List Char) :=
  match skipSpace text with
  | [] => .error (.text .truncated)
  | c :: rest => if c = ']' then .ok (m, rest) else .error (.text .malformed)

/-- Read what follows the first element. -/
def readSecondElement (m : Members) (text : List Char) : Except ReadError (Members × List Char) :=
  match skipSpace text with
  | [] => .error (.text .truncated)
  | c :: rest =>
      if c = ']' then .ok (m, rest)
      else if c = ',' then do
        let (m, rest) ← readField m .strictMode rest
        readArrayEnd m rest
      else .error (.text .malformed)

def readArray (text : List Char) : Except ReadError (Members × List Char) :=
  match skipSpace text with
  | [] => .error (.text .truncated)
  | c :: rest =>
      if c = ']' then .ok ({}, rest)
      else do
        let (m, rest) ← readField {} .moduleName (c :: rest)
        readSecondElement m rest

/-! ## Texts -/

/-- Nothing but blanks may follow the value. -/
def finish : Except ReadError (Members × List Char) → Except ReadError Options
  | .error e => .error e
  | .ok (m, rest) =>
      if (skipSpace rest).isEmpty then .ok m.toOptions else .error (.text .malformed)

def readChars (text : List Char) : Except ReadError Options :=
  match skipSpace text with
  | [] => .error (.text .truncated)
  | c :: rest =>
      if c = '\x7b' then finish (readObject rest)
      else if c = '[' then finish (readArray rest)
      else .error (wrongType .options (c :: rest))

/-- The options that a text stands for. -/
def read (text : String) : Except ReadError Options := readChars text.toList

/-! ## Files -/

inductive FileError where
  | notFound
  | invalidText
  | content (error : ReadError)
deriving DecidableEq, Repr

/-- The options in a file with these bytes, or in none. -/
def ofFile : Option ByteArray → Except FileError Options
  | none => .error .notFound
  | some bytes =>
      match String.fromUTF8? bytes with
      | none => .error .invalidText
      | some text => (read text).mapError .content

end TemplateScope.Options
