import TemplateScope.Json.Basic
import TemplateScope.Text.Hex

/-!
# Reading and writing JSON strings

A string that is kept is decoded: its escapes must name characters, and the halves of a surrogate
pair must stand together. A string that is passed over only has to be well formed, so four
hexadecimal digits may stand for anything there. All readers start behind the opening quote.
-/

namespace TemplateScope.Json

def shortEscape? : Char → Option Char
  | '"' => some '"'
  | '\\' => some '\\'
  | '/' => some '/'
  | 'b' => some '\x08'
  | 'f' => some '\x0c'
  | 'n' => some '\n'
  | 'r' => some '\r'
  | 't' => some '\t'
  | _ => none

/-! ## Sixteen-bit units -/

def hex4? (a b c d : Char) : Option Nat := do
  let a ← Hex.value? a
  let b ← Hex.value? b
  let c ← Hex.value? c
  let d ← Hex.value? d
  return ((a * 16 + b) * 16 + c) * 16 + d

def byteLength (text : List Char) : Nat := text.foldl (fun n c => n + c.utf8Size) 0

/-- Read four hexadecimal digits. Whether the text ends too early is decided by the bytes that are
left, before any of them is looked at. -/
def readHex4 : List Char → Except Fault (Nat × List Char)
  | a :: b :: c :: d :: rest =>
      match hex4? a b c d with
      | some unit => .ok (unit, rest)
      | none => .error .malformed
  | text => if byteLength text < 4 then .error .truncated else .error .malformed

theorem readHex4_length {text rest : List Char} {unit : Nat}
    (h : readHex4 text = .ok (unit, rest)) : rest.length < text.length := by
  unfold readHex4 at h
  split at h
  · split at h
    · cases h
      simp only [List.length_cons]
      omega
    · cases h
  · split at h <;> cases h

def isLeading (unit : Nat) : Bool := 0xD800 ≤ unit ∧ unit ≤ 0xDBFF

def isTrailing (unit : Nat) : Bool := 0xDC00 ≤ unit ∧ unit ≤ 0xDFFF

def pairChar (leading trailing : Nat) : Char :=
  Char.ofNat ((leading - 0xD800) * 0x400 + (trailing - 0xDC00) + 0x10000)

/-! ## Decoding -/

/-- Read the digits of a numeric escape, and those of its other half if it is half a pair. -/
def readUnicode (text : List Char) : Except Fault (Char × List Char) :=
  match readHex4 text with
  | .error fault => .error fault
  | .ok (unit, rest) =>
      if isTrailing unit then .error .malformed
      else if isLeading unit then
        match rest with
        | [] => .error .truncated
        | ['\\'] => .error .truncated
        | '\\' :: 'u' :: rest =>
            match readHex4 rest with
            | .error fault => .error fault
            | .ok (other, rest) =>
                if isTrailing other then .ok (pairChar unit other, rest) else .error .malformed
        | _ => .error .malformed
      else .ok (Char.ofNat unit, rest)

def readEscape : List Char → Except Fault (Char × List Char)
  | [] => .error .truncated
  | c :: rest =>
      if c = 'u' then readUnicode rest
      else
        match shortEscape? c with
        | some decoded => .ok (decoded, rest)
        | none => .error .malformed

theorem readUnicode_length {text rest : List Char} {c : Char}
    (h : readUnicode text = .ok (c, rest)) : rest.length < text.length := by
  unfold readUnicode at h
  split at h
  · cases h
  · next unit middle hunit =>
      have hmiddle := readHex4_length hunit
      split at h
      · cases h
      · split at h
        · split at h
          · cases h
          · cases h
          · split at h
            · cases h
            · next tail _ other last hother =>
                have hlast := readHex4_length hother
                split at h
                · simp only [Except.ok.injEq, Prod.mk.injEq] at h
                  rw [← h.2]
                  simp only [List.length_cons] at hmiddle
                  omega
                · cases h
          · cases h
        · simp only [Except.ok.injEq, Prod.mk.injEq] at h
          exact h.2 ▸ hmiddle

theorem readEscape_length {text rest : List Char} {c : Char}
    (h : readEscape text = .ok (c, rest)) : rest.length < text.length := by
  unfold readEscape at h
  split at h
  · cases h
  · next first tail =>
      split at h
      · have := readUnicode_length h
        simp only [List.length_cons]
        omega
      · split at h
        · cases h
          simp
        · cases h

def readText (text : List Char) : Except Fault (List Char × List Char) :=
  match text with
  | [] => .error .truncated
  | c :: rest =>
      if c = '"' then .ok ([], rest)
      else if c = '\\' then
        match _h : readEscape rest with
        | .error fault => .error fault
        | .ok (decoded, rest) =>
            match readText rest with
            | .error fault => .error fault
            | .ok (chars, rest) => .ok (decoded :: chars, rest)
      else if c < ' ' then .error .malformed
      else
        match readText rest with
        | .error fault => .error fault
        | .ok (chars, rest) => .ok (c :: chars, rest)
termination_by text.length
decreasing_by
  · have := readEscape_length _h
    simp only [List.length_cons]
    omega
  · simp

/-! ## Passing over -/

def skipEscape : List Char → Except Fault (List Char)
  | [] => .error .truncated
  | c :: rest =>
      if c = 'u' then
        match readHex4 rest with
        | .error fault => .error fault
        | .ok (_, rest) => .ok rest
      else if (shortEscape? c).isSome then .ok rest
      else .error .malformed

theorem skipEscape_length {text rest : List Char} (h : skipEscape text = .ok rest) :
    rest.length < text.length := by
  unfold skipEscape at h
  split at h
  · cases h
  · split at h
    · split at h
      · cases h
      · next unit tail hunit =>
          cases h
          have := readHex4_length hunit
          simp only [List.length_cons]
          omega
    · split at h
      · cases h
        simp
      · cases h

def skipText (text : List Char) : Except Fault (List Char) :=
  match text with
  | [] => .error .truncated
  | c :: rest =>
      if c = '"' then .ok rest
      else if c = '\\' then
        match _h : skipEscape rest with
        | .error fault => .error fault
        | .ok rest => skipText rest
      else if c < ' ' then .error .malformed
      else skipText rest
termination_by text.length
decreasing_by
  · have := skipEscape_length _h
    simp only [List.length_cons]
    omega
  · simp

theorem readText_length {text chars rest : List Char} (h : readText text = .ok (chars, rest)) :
    rest.length < text.length := by
  fun_induction readText text generalizing chars rest with
  | case1 => cases h
  | case2 => cases h; simp
  | case3 => cases h
  | case4 => cases h
  | case5 tail decoded middle hescape _ _ htext _ ih =>
      cases h
      have := readEscape_length hescape
      have := ih htext
      simp only [List.length_cons]
      omega
  | case6 => cases h
  | case7 => cases h
  | case8 _ _ _ _ _ _ _ htext ih =>
      cases h
      have := ih htext
      simp only [List.length_cons]
      omega

theorem skipText_length {text rest : List Char} (h : skipText text = .ok rest) :
    rest.length < text.length := by
  fun_induction skipText text generalizing rest with
  | case1 => cases h
  | case2 => cases h; simp
  | case3 => cases h
  | case4 _ _ hescape _ ih =>
      have := skipEscape_length hescape
      have := ih h
      simp only [List.length_cons]
      omega
  | case5 => cases h
  | case6 _ _ _ _ _ ih =>
      have := ih h
      simp only [List.length_cons]
      omega

/-! ## Writing -/

/-- A character inside a written string. Only quotes, backslashes and control characters need an
escape, and the common ones among them have a short one. -/
def escapeChar (c : Char) : List Char :=
  if c = '"' then ['\\', '"']
  else if c = '\\' then ['\\', '\\']
  else if c = '\x08' then ['\\', 'b']
  else if c = '\x0c' then ['\\', 'f']
  else if c = '\n' then ['\\', 'n']
  else if c = '\r' then ['\\', 'r']
  else if c = '\t' then ['\\', 't']
  else if c < ' ' then '\\' :: 'u' :: Hex.padded 4 c.toNat
  else [c]

/-- A string with its quotes. -/
def writeText (text : List Char) : List Char := '"' :: (text.flatMap escapeChar ++ ['"'])

end TemplateScope.Json
