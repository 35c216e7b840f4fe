import TemplateScope.Json.Skip

/-!
# The language of JSON texts

What a JSON text is, said by putting texts together and without a reader. Strings come in two
forms: one that says something and one that is only well formed. The numbers here have no bounds,
and values may be nested to any depth.
-/

namespace TemplateScope.Json

/-- Nothing but characters that may stand between tokens. -/
def Blank (text : List Char) : Prop := ∀ c ∈ text, isSpace c

/-! ## Strings -/

inductive HexDigit : Char → Nat → Prop where
  | decimal {n : Nat} (h : n < 10) : HexDigit (Char.ofNat ('0'.toNat + n)) n
  | lower {n : Nat} (h : n < 6) : HexDigit (Char.ofNat ('a'.toNat + n)) (n + 10)
  | upper {n : Nat} (h : n < 6) : HexDigit (Char.ofNat ('A'.toNat + n)) (n + 10)

inductive Unit16 : List Char → Nat → Prop where
  | digits {a b c d : Char} {i j k l : Nat} (ha : HexDigit a i) (hb : HexDigit b j)
      (hc : HexDigit c k) (hd : HexDigit d l) :
      Unit16 [a, b, c, d] (i * 0x1000 + j * 0x100 + k * 0x10 + l)

def shortEscapes : List (Char × Char) :=
  [('"', '"'), ('\\', '\\'), ('/', '/'), ('b', '\x08'), ('f', '\x0c'), ('n', '\n'), ('r', '\r'),
    ('t', '\t')]

inductive Escape : List Char → Char → Prop where
  | short {letter c : Char} (h : (letter, c) ∈ shortEscapes) : Escape [letter] c
  /-- A unit of its own is a character, so it cannot be half a pair. -/
  | scalar {digits : List Char} {c : Char} (h : Unit16 digits c.toNat) : Escape ('u' :: digits) c
  | pair {high low : List Char} {leading trailing : Nat} {c : Char} (hhigh : Unit16 high leading)
      (hleading : 0xD800 ≤ leading ∧ leading < 0xDC00) (hlow : Unit16 low trailing)
      (htrailing : 0xDC00 ≤ trailing ∧ trailing < 0xE000)
      (h : c.toNat = 0x10000 + (leading - 0xD800) * 0x400 + (trailing - 0xDC00)) :
      Escape ('u' :: (high ++ '\\' :: 'u' :: low)) c

/-- What stands behind a backslash in a string that nobody decodes. -/
inductive LooseEscape : List Char → Prop where
  | short {letter c : Char} (h : (letter, c) ∈ shortEscapes) : LooseEscape [letter]
  | unit {digits : List Char} {value : Nat} (h : Unit16 digits value) : LooseEscape ('u' :: digits)

def Plain (c : Char) : Prop := c ≠ '"' ∧ c ≠ '\\' ∧ ' ' ≤ c

/-- What stands between quotes and the characters it says. -/
inductive Decodes : List Char → List Char → Prop where
  | nil : Decodes [] []
  | plain {c : Char} {raw chars : List Char} (h : Plain c) (tail : Decodes raw chars) :
      Decodes (c :: raw) (c :: chars)
  | escape {piece raw chars : List Char} {c : Char} (h : Escape piece c)
      (tail : Decodes raw chars) : Decodes ('\\' :: (piece ++ raw)) (c :: chars)

inductive Loose : List Char → Prop where
  | nil : Loose []
  | plain {c : Char} {raw : List Char} (h : Plain c) (tail : Loose raw) : Loose (c :: raw)
  | escape {piece raw : List Char} (h : LooseEscape piece) (tail : Loose raw) :
      Loose ('\\' :: (piece ++ raw))

/-! ## Numbers -/

def Digits (text : List Char) : Prop := text ≠ [] ∧ ∀ c ∈ text, isDigit c

/-- A zero stands in front of other digits in no integer. -/
inductive Integer : List Char → Prop where
  | zero : Integer ['0']
  | digits {c : Char} {text : List Char} (hzero : c ≠ '0') (h : Digits (c :: text)) :
      Integer (c :: text)

inductive Fraction : List Char → Prop where
  | none : Fraction []
  | digits {text : List Char} (h : Digits text) : Fraction ('.' :: text)

inductive Sign : List Char → Prop where
  | none : Sign []
  | plus : Sign ['+']
  | minus : Sign ['-']

inductive Exponent : List Char → Prop where
  | none : Exponent []
  | digits {e : Char} {sign text : List Char} (he : e = 'e' ∨ e = 'E') (hsign : Sign sign)
      (h : Digits text) : Exponent (e :: (sign ++ text))

inductive Magnitude : List Char → Prop where
  | parts {integer fraction exponent : List Char} (hinteger : Integer integer)
      (hfraction : Fraction fraction) (hexponent : Exponent exponent) :
      Magnitude (integer ++ fraction ++ exponent)

/-! ## Values -/

/-- A value that contains no others. -/
inductive Scalar : List Char → Prop where
  | null : Scalar ['n', 'u', 'l', 'l']
  | true : Scalar ['t', 'r', 'u', 'e']
  | false : Scalar ['f', 'a', 'l', 's', 'e']
  | string {raw : List Char} (h : Loose raw) : Scalar ('"' :: (raw ++ ['"']))
  | positive {text : List Char} (h : Magnitude text) : Scalar text
  | negative {text : List Char} (h : Magnitude text) : Scalar ('-' :: text)

def Container.opening : Container → Char
  | .array => '['
  | .object => '\x7b'

/-- What stands in front of the value of an item: a key and a colon in an object, and nothing in
an array. -/
inductive Label : Container → List Char → Prop where
  | none : Label .array []
  | key {before raw after : List Char} (hbefore : Blank before) (h : Loose raw)
      (hafter : Blank after) : Label .object (before ++ '"' :: (raw ++ '"' :: (after ++ [':'])))

/-- What a text may be derived as: a value, or the items between the brackets of a container. -/
inductive Form where
  | value
  | items (container : Container)

/-- The texts of a form. Items are parted by commas, and none stands behind the last. -/
inductive Derives : Form → List Char → Prop where
  | scalar {text : List Char} (h : Scalar text) : Derives .value text
  | empty (container : Container) {blank : List Char} (h : Blank blank) :
      Derives .value (container.opening :: (blank ++ [container.closing]))
  | filled {container : Container} {items : List Char} (h : Derives (.items container) items) :
      Derives .value (container.opening :: (items ++ [container.closing]))
  | last {container : Container} {label before value after : List Char}
      (hlabel : Label container label) (hbefore : Blank before) (hvalue : Derives .value value)
      (hafter : Blank after) : Derives (.items container) (label ++ before ++ value ++ after)
  | more {container : Container} {label before value after items : List Char}
      (hlabel : Label container label) (hbefore : Blank before) (hvalue : Derives .value value)
      (hafter : Blank after) (hitems : Derives (.items container) items) :
      Derives (.items container) (label ++ before ++ value ++ after ++ ',' :: items)

abbrev Value (text : List Char) : Prop := Derives .value text

end TemplateScope.Json
