import TemplateScope.Json.Skip

/-!
# The value of a JSON number

A number is an integer if it is written as one and fits into 64 bits, and a double otherwise. The
digits of a double are gathered into 64 bits as far as they fit, and the power of ten is applied
to that in double arithmetic.
-/

namespace TemplateScope.Json

inductive Number where
  | integer (value : Int)
  | double (bits : UInt64)
deriving DecidableEq, Repr

def digitValue (c : Char) : Nat := c.toNat - 48

/-- Gather digits while the number they make stays below `2 ^ 64`: that number, how many digits
were gathered, and what is left. -/
def gatherDigits (gathered : Nat) : List Char → Nat × Nat × List Char
  | [] => (gathered, 0, [])
  | c :: rest =>
      if isDigit c ∧ gathered * 10 + digitValue c < Nat.pow 2 64 then
        let (total, count, rest) := gatherDigits (gathered * 10 + digitValue c) rest
        (total, count + 1, rest)
      else (gathered, 0, c :: rest)

def powerOfTen (n : Nat) : Float := Float.ofScientific 1 false n

/-- Divide by `10 ^ n`, in steps for powers that are no doubles. -/
def scaleDown (x : Float) (n : Nat) : Float :=
  if n ≤ 308 then x / powerOfTen n
  else if x == 0 then x
  else scaleDown (x / powerOfTen 308) (n - 308)
termination_by n

/-- The double nearest to gathered digits, scaled by a power of ten. A number beyond all doubles is
malformed. -/
def toDouble (negative : Bool) (gathered : Nat) (exponent : Int) : Except Fault Number :=
  let x := gathered.toUInt64.toFloat
  let signed (x : Float) : Except Fault Number :=
    .ok (.double (if negative then -x else x).toBits)
  if exponent < 0 then signed (scaleDown x exponent.natAbs)
  else if exponent ≤ 308 then
    let scaled := x * powerOfTen exponent.natAbs
    if scaled.isInf then .error .malformed else signed scaled
  else if x == 0 then signed x
  else .error .malformed

def readExponent (negative : Bool) (gathered : Nat) (exponent : Int) (text : List Char) :
    Except Fault Number :=
  let digits := skipSign text
  match digits with
  | [] => .error .truncated
  | c :: _ =>
      if isDigit c then
        let shift := (digits.takeWhile isDigit).foldl (fun n c => n * 10 + digitValue c) 0
        toDouble negative gathered
          (if text.head? = some '-' then exponent - shift else exponent + shift)
      else .error .malformed

def readScale (negative : Bool) (gathered : Nat) (exponent : Int) (text : List Char) :
    Except Fault Number :=
  match text with
  | c :: rest =>
      if c = 'e' ∨ c = 'E' then readExponent negative gathered exponent rest
      else toDouble negative gathered exponent
  | [] => toDouble negative gathered exponent

/-- Read the digits behind a point, of which there has to be one. Those that no longer fit are left
out of the number. -/
def readFraction (negative : Bool) (gathered : Nat) (exponent : Int) (text : List Char) :
    Except Fault Number :=
  let (total, count, rest) := gatherDigits gathered text
  let beyond := rest.dropWhile isDigit
  if count = 0 ∧ beyond.length = rest.length then
    if rest.isEmpty then .error .truncated else .error .malformed
  else readScale negative total (exponent - count) beyond

/-- The number of an integer that ends here and fits. Zero has a sign only as a double. -/
def ofInteger (negative : Bool) (gathered : Nat) : Except Fault Number :=
  if !negative then .ok (.integer gathered)
  else if 0 < gathered ∧ gathered ≤ Nat.pow 2 63 then .ok (.integer (-gathered))
  else toDouble true gathered 0

def readTail (negative : Bool) (gathered : Nat) (text : List Char) : Except Fault Number :=
  match text with
  | [] => ofInteger negative gathered
  | c :: rest =>
      if isDigit c then
        let beyond := text.takeWhile isDigit
        match text.dropWhile isDigit with
        | '.' :: rest => readFraction negative gathered beyond.length rest
        | rest => readScale negative gathered beyond.length rest
      else if c = '.' then readFraction negative gathered 0 rest
      else if c = 'e' ∨ c = 'E' then readExponent negative gathered 0 rest
      else ofInteger negative gathered

def readNumber (negative : Bool) (text : List Char) : Except Fault Number :=
  match text with
  | [] => .error .truncated
  | c :: rest =>
      if c = '0' then
        match rest with
        | [] => readTail negative 0 rest
        | d :: _ => if isDigit d then .error .malformed else readTail negative 0 rest
      else if isDigit c then
        let (gathered, _, rest) := gatherDigits 0 text
        readTail negative gathered rest
      else .error .malformed

end TemplateScope.Json
