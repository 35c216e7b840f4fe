import TemplateScope.Decimal.Shortest

/-!
# Writing decimals

A decimal is written with a point among its digits or with a power of ten behind them. Which of the
two is chosen depends on where its first digit stands.
-/

namespace TemplateScope.Decimal

/-- The places of the first digit, as powers of ten, for which the point is used. -/
structure Layout where
  lowestPositional : Int
  highestPositional : Int
deriving DecidableEq, Repr

def zeros (n : Nat) : List Char := List.replicate n '0'

/-- Digits with a point behind the first `whole` of them. There is a digit on either side of the
point, a zero if need be. -/
def pointed (digits : List Char) (whole : Int) : List Char :=
  if whole ≤ 0 then '0' :: '.' :: (zeros (-whole).toNat ++ digits)
  else
    let whole := whole.toNat
    if whole < digits.length then digits.take whole ++ '.' :: digits.drop whole
    else digits ++ zeros (whole - digits.length) ++ ['.', '0']

def signed (exponent : Int) : List Char :=
  (if exponent < 0 then '-' else '+') :: Nat.toDigits 10 exponent.natAbs

def scientific (digits : List Char) (exponent : Int) : List Char :=
  let fraction := match digits.drop 1 with
    | [] => []
    | more => '.' :: more
  digits.take 1 ++ fraction ++ 'e' :: signed exponent

def Layout.write (layout : Layout) (negative : Bool) (x : Scaled) : String :=
  let digits := Nat.toDigits 10 x.digits
  let first := x.exponent + digits.length - 1
  let sign := if negative then ['-'] else []
  let magnitude :=
    if x.digits = 0 then ['0', '.', '0']
    else if layout.lowestPositional ≤ first ∧ first ≤ layout.highestPositional then
      pointed digits (first + 1)
    else scientific digits first
  String.ofList (sign ++ magnitude)

/-- Doubles are shown with a point while their first digit stands between a hundred-thousandth and
ten to the fifteenth. -/
def doubleLayout : Layout := ⟨-5, 15⟩

/-- The text of a finite double. A zero keeps its sign. -/
def showDouble (bits : UInt64) : String :=
  doubleLayout.write (bits.toNat / Nat.pow 2 63 = 1) (shortest bits)

end TemplateScope.Decimal
