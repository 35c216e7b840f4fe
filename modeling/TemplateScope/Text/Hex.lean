/-!
# Hexadecimal digits

Lower-case hexadecimal of a fixed width, and the value of a digit in either case.
-/

namespace TemplateScope.Hex

def digit (n : Nat) : Char :=
  if n < 10 then Char.ofNat (n + 48) else Char.ofNat (n + 87)

/-- The last `width` digits of a number, zeros in front included. -/
def padded : Nat → Nat → List Char
  | 0, _ => []
  | width + 1, n => padded width (n / 16) ++ [digit (n % 16)]

def minimal (n : Nat) : List Char := Nat.toDigits 16 n

/-- What a digit stands for; letters may be of either case. -/
def value? (c : Char) : Option Nat :=
  if '0' ≤ c ∧ c ≤ '9' then some (c.toNat - 48)
  else if 'a' ≤ c ∧ c ≤ 'f' then some (c.toNat - 87)
  else if 'A' ≤ c ∧ c ≤ 'F' then some (c.toNat - 55)
  else none

theorem value?_digit {n : Nat} (h : n < 16) : value? (digit n) = some n := by
  revert h
  revert n
  decide

end TemplateScope.Hex
