/-!
# The shortest decimal of a double

Of all decimals that are read back as a given double, the one with the fewest digits is wanted, and
of several with as few digits the nearest. The reals that are read as the double form an interval
around it, and the decimals with a given last place form a grid, so the coarsest grid with a point
in the interval gives the digits. All of it is exact arithmetic on natural numbers.
-/

namespace TemplateScope.Decimal

structure Scaled where
  digits : Nat
  exponent : Int
deriving DecidableEq, Repr

/-- A positive double with the ends of its interval, in units of `2 ^ exponent`. The ends belong to
the interval if `closed`. -/
structure Interval where
  low : Nat
  mid : Nat
  high : Nat
  closed : Bool
  exponent : Int
deriving DecidableEq, Repr

namespace Interval

/-- The interval of a mantissa of 53 bits at most. It reaches half way to the neighbours, and the
neighbour below is half as far away where a power of two begins. -/
def ofMantissa (mantissa : Nat) (exponent : Int) (beginsPower : Bool) : Interval where
  low := 4 * mantissa - if beginsPower then 1 else 2
  mid := 4 * mantissa
  high := 4 * mantissa + 2
  closed := mantissa % 2 = 0
  exponent := exponent - 2

/-- The interval in units of `10 ^ place / 2 ^ s / 10 ^ t`, with `s` and `t` so large that its
numbers are whole; the second component is the size of one step of the grid in these units. -/
def onGrid (i : Interval) (place : Int) : Interval × Nat :=
  let factor := Nat.pow 2 i.exponent.toNat * Nat.pow 10 (-place).toNat
  let step := Nat.pow 2 (-i.exponent).toNat * Nat.pow 10 place.toNat
  ({ i with low := i.low * factor, mid := i.mid * factor, high := i.high * factor }, step)

def contains (i : Interval) (x : Nat) : Bool :=
  if i.closed then i.low ≤ x && x ≤ i.high else i.low < x && x < i.high

/-- The point of a grid that lies in the interval and is nearest to its middle. Only the two points
around the middle can be; if they are equally near, the even one is taken. -/
def nearest? (i : Interval) (place : Int) : Option Nat :=
  let (i, step) := i.onGrid place
  let below := i.mid / step
  let above := below + 1
  match i.contains (below * step), i.contains (above * step) with
  | true, true =>
      let fromBelow := i.mid - below * step
      let fromAbove := above * step - i.mid
      if fromBelow < fromAbove then some below
      else if fromAbove < fromBelow then some above
      else if below % 2 = 0 then some below
      else some above
  | true, false => some below
  | false, true => some above
  | false, false => none

def search (i : Interval) (finest : Int) : Nat → Scaled
  | 0 => ⟨(i.nearest? finest).getD 0, finest⟩
  | places + 1 =>
      let place := finest + (places + 1 : Nat)
      match i.nearest? place with
      | some digits => ⟨digits, place⟩
      | none => search i finest places

end Interval

def decode (bits : Nat) : Nat × Int × Bool :=
  let fraction : Nat := bits % Nat.pow 2 52
  let exponent : Nat := bits / Nat.pow 2 52 % Nat.pow 2 11
  if exponent = 0 then (fraction, -1074, false)
  else
    -- below a power of two doubles lie closer than above it, unless it is the least normal one
    (fraction + Nat.pow 2 52, exponent - 1075, fraction = 0 && exponent != 1)

/-- No double reaches `10 ^ 309`, and the least one above zero is more than `10 ^ (-324)`, so the
grids in between are enough. -/
def shortest (bits : UInt64) : Scaled :=
  let (mantissa, exponent, beginsPower) := decode bits.toNat
  if mantissa = 0 then ⟨0, 0⟩
  else (Interval.ofMantissa mantissa exponent beginsPower).search (-324) 633

end TemplateScope.Decimal
