/-!
Shortest decimals: the decimal that names a binary number with the fewest digits. A binary number of
limited precision stands for all reals that round to it, an interval around its exact value. Of the
grids of multiples of `10 ^ power`, the coarsest with a point in that interval gives the fewest
digits; of two such points the nearer one is taken, and of two equally near the even one. All of it
is exact arithmetic on natural numbers.
-/

namespace Seek

/-- The number `digits * 10 ^ power`. -/
structure Decimal where
  digits : Nat
  power : Int
  deriving DecidableEq, Repr

namespace Decimal

/-- A positive binary number and the reals that round to it, all in units of `1 / unit`. The ends
belong to the interval if `closed`. -/
structure Span where
  below : Nat
  exact : Nat
  above : Nat
  unit : Nat
  closed : Bool
  deriving DecidableEq, Repr

namespace Span

/-- The point lies in the interval. -/
def holds (s : Span) (point : Nat) : Bool :=
  if s.closed then s.below ≤ point && point ≤ s.above
  else s.below < point && point < s.above

/-- The same interval in units smaller by `factor`. -/
def refine (s : Span) (factor : Nat) : Span :=
  ⟨s.below * factor, s.exact * factor, s.above * factor, s.unit * factor, s.closed⟩

/-- The nearer of two neighbours on a grid of spacing `step`, the even one if they are equally
near. -/
def nearer (s : Span) (step low : Nat) : Nat :=
  let down := s.exact - low * step
  let up := (low + 1) * step - s.exact
  if down < up then low
  else if up < down then low + 1
  else if low % 2 = 0 then low else low + 1

/-- The multiple of `step` that names the number, if one does. -/
def onGrid (s : Span) (step : Nat) : Option Nat :=
  let low := s.exact / step
  match s.holds (low * step), s.holds ((low + 1) * step) with
  | true, true => some (s.nearer step low)
  | true, false => some low
  | false, true => some (low + 1)
  | false, false => none

/-- The multiple of `10 ^ power` that names the number, if one does. -/
def atPower (s : Span) (power : Int) : Option Decimal :=
  let digits :=
    if 0 ≤ power then s.onGrid (Nat.pow 10 power.toNat * s.unit)
    else (s.refine (Nat.pow 10 power.natAbs)).onGrid s.unit
  digits.map fun d => ⟨d, power⟩

/-- The coarsest decimal that names the number, of the powers `top`, `top - 1` and so on. -/
def coarsest (s : Span) (top : Int) (count : Nat) : Option Decimal :=
  (List.range count).findSome? fun (i : Nat) => s.atPower (top - i)

end Span

/-- The reals that round to `m * 2 ^ q`. The next number below is half as far away as the next above
where `m` is the least of its binade and `q` is not the least exponent. -/
def Span.ofBinary (m : Nat) (q : Int) (isBinadeStart : Bool) : Span :=
  let units : Nat × Nat :=
    if 2 ≤ q then (Nat.pow 2 (q - 2).toNat, 1) else (1, Nat.pow 2 (2 - q).toNat)
  let gap := if isBinadeStart then 1 else 2
  ⟨(4 * m - gap) * units.1, 4 * m * units.1, (4 * m + 2) * units.1, units.2, m % 2 = 0⟩

/-- The shortest decimal of a finite positive float, from its bits. No float is as large as
`10 ^ 309`, and seventeen digits name any of them. -/
def ofBits (bits : UInt64) : Option Decimal :=
  let fraction := bits.toNat % 0x10000000000000
  let exponent : Nat := bits.toNat / 0x10000000000000 % 0x800
  let span :=
    if exponent = 0 then Span.ofBinary fraction (-1074) false
    else
      let isBinadeStart := fraction == 0 && exponent != 1
      Span.ofBinary (0x10000000000000 + fraction) (exponent - 1075) isBinadeStart
  span.coarsest 308 650

end Decimal

end Seek
