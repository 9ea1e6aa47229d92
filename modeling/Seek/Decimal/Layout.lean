import Seek.Decimal.Shortest

/-!
Layouts: how a decimal is written. A number of middling size is written out with a point in it; any
other has one digit before the point, the rest behind it, and an exponent.
-/

namespace Seek.Decimal

/-- How numbers are written. -/
structure Layout where
  /-- The least exponent of the first digit for which a number is written out. -/
  lowest : Int
  /-- The greatest exponent of the first digit for which a number is written out. -/
  highest : Int

/-- The digits with a point before, between or behind them, where `exponent` is that of the first
digit. A digit stands on either side of the point. -/
def writeOut (digits : List Char) (exponent : Int) : List Char :=
  let whole := (exponent + 1).toNat
  if exponent < 0 then
    ['0', '.'] ++ List.replicate (exponent.natAbs - 1) '0' ++ digits
  else if digits.length ≤ whole then
    digits ++ List.replicate (whole - digits.length) '0' ++ ['.', '0']
  else digits.take whole ++ ['.'] ++ digits.drop whole

/-- The exponent with its sign, which is never left out. -/
def writeExponent (exponent : Int) : List Char :=
  ['e', if exponent < 0 then '-' else '+'] ++ Nat.toDigits 10 exponent.natAbs

/-- The decimal as the layout has it. -/
def Layout.write (layout : Layout) (d : Decimal) : List Char :=
  let digits := Nat.toDigits 10 d.digits
  let exponent := d.power + (digits.length - 1 : Nat)
  if layout.lowest ≤ exponent ∧ exponent ≤ layout.highest then writeOut digits exponent
  else
    let point := if digits.length = 1 then [] else ['.']
    digits.take 1 ++ point ++ digits.drop 1 ++ writeExponent exponent

/-- The float as the layout has it, for any float but the infinite ones and those that are no
number. -/
def Layout.float (layout : Layout) (x : Float) : String :=
  let magnitude := x.toBits &&& 0x7fffffffffffffff
  let sign := if x.toBits = magnitude then [] else ['-']
  let text :=
    if magnitude = 0 then ['0', '.', '0']
    else ((ofBits magnitude).map layout.write).getD []
  .ofList (sign ++ text)

end Seek.Decimal
