import Seek.Decimal.Layout
import Seek.Json.Numeral

/-!
Numbers: what a numeral stands for. A whole number without sign that fits a word is natural, one
with a sign that fits a signed word is negative, and any other numeral is a float, also one of a
whole number too large for either, and the negative zero. A float is formed from as many leading
digits as fit a word and a power of ten, in two roundings, and is not always the nearest; a numeral
too large for a finite float stands for nothing.
-/

namespace Seek.Json

/-- The value of a numeral. -/
inductive Number where
  | natural (value : UInt64)
  /-- A whole number below zero, not below `-2 ^ 63`. -/
  | negative (magnitude : Nat)
  | float (value : Float)
  deriving Repr

namespace Number

/-- Numbers are written out from `0.00001` up to sixteen digits before the point. -/
def layout : Decimal.Layout where
  lowest := -5
  highest := 15

/-- The number between grave accents, after the kind of number it is. -/
def describe : Number → String
  | .natural value => s!"integer \x60{value}\x60"
  | .negative magnitude => s!"integer \x60-{magnitude}\x60"
  | .float value => s!"floating point \x60{layout.float value}\x60"

end Number

/-! ### Floats -/

/-- Continues the number `n` with as many of the digits as fit a word, and counts those left over. -/
def fitWord (n : Nat) : List Char → Nat × Nat
  | [] => (n, 0)
  | d :: digits =>
    let longer := Nat.ofDigitChars 10 [d] n
    if longer < UInt64.size then fitWord longer digits else (n, digits.length + 1)

/-- The float nearest to a power of ten. -/
def powerOfTen (n : Nat) : Float := .ofScientific 1 false n

/-- The float times a power of ten, if that is finite. Tables of powers end at `10 ^ 308`: a smaller
float is reached by repeated division, until nothing is left of it. -/
def scaleFloat (x : Float) (power : Int) : Option Float :=
  if power.natAbs ≤ 308 then
    if 0 ≤ power then
      let product := x * powerOfTen power.natAbs
      if product.isInf then none else some product
    else some (x / powerOfTen power.natAbs)
  else if x == 0 then some x
  else if 0 ≤ power then none
  else scaleFloat (x / powerOfTen 308) (power + 308)
termination_by power.natAbs

namespace Numeral

/-- The digits of the whole part and the fraction that fit a word, and the power of ten that they
are to be scaled by, the exponent apart. -/
def significand (numeral : Numeral) : Nat × Int :=
  let fraction := numeral.fraction.getD []
  let (head, dropped) := fitWord 0 numeral.whole
  let (digits, ignored) := fitWord head fraction
  (digits, dropped - (fraction.length - ignored : Nat))

/-- The float without its sign, if it is finite. An exponent beyond 31 bits is not looked at any
closer. -/
def magnitude (numeral : Numeral) : Option Float :=
  let (digits, power) := numeral.significand
  let x := (UInt64.ofNat digits).toFloat
  match numeral.exponent with
  | none => scaleFloat x power
  | some exponent =>
    let size := Nat.ofDigitChars 10 exponent.digits 0
    if size < 0x80000000 then
      scaleFloat x (if exponent.isNegative then power - size else power + size)
    else if digits = 0 ∨ exponent.isNegative then some 0
    else none

/-- The float that the numeral stands for, if it is finite. -/
def float (numeral : Numeral) : Option Float :=
  numeral.magnitude.map fun x => if numeral.isNegative then -x else x

/-- The number that the numeral stands for, if there is one. -/
def value (numeral : Numeral) : Option Number :=
  let whole := Nat.ofDigitChars 10 numeral.whole 0
  let isWhole := numeral.fraction.isNone && numeral.exponent.isNone
  if isWhole ∧ ¬numeral.isNegative ∧ whole < UInt64.size then some (.natural (.ofNat whole))
  else if isWhole ∧ numeral.isNegative ∧ 0 < whole ∧ whole ≤ 0x8000000000000000 then
    some (.negative whole)
  else numeral.float.map .float

end Numeral

end Seek.Json
