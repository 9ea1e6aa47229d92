/-!
Integers on a command line. An integer is a sign, which may be left out, and digits. It is read as a
signed word of 64 bits from the front, so the first thing wrong with it is reported, and only then
has to fit the 32 bits of a value.
-/

namespace Seek.Command

/-- Why a text is no value. -/
inductive IntegerError where
  /-- There is nothing to read. -/
  | empty
  /-- A character is no digit, or there is a sign only. -/
  | invalidDigit
  /-- The number is above all words. -/
  | tooLarge
  /-- The number is below all words. -/
  | tooSmall
  /-- The number fits a word and not a value. -/
  | outOfRange (number : Int)
  deriving DecidableEq, Repr

/-- The error in words. -/
def IntegerError.message : IntegerError → String
  | .empty => "cannot parse integer from empty string"
  | .invalidDigit => "invalid digit found in string"
  | .tooLarge => "number too large to fit in target type"
  | .tooSmall => "number too small to fit in target type"
  | .outOfRange number => s!"{number} is not in -2147483648..=2147483647"

/-- Continues the number `n` with the digits, as long as it is at most `limit`. -/
def readDigits (limit : Nat) (overflow : IntegerError) (n : Nat) :
    List Char → Except IntegerError Nat
  | [] => .ok n
  | c :: cs =>
    if c.isDigit then
      let longer := Nat.ofDigitChars 10 [c] n
      if longer ≤ limit then readDigits limit overflow longer cs else .error overflow
    else .error .invalidDigit

/-- The largest word. The smallest is one further below zero. -/
def largestWord : Nat := 0x7fffffffffffffff

/-- The word that the text stands for. -/
def readWord : List Char → Except IntegerError Int
  | [] => .error .empty
  | ['-'] => .error .invalidDigit
  | ['+'] => .error .invalidDigit
  | '-' :: digits => do
    let magnitude ← readDigits (largestWord + 1) .tooSmall 0 digits
    return -magnitude
  | '+' :: digits => do
    let number ← readDigits largestWord .tooLarge 0 digits
    return number
  | digits => do
    let number ← readDigits largestWord .tooLarge 0 digits
    return number

/-- The value that the text stands for. -/
def readInteger (text : List Char) : Except IntegerError Int32 := do
  let number ← readWord text
  if Int32.minValue.toInt ≤ number ∧ number ≤ Int32.maxValue.toInt then .ok (.ofInt number)
  else .error (.outOfRange number)

end Seek.Command
