/-!
Numerals: numbers as JSON writes them. A numeral has a whole part, in which a zero stands at the
front only if it stands alone, and may have a fraction and an exponent, each of at least one digit.
Reading takes as many characters as belong to the numeral, and keeps its digits as they are.
-/

namespace Seek.Json

/-- The exponent of a numeral. -/
structure Exponent where
  isNegative : Bool
  digits : List Char
  deriving DecidableEq, Repr

/-- A number as it is written. -/
structure Numeral where
  isNegative : Bool
  whole : List Char
  fraction : Option (List Char)
  exponent : Option Exponent
  deriving DecidableEq, Repr

namespace Numeral

/-- The digits at the front, and what follows them. -/
def readDigits (cs : List Char) : List Char × List Char :=
  (cs.takeWhile Char.isDigit, cs.dropWhile Char.isDigit)

/-- The digits may be the whole part of a numeral. -/
def isWhole : List Char → Bool
  | [] => false
  | ['0'] => true
  | d :: _ => d != '0'

/-- The sign at the front, and what follows it. -/
def readMinus : List Char → Bool × List Char
  | '-' :: rest => (true, rest)
  | cs => (false, cs)

/-- A sign that may be written either way, and what follows it. -/
def readSign : List Char → Bool × List Char
  | '+' :: rest => (false, rest)
  | cs => readMinus cs

/-- The fraction at the front, if there is one, and what follows it. -/
def readFraction : List Char → Option (Option (List Char) × List Char)
  | '.' :: cs =>
    let (digits, rest) := readDigits cs
    if digits.isEmpty then none else some (some digits, rest)
  | cs => some (none, cs)

/-- The exponent at the front, if there is one, and what follows it. -/
def readExponent : List Char → Option (Option Exponent × List Char)
  | [] => some (none, [])
  | c :: cs =>
    if c = 'e' ∨ c = 'E' then
      let (isNegative, cs) := readSign cs
      let (digits, rest) := readDigits cs
      if digits.isEmpty then none else some (some ⟨isNegative, digits⟩, rest)
    else some (none, c :: cs)

/-- The numeral at the front, and what follows it. -/
def read (cs : List Char) : Option (Numeral × List Char) :=
  let (isNegative, cs) := readMinus cs
  let (whole, cs) := readDigits cs
  if isWhole whole then do
    let (fraction, cs) ← readFraction cs
    let (exponent, cs) ← readExponent cs
    some (⟨isNegative, whole, fraction, exponent⟩, cs)
  else none

/-! ### What follows is shorter -/

theorem length_readDigits (cs : List Char) :
    (readDigits cs).1.length + (readDigits cs).2.length = cs.length := by
  rw [← List.length_append]
  exact congrArg List.length (List.takeWhile_append_dropWhile ..)

theorem length_readMinus_le (cs : List Char) : (readMinus cs).2.length ≤ cs.length := by
  unfold readMinus
  split <;> simp

theorem length_readSign_le (cs : List Char) : (readSign cs).2.length ≤ cs.length := by
  unfold readSign
  split
  · simp
  · exact length_readMinus_le _

theorem length_of_readFraction {cs rest : List Char} {fraction : Option (List Char)}
    (h : readFraction cs = some (fraction, rest)) : rest.length ≤ cs.length := by
  unfold readFraction at h
  split at h
  · rename_i cs'
    have := length_readDigits cs'
    dsimp only at h
    split at h
    · cases h
    · cases h
      simp only [List.length_cons]
      omega
  · cases h
    simp

theorem length_of_readExponent {cs rest : List Char} {exponent : Option Exponent}
    (h : readExponent cs = some (exponent, rest)) : rest.length ≤ cs.length := by
  unfold readExponent at h
  split at h
  · cases h
    simp
  · rename_i c cs'
    split at h
    · have := length_readSign_le cs'
      have := length_readDigits (readSign cs').2
      dsimp only at h
      split at h
      · cases h
      · cases h
        simp only [List.length_cons]
        omega
    · cases h
      simp

theorem length_of_read {cs rest : List Char} {numeral : Numeral}
    (h : read cs = some (numeral, rest)) : rest.length < cs.length := by
  unfold read at h
  have hminus := length_readMinus_le cs
  have hdigits := length_readDigits (readMinus cs).2
  dsimp only at h
  split at h
  · rename_i hwhole
    have hpos : 0 < (readDigits (readMinus cs).2).1.length := by
      cases hw : (readDigits (readMinus cs).2).1 with
      | nil => rw [hw] at hwhole; cases hwhole
      | cons => simp
    simp only [bind, Option.bind_eq_some_iff, Option.some.injEq, Prod.mk.injEq] at h
    obtain ⟨⟨fraction, afterFraction⟩, hfraction, ⟨exponent, afterExponent⟩, hexponent, -, rfl⟩ := h
    have := length_of_readFraction hfraction
    have := length_of_readExponent hexponent
    dsimp only at this ⊢
    omega
  · cases h

end Numeral

end Seek.Json
