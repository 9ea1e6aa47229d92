import Seek.Command.Integer
import Seek.Text.Character

/-!
Numerals on a command line: a minus sign or none, and digits, any number of them. Reading stops at
the first digit that takes the number out of its word, and since more digits never make a number
smaller this is known of the whole numeral at once (`readDigits_eq`). Main statement: a numeral in
the range of values is read as its value, and any other, however long, is refused
(`readInteger_text`, `exists_readInteger_text_eq_error`).
-/

namespace Seek.Command

/-- A number is no larger than it is with more digits behind it. -/
theorem le_ofDigitChars (digits : List Char) (n : Nat) : n ≤ Nat.ofDigitChars 10 digits n := by
  induction digits generalizing n with
  | nil => exact Nat.le_refl n
  | cons c digits ih =>
    rw [Nat.ofDigitChars_cons]
    exact Nat.le_trans (by omega) (ih _)

theorem readDigits_eq {limit : Nat} {overflow : IntegerError} {digits : List Char}
    (hdigits : ∀ c ∈ digits, c.isDigit) {n : Nat} (hn : n ≤ limit) :
    readDigits limit overflow n digits =
      if Nat.ofDigitChars 10 digits n ≤ limit then .ok (Nat.ofDigitChars 10 digits n)
      else .error overflow := by
  induction digits generalizing n with
  | nil => exact (if_pos hn).symm
  | cons c digits ih =>
    have hc : c.isDigit := hdigits c List.mem_cons_self
    have hmore : Nat.ofDigitChars 10 (c :: digits) n =
        Nat.ofDigitChars 10 digits (Nat.ofDigitChars 10 [c] n) :=
      Nat.ofDigitChars_append (l := [c]) n
    rw [readDigits, if_pos hc, hmore]
    by_cases hlonger : Nat.ofDigitChars 10 [c] n ≤ limit
    · rw [if_pos hlonger, ih (fun d hd => hdigits d (List.mem_cons_of_mem c hd)) hlonger]
    · -- Reading stops here, and the digits that are left do not bring the number back.
      have hle := le_ofDigitChars digits (Nat.ofDigitChars 10 [c] n)
      rw [if_neg hlonger, if_neg (by omega)]

theorem readWord_minus {digits : List Char} (hne : digits ≠ []) : readWord ('-' :: digits) = do
    let magnitude ← readDigits (largestWord + 1) .tooSmall 0 digits
    return -magnitude := by
  rw [readWord]
  simp [hne]

theorem readWord_of_isDigit {c : Char} (hc : c.isDigit) (digits : List Char) :
    readWord (c :: digits) = do
      let number ← readDigits largestWord .tooLarge 0 (c :: digits)
      return number := by
  have hminus : c ≠ '-' := Text.ne_of_isDigit hc rfl
  have hplus : c ≠ '+' := Text.ne_of_isDigit hc rfl
  rw [readWord] <;> simp [hminus, hplus]

/-- An integer in decimal: a minus sign or none, and digits. -/
structure Numeral where
  isNegative : Bool
  digits : List Char
  digits_ne_nil : digits ≠ []
  isDigit_of_mem : ∀ c ∈ digits, c.isDigit

namespace Numeral

/-- The numeral as written. -/
def text (numeral : Numeral) : List Char :=
  if numeral.isNegative then '-' :: numeral.digits else numeral.digits

/-- The number without its sign. -/
def magnitude (numeral : Numeral) : Nat := Nat.ofDigitChars 10 numeral.digits 0

/-- The number that the numeral stands for. -/
def value (numeral : Numeral) : Int :=
  if numeral.isNegative then -numeral.magnitude else numeral.magnitude

/-- The value that the numeral is read as, if its number is in range. -/
def toInt32 (numeral : Numeral) : Int32 := .ofInt numeral.value

/-- The number is a value of 32 bits. -/
def InRange (numeral : Numeral) : Prop :=
  Int32.minValue.toInt ≤ numeral.value ∧ numeral.value ≤ Int32.maxValue.toInt

instance (numeral : Numeral) : Decidable numeral.InRange := inferInstanceAs (Decidable (_ ∧ _))

/-- The numeral of an integer, with no digit too many. -/
def ofInt (n : Int) : Numeral where
  isNegative := decide (n < 0)
  digits := Nat.toDigits 10 n.natAbs
  digits_ne_nil := Nat.toDigits_ne_nil
  isDigit_of_mem := fun _ => Nat.isDigit_of_mem_toDigits (by decide) (by decide)

/-- Every integer has a numeral. -/
theorem value_ofInt (n : Int) : (ofInt n).value = n := by
  simp only [value, magnitude, ofInt, Nat.ofDigitChars_ten_toDigits, decide_eq_true_eq]
  split <;> omega

/-- That numeral is how the integer is always written. -/
theorem text_ofInt (n : Int) : (ofInt n).text = (toString n).toList := by
  rw [Int.toString_eq_repr, Int.repr_eq_if]
  by_cases hn : n < 0
  · have habs : n.natAbs = (-n).toNat := by omega
    simp [text, ofInt, hn, habs, Int.not_le.2 hn]
  · have habs : n.natAbs = n.toNat := by omega
    simp [text, ofInt, hn, habs, Int.not_lt.1 hn]

/-- The digits of a numeral, the first apart. -/
theorem exists_digits_eq_cons (numeral : Numeral) :
    ∃ c digits, numeral.digits = c :: digits ∧ c.isDigit ∧ ∀ d ∈ digits, d.isDigit := by
  have hdigits := numeral.isDigit_of_mem
  obtain ⟨c, digits, hcons⟩ := List.exists_cons_of_ne_nil numeral.digits_ne_nil
  rw [hcons] at hdigits
  exact ⟨c, digits, hcons, List.forall_mem_cons.1 hdigits⟩

/-- A numeral begins with a digit, or with a digit behind its sign. -/
theorem exists_text_eq (numeral : Numeral) :
    ∃ c digits, c.isDigit ∧ (∀ d ∈ digits, d.isDigit) ∧
      (numeral.text = '-' :: c :: digits ∨ numeral.text = c :: digits) := by
  obtain ⟨c, digits, hcons, hc, hdigits⟩ := numeral.exists_digits_eq_cons
  refine ⟨c, digits, hc, hdigits, ?_⟩
  rw [text, hcons]
  cases numeral.isNegative with
  | true => exact .inl rfl
  | false => exact .inr rfl

/-- A numeral is read as a word where the number is one. -/
theorem readWord_text (numeral : Numeral) : readWord numeral.text =
    if Int64.minValue.toInt ≤ numeral.value ∧ numeral.value ≤ Int64.maxValue.toInt then
      .ok numeral.value
    else .error (if numeral.isNegative then .tooSmall else .tooLarge) := by
  have hmin : Int64.minValue.toInt = -(largestWord + 1 : Nat) := by decide
  have hmax : Int64.maxValue.toInt = (largestWord : Nat) := by decide
  have hread (limit : Nat) (overflow : IntegerError) :
      readDigits limit overflow 0 numeral.digits =
        if numeral.magnitude ≤ limit then .ok numeral.magnitude else .error overflow :=
    readDigits_eq numeral.isDigit_of_mem (Nat.zero_le limit)
  cases hneg : numeral.isNegative with
  | true =>
    have htext : numeral.text = '-' :: numeral.digits := by simp [text, hneg]
    have hvalue : numeral.value = -(numeral.magnitude : Int) := by simp [value, hneg]
    rw [htext, readWord_minus numeral.digits_ne_nil, hread, hvalue]
    by_cases hfits : numeral.magnitude ≤ largestWord + 1
    · rw [if_pos hfits, if_pos (by omega)]
      rfl
    · rw [if_neg hfits, if_neg (by omega)]
      rfl
  | false =>
    obtain ⟨c, digits, hcons, hc, -⟩ := numeral.exists_digits_eq_cons
    have htext : numeral.text = c :: digits := by simp [text, hneg, hcons]
    have hvalue : numeral.value = (numeral.magnitude : Int) := by simp [value, hneg]
    rw [htext, readWord_of_isDigit hc, ← hcons, hread, hvalue]
    by_cases hfits : numeral.magnitude ≤ largestWord
    · rw [if_pos hfits, if_pos (by omega)]
      rfl
    · rw [if_neg hfits, if_neg (by omega)]
      rfl

theorem readInteger_text {numeral : Numeral} (h : numeral.InRange) :
    readInteger numeral.text = .ok numeral.toInt32 := by
  have hword : Int64.minValue.toInt ≤ numeral.value ∧ numeral.value ≤ Int64.maxValue.toInt :=
    ⟨Int.le_trans (by decide) h.1, Int.le_trans h.2 (by decide)⟩
  rw [readInteger, readWord_text, if_pos hword]
  exact if_pos h

/-- A numeral that is out of range is refused, whether it is a word or not. -/
theorem exists_readInteger_text_eq_error {numeral : Numeral} (h : ¬ numeral.InRange) :
    ∃ reason, readInteger numeral.text = .error reason := by
  rw [readInteger, readWord_text]
  split
  · exact ⟨_, if_neg h⟩
  · exact ⟨_, rfl⟩

/-- The value that is read is the number that was written. -/
theorem toInt_toInt32 {numeral : Numeral} (h : numeral.InRange) :
    numeral.toInt32.toInt = numeral.value := by
  have hmin : Int32.minValue.toInt = -2 ^ 31 := by decide
  have hmax : Int32.maxValue.toInt = 2 ^ 31 - 1 := by decide
  obtain ⟨hlow, hhigh⟩ := h
  exact Int32.toInt_ofInt_of_le (by omega) (by omega)

end Numeral

end Seek.Command
