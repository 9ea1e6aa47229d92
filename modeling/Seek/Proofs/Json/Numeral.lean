import Seek.Json.Number
import Seek.Proofs.Json.Grammar
import Seek.Text.Character

/-!
Numerals, read. A numeral has no mark at its end, so it takes as many characters as belong to it,
and it can be told from the text that follows only where that text does not go on a numeral
(`Stops`). Main statements: what is read is a numeral of the grammar (`exists_of_read`), and a
numeral of the grammar is read where the text behind it stops it (`read_append`); only a whole
number without sign that fits a word stands for a natural number (`value_eq_natural_iff`).
-/

namespace Seek.Json

/-- The character can go on a numeral. -/
def continuesNumeral (c : Char) : Bool := c.isDigit || c == '.' || c == 'e' || c == 'E'

/-- The text does not go on a numeral. -/
def Stops (cs : List Char) : Prop := ∀ c ∈ cs.head?, continuesNumeral c = false

theorem stops_cons {c : Char} (h : continuesNumeral c = false) (cs : List Char) :
    Stops (c :: cs) := by
  intro d hd
  cases hd
  exact h

theorem stops_append {gap rest : List Char} (hgap : Blank gap) (stops : Stops rest) :
    Stops (gap ++ rest) := by
  cases gap with
  | nil => exact stops
  | cons c gap =>
    have hspace : isSpace c := hgap c List.mem_cons_self
    refine stops_cons ?_ _
    simp only [isSpace, Bool.or_eq_true, beq_iff_eq] at hspace
    rcases hspace with ((rfl | rfl) | rfl) | rfl <;> rfl

/-- What follows a value in a list or an object does not go on a numeral. -/
theorem stops_gap {gap : List Char} (hgap : Blank gap) {c : Char}
    (h : continuesNumeral c = false) (rest : List Char) : Stops (gap ++ c :: rest) :=
  stops_append hgap (stops_cons h rest)

namespace Numeral

/-! ### Parts that are read -/

theorem exists_of_readMinus (cs : List Char) :
    ∃ minus, Minus (readMinus cs).1 minus ∧ cs = minus ++ (readMinus cs).2 := by
  unfold readMinus
  split
  · exact ⟨_, .minus, rfl⟩
  · exact ⟨_, .none, rfl⟩

theorem exists_of_readSign (cs : List Char) :
    ∃ sign, Sign (readSign cs).1 sign ∧ cs = sign ++ (readSign cs).2 := by
  unfold readSign
  split
  · exact ⟨_, .plus, rfl⟩
  · obtain ⟨minus, hminus, heq⟩ := exists_of_readMinus cs
    exact ⟨minus, .minus hminus, heq⟩

theorem readDigits_fst_append_snd (cs : List Char) : (readDigits cs).1 ++ (readDigits cs).2 = cs :=
  List.takeWhile_append_dropWhile

theorem isDigit_of_mem_readDigits {cs : List Char} {c : Char} (h : c ∈ (readDigits cs).1) :
    c.isDigit := List.mem_takeWhile_imp h

theorem whole_of_isWhole {cs : List Char} (hdigits : ∀ c ∈ cs, c.isDigit) (h : isWhole cs) :
    Whole cs := by
  unfold isWhole at h
  split at h
  · cases h
  · exact ⟨⟨by simp, hdigits⟩, fun _ => rfl⟩
  · exact ⟨⟨by simp, hdigits⟩, fun hzero => by simp_all⟩

theorem exists_of_readFraction {cs rest : List Char} {digits? : Option (List Char)}
    (h : readFraction cs = some (digits?, rest)) :
    ∃ fraction, Fraction digits? fraction ∧ cs = fraction ++ rest := by
  unfold readFraction at h
  split at h
  · rename_i behind
    dsimp only at h
    split at h
    · cases h
    · rename_i hne
      cases h
      exact ⟨_, .some ⟨by simpa using hne, fun c => isDigit_of_mem_readDigits⟩,
        by rw [List.cons_append, readDigits_fst_append_snd]⟩
  · cases h
    exact ⟨_, .none, rfl⟩

theorem exists_of_readExponent {cs rest : List Char} {exponent? : Option Exponent}
    (h : readExponent cs = some (exponent?, rest)) :
    ∃ power, Power exponent? power ∧ cs = power ++ rest := by
  unfold readExponent at h
  split at h
  · cases h
    exact ⟨_, .none, rfl⟩
  · rename_i mark behind
    split at h
    · rename_i hmark
      dsimp only at h
      split at h
      · cases h
      · rename_i hne
        cases h
        obtain ⟨sign, hsign, heq⟩ := exists_of_readSign behind
        have hdigits := readDigits_fst_append_snd (readSign behind).2
        refine ⟨_, .some hmark hsign ⟨by simpa using hne, fun c => isDigit_of_mem_readDigits⟩, ?_⟩
        rw [List.cons_append, List.append_assoc, hdigits, ← heq]
    · cases h
      exact ⟨_, .none, rfl⟩

/-- What is read is a numeral. -/
theorem exists_of_read {cs rest : List Char} {numeral : Numeral}
    (h : read cs = some (numeral, rest)) :
    ∃ front, numeral.Written front ∧ cs = front ++ rest := by
  unfold read at h
  obtain ⟨minus, hminus, heq⟩ := exists_of_readMinus cs
  have hdigits := readDigits_fst_append_snd (readMinus cs).2
  dsimp only at h
  split at h
  · rename_i hwhole
    simp only [bind, Option.bind_eq_some_iff, Option.some.injEq, Prod.mk.injEq] at h
    obtain ⟨⟨_, behind⟩, hreadFraction, ⟨_, _⟩, hreadExponent, rfl, rfl⟩ := h
    obtain ⟨fraction, hfraction, heq'⟩ := exists_of_readFraction hreadFraction
    obtain ⟨power, hpower, rfl⟩ := exists_of_readExponent hreadExponent
    refine ⟨_, .mk hminus (whole_of_isWhole (fun c => isDigit_of_mem_readDigits) hwhole)
      hfraction hpower, ?_⟩
    rw [List.append_assoc, List.append_assoc, List.append_assoc, ← heq', hdigits, ← heq]
  · cases h

/-! ### Parts in front of other text -/

theorem readMinus_append {isNegative : Bool} {minus : List Char} (h : Minus isNegative minus)
    {rest : List Char} (hrest : ∀ c ∈ rest.head?, c ≠ '-') :
    readMinus (minus ++ rest) = (isNegative, rest) := by
  cases h with
  | minus => rfl
  | none =>
    rw [List.nil_append]
    unfold readMinus
    split
    · simp at hrest
    · rfl

theorem readSign_append {isNegative : Bool} {sign : List Char} (h : Sign isNegative sign)
    {rest : List Char} (hrest : ∀ c ∈ rest.head?, c ≠ '-' ∧ c ≠ '+') :
    readSign (sign ++ rest) = (isNegative, rest) := by
  cases h with
  | plus => rfl
  | minus hminus =>
    have hread := readMinus_append hminus fun c hc => (hrest c hc).1
    cases hminus with
    | minus => exact hread
    | none =>
      rw [List.nil_append] at hread ⊢
      unfold readSign
      split
      · simp at hrest
      · exact hread

theorem readDigits_append {digits rest : List Char} (hdigits : ∀ c ∈ digits, c.isDigit)
    (hrest : ∀ c ∈ rest.head?, c.isDigit = false) :
    readDigits (digits ++ rest) = (digits, rest) := by
  unfold readDigits
  rw [List.takeWhile_append_of_pos hdigits, List.dropWhile_append_of_pos hdigits]
  cases rest with
  | nil => simp
  | cons c rest => simp [hrest c rfl]

theorem isWhole_of_whole {cs : List Char} (h : Whole cs) : isWhole cs := by
  obtain ⟨⟨hne, -⟩, hzero⟩ := h
  unfold isWhole
  split
  · exact absurd rfl hne
  · rfl
  · rename_i d digits hlonger
    by_contra hd
    have heq : d = '0' := by simpa using hd
    subst heq
    exact hlonger rfl (List.cons.inj (hzero rfl)).2

/-- Digits begin with one. -/
theorem isDigit_head?_append {digits : List Char} (h : Digits digits) (rest : List Char) :
    ∀ c ∈ (digits ++ rest).head?, c.isDigit := by
  obtain ⟨d, digits, rfl⟩ := List.exists_cons_of_ne_nil h.1
  intro c hc
  cases hc
  exact h.2 d List.mem_cons_self

theorem readFraction_append {digits? : Option (List Char)} {fraction : List Char}
    (h : Fraction digits? fraction) {rest : List Char}
    (hrest : ∀ c ∈ rest.head?, c ≠ '.' ∧ c.isDigit = false) :
    readFraction (fraction ++ rest) = some (digits?, rest) := by
  cases h with
  | none =>
    rw [List.nil_append]
    unfold readFraction
    split
    · simp at hrest
    · rfl
  | some hdigits =>
    have hread := readDigits_append hdigits.2 fun c hc => (hrest c hc).2
    simp [readFraction, hread, hdigits.1]

theorem readExponent_append {exponent? : Option Exponent} {power : List Char}
    (h : Power exponent? power) {rest : List Char} (stops : Stops rest) :
    readExponent (power ++ rest) = some (exponent?, rest) := by
  cases h with
  | none =>
    rw [List.nil_append]
    cases rest with
    | nil => rfl
    | cons c rest =>
      have hc := stops c rfl
      simp only [continuesNumeral, Bool.or_eq_false_iff, beq_eq_false_iff_ne] at hc
      simp [readExponent, hc]
  | @some mark sign exponent hmark hsign hdigits =>
    have hnot : ∀ c ∈ rest.head?, c.isDigit = false := by
      intro c hc
      have := stops c hc
      simp only [continuesNumeral, Bool.or_eq_false_iff] at this
      exact this.1.1.1
    have hreadSign : readSign (sign ++ (exponent.digits ++ rest)) = _ :=
      readSign_append hsign fun c hc =>
        have hdigit := isDigit_head?_append hdigits rest c hc
        ⟨Text.ne_of_isDigit hdigit rfl, Text.ne_of_isDigit hdigit rfl⟩
    have hreadDigits := readDigits_append hdigits.2 hnot
    simp [readExponent, hmark, hreadSign, hreadDigits, hdigits.1]

/-- An exponent, or what stops a numeral, goes on neither its whole part nor its fraction. -/
theorem Power.head?_append {exponent? : Option Exponent} {power : List Char}
    (h : Power exponent? power) {rest : List Char} (stops : Stops rest) :
    ∀ c ∈ (power ++ rest).head?, c ≠ '.' ∧ c.isDigit = false := by
  cases h with
  | none =>
    intro c hc
    have := stops c hc
    simp only [continuesNumeral, Bool.or_eq_false_iff, beq_eq_false_iff_ne] at this
    exact ⟨this.1.1.2, this.1.1.1⟩
  | some hmark =>
    intro c hc
    cases hc
    rcases hmark with rfl | rfl <;> decide

/-- A fraction does not go on a whole part. -/
theorem Fraction.head?_append {digits? : Option (List Char)} {fraction : List Char}
    (h : Fraction digits? fraction) {rest : List Char}
    (hrest : ∀ c ∈ rest.head?, c.isDigit = false) :
    ∀ c ∈ (fraction ++ rest).head?, c.isDigit = false := by
  cases h with
  | none => exact hrest
  | some =>
    intro c hc
    cases hc
    rfl

/-- A numeral is read where the text behind it does not go it on. -/
theorem read_append {numeral : Numeral} {front : List Char} (h : numeral.Written front)
    {rest : List Char} (stops : Stops rest) : read (front ++ rest) = some (numeral, rest) := by
  obtain ⟨hminus, hwhole, hfraction, hpower⟩ := h
  rename_i minus fraction power
  have hbehind := hpower.head?_append stops
  have hreadMinus : readMinus (minus ++ (numeral.whole ++ (fraction ++ (power ++ rest)))) = _ :=
    readMinus_append hminus fun c hc =>
      Text.ne_of_isDigit (isDigit_head?_append hwhole.1 _ c hc) rfl
  have hreadDigits := readDigits_append hwhole.1.2
    (hfraction.head?_append fun c hc => (hbehind c hc).2)
  simp [read, hreadMinus, hreadDigits, isWhole_of_whole hwhole,
    readFraction_append hfraction hbehind, readExponent_append hpower stops]

/-- A numeral begins with a sign or a digit. -/
theorem read_cons_eq_none {c : Char} (hminus : c ≠ '-') (hdigit : c.isDigit = false)
    (cs : List Char) : read (c :: cs) = none := by
  have hreadMinus : readMinus (c :: cs) = (false, c :: cs) :=
    readMinus_append .none (by simpa using hminus)
  simp [read, hreadMinus, readDigits, hdigit, isWhole]

/-! ### Natural numbers -/

/-- Only a whole number without sign that fits a word stands for a natural number. -/
theorem value_eq_natural_iff {numeral : Numeral} {n : UInt64} :
    numeral.value = some (.natural n) ↔
      numeral.isNegative = false ∧ numeral.fraction = none ∧ numeral.exponent = none ∧
      Nat.ofDigitChars 10 numeral.whole 0 = n.toNat := by
  unfold value
  simp only [Bool.and_eq_true, Option.isNone_iff_eq_none, Bool.not_eq_true]
  constructor
  · intro h
    split at h
    · rename_i hnatural
      obtain ⟨⟨hfraction, hexponent⟩, hsign, hlt⟩ := hnatural
      cases h
      exact ⟨hsign, hfraction, hexponent, (UInt64.toNat_ofNat_of_lt' hlt).symm⟩
    · split at h
      · cases h
      · simp at h
  · rintro ⟨hsign, hfraction, hexponent, hvalue⟩
    rw [if_pos ⟨⟨hfraction, hexponent⟩, hsign, hvalue ▸ n.toNat_lt_size⟩, hvalue,
      UInt64.ofNat_toNat]

/-- What stands for a natural number is written as one. -/
theorem natural_of_written {numeral : Numeral} {n : UInt64} {cs : List Char}
    (h : numeral.Written cs) (hvalue : numeral.value = some (.natural n)) :
    Natural cs n.toNat := by
  obtain ⟨hsign, hfraction, hexponent, hvalue⟩ := value_eq_natural_iff.1 hvalue
  obtain ⟨hminus, hwhole, hpart, hpower⟩ := h
  rw [hsign] at hminus
  rw [hfraction] at hpart
  rw [hexponent] at hpower
  cases hminus
  cases hpart
  cases hpower
  simpa using ⟨hwhole, hvalue⟩

theorem written_natural {cs : List Char} (h : Whole cs) : Written ⟨false, cs, none, none⟩ cs := by
  have hwritten : Written ⟨false, cs, none, none⟩ ([] ++ (cs ++ ([] ++ []))) :=
    .mk .none h .none .none
  simpa using hwritten

end Numeral

/-- The digits of a number begin with a zero only where it is zero. -/
theorem head?_toDigits {n : Nat} (hpos : 0 < n) : (Nat.toDigits 10 n).head? ≠ some '0' := by
  induction n using Nat.strongRecOn with
  | ind n ih =>
    rw [Nat.toDigits_eq_if (by decide)]
    split
    · simp only [List.head?_cons, ne_eq, Option.some.injEq, Nat.digitChar_eq_zero]
      omega
    · -- All digits but the last are those of a smaller number, which is not zero either.
      have hfront := ih (n / 10) (by omega) (by omega)
      cases hcons : Nat.toDigits 10 (n / 10) with
      | nil => exact absurd hcons Nat.toDigits_ne_nil
      | cons d digits => rwa [hcons] at hfront

/-- The digits of a number write it. -/
theorem natural_toDigits (n : Nat) : Natural (Nat.toDigits 10 n) n := by
  refine ⟨⟨⟨Nat.toDigits_ne_nil, fun c hc => ?_⟩, fun hzero => ?_⟩, Nat.ofDigitChars_ten_toDigits⟩
  · exact Nat.isDigit_of_mem_toDigits (by decide) (by decide) hc
  · rcases Nat.eq_zero_or_pos n with rfl | hpos
    · rfl
    · exact absurd hzero (head?_toDigits hpos)

/-- Words are written in JSON as they are told. -/
theorem natural_toString (n : UInt64) : Natural (toString n).toList n.toNat := by
  have hrepr : (toString n).toList = Nat.toDigits 10 n.toNat := Nat.toList_repr
  rw [hrepr]
  exact natural_toDigits n.toNat

end Seek.Json
