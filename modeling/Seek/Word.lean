import Seek.Fault

/-!
Arithmetic on 64-bit words that refuses to wrap: an operation answers with the exact result, or with
a fault where that result does not fit. Positions are unsigned words; sums of two 32-bit values are
signed ones. Main statements: each operation succeeds exactly when its result fits, and then it is
the result in unbounded arithmetic.
-/

namespace Seek.Word

/-- The sum of two unsigned words, if it is below `2 ^ 64`. -/
def add (a b : UInt64) : Checked UInt64 :=
  if a.toNat + b.toNat < UInt64.size then .ok (a + b) else .error .additionOverflow

/-- The difference of two unsigned words, if it is not negative. -/
def sub (a b : UInt64) : Checked UInt64 :=
  if b ≤ a then .ok (a - b) else .error .subtractionOverflow

/-- The sum of two signed words, if it fits one. -/
def addSigned (a b : Int64) : Checked Int64 :=
  if (a + b).toInt = a.toInt + b.toInt then .ok (a + b) else .error .additionOverflow

/-- The difference of two signed words, if it fits one. -/
def subSigned (a b : Int64) : Checked Int64 :=
  if (a - b).toInt = a.toInt - b.toInt then .ok (a - b) else .error .subtractionOverflow

/-- The number of elements, as the word in which positions are counted. -/
def size {α : Type} (xs : Array α) : UInt64 := .ofNat xs.size

/-! ### Each operation against unbounded arithmetic -/

theorem add_eq_ok_iff {a b c : UInt64} : add a b = .ok c ↔ c.toNat = a.toNat + b.toNat := by
  have hc := c.toNat_lt_size
  unfold add
  split
  · rw [Except.ok.injEq, ← UInt64.toNat_inj, UInt64.toNat_add, Nat.mod_eq_of_lt (by assumption)]
    exact eq_comm
  · simp only [reduceCtorEq, false_iff]
    omega

theorem sub_eq_ok_iff {a b c : UInt64} : sub a b = .ok c ↔ c.toNat + b.toNat = a.toNat := by
  have ha := a.toNat_lt
  unfold sub
  split
  · rename_i h
    have hle : b.toNat ≤ a.toNat := UInt64.le_iff_toNat_le.1 h
    rw [Except.ok.injEq, ← UInt64.toNat_inj, UInt64.toNat_sub_of_le _ _ h]
    omega
  · rename_i h
    have hlt : ¬ b.toNat ≤ a.toNat := fun hle => h (UInt64.le_iff_toNat_le.2 hle)
    simp only [reduceCtorEq, false_iff]
    omega

theorem fault_of_add {a b : UInt64} {fault : Fault} (h : add a b = .error fault) :
    fault = .additionOverflow := by
  unfold add at h
  split at h
  · cases h
  · exact (Except.error.inj h).symm

theorem fault_of_sub {a b : UInt64} {fault : Fault} (h : sub a b = .error fault) :
    fault = .subtractionOverflow := by
  unfold sub at h
  split at h
  · cases h
  · exact (Except.error.inj h).symm

/-- A sum that fits is formed. -/
theorem exists_add {a b : UInt64} (h : a.toNat + b.toNat < UInt64.size) :
    ∃ c, add a b = .ok c ∧ c.toNat = a.toNat + b.toNat :=
  have hadd : add a b = .ok (a + b) := if_pos h
  ⟨a + b, hadd, add_eq_ok_iff.1 hadd⟩

/-- A difference that is not negative is formed. -/
theorem exists_sub {a b : UInt64} (h : b.toNat ≤ a.toNat) :
    ∃ c, sub a b = .ok c ∧ c.toNat + b.toNat = a.toNat :=
  have hsub : sub a b = .ok (a - b) := if_pos (UInt64.le_iff_toNat_le.2 h)
  ⟨a - b, hsub, sub_eq_ok_iff.1 hsub⟩

theorem toNat_size {α : Type} {xs : Array α} (fits : xs.size < UInt64.size) :
    (size xs).toNat = xs.size :=
  UInt64.toNat_ofNat_of_lt' fits

/-- A sequence that is not empty has a last position. -/
theorem exists_last {α : Type} {xs : Array α} (fits : xs.size < UInt64.size) (hne : xs.size ≠ 0) :
    ∃ last, sub (size xs) 1 = .ok last ∧ last.toNat + 1 = xs.size := by
  rw [← toNat_size fits] at hne ⊢
  exact exists_sub (Nat.pos_of_ne_zero hne)

/-! ### Values of 32 bits in words of 64 -/

/-- Two values of half the width have a sum. -/
theorem exists_addSigned (a b : Int32) :
    ∃ c, addSigned a.toInt64 b.toInt64 = .ok c ∧ c.toInt = a.toInt + b.toInt := by
  have ha := a.le_toInt
  have hb := b.le_toInt
  have ha' := a.toInt_lt
  have hb' := b.toInt_lt
  have hsum : (a.toInt64 + b.toInt64).toInt = a.toInt + b.toInt := by
    rw [Int64.toInt_add, Int32.toInt_toInt64, Int32.toInt_toInt64]
    exact Int.bmod_eq_of_le (by omega) (by omega)
  refine ⟨a.toInt64 + b.toInt64, if_pos ?_, hsum⟩
  rw [hsum, Int32.toInt_toInt64, Int32.toInt_toInt64]

/-- Two values of half the width have a difference. -/
theorem exists_subSigned (a b : Int32) :
    ∃ c, subSigned a.toInt64 b.toInt64 = .ok c ∧ c.toInt = a.toInt - b.toInt := by
  have ha := a.le_toInt
  have hb := b.le_toInt
  have ha' := a.toInt_lt
  have hb' := b.toInt_lt
  have hdiff : (a.toInt64 - b.toInt64).toInt = a.toInt - b.toInt := by
    rw [Int64.toInt_sub, Int32.toInt_toInt64, Int32.toInt_toInt64]
    exact Int.bmod_eq_of_le (by omega) (by omega)
  refine ⟨a.toInt64 - b.toInt64, if_pos ?_, hdiff⟩
  rw [hdiff, Int32.toInt_toInt64, Int32.toInt_toInt64]

end Seek.Word
