import Seek.PairSum
import Mathlib.Data.List.Basic

/-!
The least pair that sums to a target. Trying first positions from the front, and second positions
from the front behind each of them, refuses every pair that is smaller than the one it accepts: one
row of the walk settles all pairs with one first position (`partner_row`), and the rows that are
left settle all pairs whose first position is not behind them (`scan_least`). Main statement:
`find` answers with the least pair that passes the contract, or refuses where none passes it.

Positions are words, so a sequence has fewer than `UInt64.size` elements: this is what `fits` says.
-/

namespace Seek.PairSum

variable {xs : Array Int32} {target : Int32}

/-- Two positions, the first in front, whose values sum to the target in unbounded arithmetic. -/
structure Sums (xs : Array Int32) (target : Int32) (i j : Nat) : Prop where
  increasing : i < j
  inside : j < xs.size
  total : xs[i].toInt + xs[j].toInt = target.toInt

/-! ### The contract -/

/-- The contract passes the pairs that sum to the target, and no others. -/
theorem checkPair_eq_ok_iff {first second : UInt64} :
    Contract.checkPair xs target first second = .ok () ↔
      Sums xs target first.toNat second.toNat := by
  unfold Contract.checkPair
  by_cases hlt : first < second
  · have hlt' := UInt64.lt_iff_toNat_lt.1 hlt
    by_cases hs : second.toNat < xs.size
    · have hf : first.toNat < xs.size := Nat.lt_trans hlt' hs
      obtain ⟨sum, hadd, hsum⟩ := Word.exists_addSigned xs[first.toNat] xs[second.toNat]
      have heq : sum = target.toInt64 ↔
          xs[first.toNat].toInt + xs[second.toNat].toInt = target.toInt := by
        rw [← Int64.toInt_inj, hsum, Int32.toInt_toInt64]
      simp only [if_pos hlt, dif_pos hs, dif_pos hf, hadd]
      change (if sum = target.toInt64 then _ else _) = _ ↔ _
      split
      · rename_i h
        exact ⟨fun _ => ⟨hlt', hs, heq.1 h⟩, fun _ => rfl⟩
      · rename_i h
        exact ⟨fun hok => (by cases hok), fun sums => absurd (heq.2 sums.total) h⟩
    · simp only [if_pos hlt, dif_neg hs, reduceCtorEq, false_iff]
      exact fun sums => hs sums.inside
  · simp only [if_neg hlt, reduceCtorEq, false_iff]
    exact fun sums => hlt (UInt64.lt_iff_toNat_lt.2 sums.increasing)

theorem exists_fault_iff {first second : UInt64} :
    (∃ fault, Contract.checkPair xs target first second = .error fault) ↔
      ¬ Sums xs target first.toNat second.toNat := by
  rw [← checkPair_eq_ok_iff]
  cases Contract.checkPair xs target first second <;> simp

/-! ### The order of pairs -/

theorem isLE_compare_iff {a b : IndexPair} : (compare a b).isLE ↔
    a.first.toNat < b.first.toNat ∨
      a.first.toNat = b.first.toNat ∧ a.second.toNat ≤ b.second.toNat := by
  change ((compare a.first b.first).then (compare a.second b.second)).isLE ↔ _
  rw [Ordering.isLE_then_iff_or, Std.compare_eq_lt, Std.LawfulEqOrd.compare_eq_iff_eq,
    Std.isLE_compare, UInt64.lt_iff_toNat_lt, UInt64.le_iff_toNat_le, UInt64.toNat_inj]

theorem eq_of_isLE_of_isLE {a b : IndexPair} (hab : (compare a b).isLE)
    (hba : (compare b a).isLE) : a = b := by
  rw [isLE_compare_iff] at hab hba
  have hfirst : a.first = b.first := UInt64.toNat_inj.1 (by omega)
  have hsecond : a.second = b.second := UInt64.toNat_inj.1 (by omega)
  cases a
  cases b
  exact congrArg₂ IndexPair.mk hfirst hsecond

/-! ### Rows and the walk over them -/

theorem getElem?_of_drop {start : Nat} {rest : List Int32} (h : xs.toList.drop start = rest)
    (k : Nat) : xs[start + k]? = rest[k]? := by
  rw [← h, List.getElem?_drop, Array.getElem?_toList]

/-- The pairs with first position `start`, read off the values behind it. -/
theorem sums_iff {start : Nat} {value : Int32} {rest : List Int32} {needed : Int64}
    (h : xs.toList.drop start = value :: rest)
    (hneeded : needed.toInt = target.toInt - value.toInt) (j : Nat) :
    Sums xs target start j ↔
      ∃ k, ∃ hk : k < rest.length, j = start + 1 + k ∧ rest[k].toInt64 = needed := by
  obtain ⟨hstart, rfl⟩ : ∃ hstart : start < xs.size, xs[start] = value :=
    Array.getElem?_eq_some_iff.1 (getElem?_of_drop h 0)
  constructor
  · rintro ⟨hlt, hj, htotal⟩
    obtain ⟨k, rfl⟩ := Nat.exists_eq_add_of_lt hlt
    have hget : rest[k]? = some xs[start + k + 1] :=
      (getElem?_of_drop h (k + 1)).symm.trans (Array.getElem?_eq_getElem hj)
    obtain ⟨hk, hval⟩ := List.getElem?_eq_some_iff.1 hget
    refine ⟨k, hk, by omega, ?_⟩
    rw [← Int64.toInt_inj, Int32.toInt_toInt64, hneeded, hval]
    omega
  · rintro ⟨k, hk, rfl, heq⟩
    have hget : xs[start + (k + 1)]? = some rest[k] :=
      (getElem?_of_drop h (k + 1)).trans (List.getElem?_eq_getElem hk)
    rw [← Nat.add_assoc, Nat.add_right_comm] at hget
    obtain ⟨hj, hval⟩ := Array.getElem?_eq_some_iff.1 hget
    refine ⟨by omega, hj, ?_⟩
    rw [← Int64.toInt_inj, Int32.toInt_toInt64, hneeded] at heq
    rw [hval, heq]
    omega

/-- A row that has a partner has the least one, and one that has none has no pair. -/
theorem partner_row {start : Nat} {value : Int32} {rest : List Int32} {needed : Int64}
    (h : xs.toList.drop start = value :: rest)
    (hneeded : needed.toInt = target.toInt - value.toInt) :
    match partner needed (start + 1) rest with
    | some j => Sums xs target start j ∧ ∀ other, Sums xs target start other → j ≤ other
    | none => ∀ other, ¬ Sums xs target start other := by
  unfold partner
  cases hfind : rest.findIdx? fun value => value.toInt64 == needed with
  | none =>
    intro other sums
    obtain ⟨k, hk, -, heq⟩ := (sums_iff h hneeded other).1 sums
    have hno := List.findIdx?_eq_none_iff.1 hfind rest[k] (List.getElem_mem hk)
    simp [heq] at hno
  | some k =>
    obtain ⟨hk, hval, hleast⟩ := List.findIdx?_eq_some_iff_getElem.1 hfind
    refine ⟨(sums_iff h hneeded _).2 ⟨k, hk, rfl, beq_iff_eq.1 hval⟩, fun other sums => ?_⟩
    obtain ⟨l, hl, rfl, heq⟩ := (sums_iff h hneeded other).1 sums
    change start + 1 + k ≤ start + 1 + l
    by_contra hlt
    exact hleast l (by omega) (beq_iff_eq.2 heq)

/-- What the walk over the rows from `start` on has to answer. -/
def Least (xs : Array Int32) (target : Int32) (start : Nat) : Except Refusal IndexPair → Prop
  | .ok pair => Sums xs target pair.first.toNat pair.second.toNat ∧
      ∀ other : IndexPair, start ≤ other.first.toNat →
        Sums xs target other.first.toNat other.second.toNat → (compare pair other).isLE
  | .error refusal => refusal = .noSolution ∧ ∀ i j, start ≤ i → ¬ Sums xs target i j

/-- A row without a pair can be left out. -/
theorem Least.of_succ {start : Nat} {answer : Except Refusal IndexPair}
    (h : Least xs target (start + 1) answer) (hrow : ∀ j, ¬ Sums xs target start j) :
    Least xs target start answer := by
  have behind : ∀ {i j}, start ≤ i → Sums xs target i j → start + 1 ≤ i := by
    rintro i j hle sums
    rcases Nat.lt_or_eq_of_le hle with hlt | rfl
    · exact hlt
    · exact absurd sums (hrow j)
  cases answer with
  | ok pair => exact ⟨h.1, fun other hle sums => h.2 other (behind hle sums) sums⟩
  | error refusal => exact ⟨h.1, fun i j hle sums => h.2 i j (behind hle sums) sums⟩

/-- Over all rows, only the least pair can be the answer. -/
theorem Least.eq_ok_iff {answer : Except Refusal IndexPair} (h : Least xs target 0 answer)
    {pair : IndexPair} : answer = .ok pair ↔
      Sums xs target pair.first.toNat pair.second.toNat ∧
      ∀ other : IndexPair, Sums xs target other.first.toNat other.second.toNat →
        (compare pair other).isLE := by
  constructor
  · rintro rfl
    exact ⟨h.1, fun other sums => h.2 other (Nat.zero_le _) sums⟩
  · rintro ⟨sums, hmin⟩
    cases answer with
    | ok found =>
      have hle := h.2 pair (Nat.zero_le _) sums
      exact congrArg _ (eq_of_isLE_of_isLE hle (hmin found h.1))
    | error refusal => exact absurd sums (h.2 _ _ (Nat.zero_le _))

/-- Over all rows, the answer is a refusal only where there is no pair. -/
theorem Least.eq_error_iff {answer : Except Refusal IndexPair} (h : Least xs target 0 answer)
    {refusal : Refusal} : answer = .error refusal ↔
      refusal = .noSolution ∧
      ∀ first second : UInt64, ¬ Sums xs target first.toNat second.toNat := by
  constructor
  · rintro rfl
    exact ⟨h.1, fun _ _ => h.2 _ _ (Nat.zero_le _)⟩
  · rintro ⟨rfl, hnone⟩
    cases answer with
    | ok found => exact absurd h.1 (hnone _ _)
    | error refusal => exact congrArg _ h.1

theorem scan_least (fits : xs.size < UInt64.size) {start : Nat} {rest : List Int32}
    (h : xs.toList.drop start = rest) :
    ∃ answer, scan xs target start rest = .ok answer ∧ Least xs target start answer := by
  induction rest generalizing start with
  | nil =>
    have hsize : xs.size ≤ start := List.drop_eq_nil_iff.1 h
    refine ⟨_, rfl, rfl, fun i j hle sums => ?_⟩
    have := sums.increasing
    have := sums.inside
    omega
  | cons value rest ih =>
    obtain ⟨needed, hsub, hneeded⟩ := Word.exists_subSigned target value
    have hrow := partner_row h hneeded
    cases hpartner : partner needed (start + 1) rest with
    | none =>
      rw [hpartner] at hrow
      have hdrop : xs.toList.drop (start + 1) = rest := by
        rw [← List.tail_drop, h, List.tail_cons]
      obtain ⟨answer, hscan, hleast⟩ := ih hdrop
      refine ⟨answer, ?_, hleast.of_succ hrow⟩
      simp only [scan, hsub, bind, Except.bind, hpartner]
      exact hscan
    | some other =>
      rw [hpartner] at hrow
      obtain ⟨sums, hsecond⟩ := hrow
      have hj := sums.inside
      have hlt := sums.increasing
      have hfirst : (UInt64.ofNat start).toNat = start := UInt64.toNat_ofNat_of_lt' (by omega)
      have hother : (UInt64.ofNat other).toNat = other := UInt64.toNat_ofNat_of_lt' (by omega)
      have hcheck : Contract.checkPair xs target (.ofNat start) (.ofNat other) = .ok () :=
        checkPair_eq_ok_iff.2 (by rwa [hfirst, hother])
      refine ⟨.ok ⟨.ofNat start, .ofNat other⟩, ?_, by rwa [hfirst, hother], fun pair hle hpair => ?_⟩
      · simp only [scan, hsub, bind, Except.bind, hpartner, hcheck]
        rfl
      · rw [isLE_compare_iff, hfirst, hother]
        rcases Nat.lt_or_eq_of_le hle with hlt' | heq
        · exact .inl hlt'
        · exact .inr ⟨heq, hsecond _ (heq ▸ hpair)⟩

/-- The answer is the least pair that passes the contract, or a refusal where the contract faults
on every pair. Nothing that is computed on the way, or by the contract, wraps. -/
theorem find_least (xs : Array Int32) (target : Int32) (fits : xs.size < UInt64.size) :
    (∃ answer, find xs target = .ok answer) ∧
    (∀ pair : IndexPair, find xs target = .ok (.ok pair) ↔
      Contract.checkPair xs target pair.first pair.second = .ok () ∧
      ∀ other : IndexPair, Contract.checkPair xs target other.first other.second = .ok () →
        (compare pair other).isLE) ∧
    (∀ refusal, find xs target = .ok (.error refusal) ↔
      refusal = .noSolution ∧
      ∀ first second, ∃ fault, Contract.checkPair xs target first second = .error fault) ∧
    (∀ first second, Contract.checkPair xs target first second = .ok () ↔
      Sums xs target first.toNat second.toNat) ∧
    (∀ value ∈ xs, ∃ needed, Word.subSigned target.toInt64 value.toInt64 = .ok needed ∧
      needed.toInt = target.toInt - value.toInt) ∧
    (∀ left ∈ xs, ∀ right ∈ xs, ∃ sum, Word.addSigned left.toInt64 right.toInt64 = .ok sum ∧
      sum.toInt = left.toInt + right.toInt) := by
  obtain ⟨answer, hfind, hleast⟩ : ∃ answer, find xs target = .ok answer ∧ _ :=
    scan_least fits List.drop_zero
  simp only [checkPair_eq_ok_iff, exists_fault_iff, hfind, Except.ok.injEq]
  exact ⟨⟨_, rfl⟩, fun _ => hleast.eq_ok_iff, fun _ => hleast.eq_error_iff, fun _ _ => trivial,
    fun value _ => Word.exists_subSigned target value,
    fun left _ right _ => Word.exists_addSigned left right⟩

/-- Two pairs sum to the target, and what the first value needs has no place in 32 bits. -/
theorem find_least_extremes :
    (#[5, -2147483648, 3, 0, -2147483648] : Array Int32).size < UInt64.size ∧
    find #[5, -2147483648, 3, 0, -2147483648] (-2147483648) = .ok (.ok ⟨1, 3⟩) ∧
    Contract.checkPair #[5, -2147483648, 3, 0, -2147483648] (-2147483648) 3 4 = .ok () ∧
    (compare (⟨1, 3⟩ : IndexPair) ⟨3, 4⟩).isLE := by
  have fits : (#[5, -2147483648, 3, 0, -2147483648] : Array Int32).size < UInt64.size := by decide
  have hfind : find #[5, -2147483648, 3, 0, -2147483648] (-2147483648) = .ok (.ok ⟨1, 3⟩) := by
    decide
  have hcheck : Contract.checkPair #[5, -2147483648, 3, 0, -2147483648] (-2147483648) 3 4 = .ok () :=
    by decide
  have hleast := ((find_least _ _ fits).2.1 ⟨1, 3⟩).1 hfind
  exact ⟨fits, hfind, hcheck, hleast.2 ⟨3, 4⟩ hcheck⟩

end Seek.PairSum
