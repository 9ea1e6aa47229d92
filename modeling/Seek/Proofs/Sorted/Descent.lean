import Seek.Proofs.Element
import Seek.Proofs.Sorted.InOrder

/-!
The first descent, seen from the front. The elements up to and including the first descent are in
order, as none of them is above the one after it, and with one element more they are not. So the
position that is refused tells how much of the sequence could be kept. Main statement: `validate`
takes a sequence exactly where no element is above a later one, which is where the contract of
order passes, and otherwise refuses it with the end of the longest part at the front in order.
-/

namespace Seek

variable {α : Type} [Ord α] {xs : Array α}

theorem inOrder_iff_getElem : InOrder xs ↔
    ∀ i j (hi : i < xs.size) (hj : j < xs.size), i < j → (compare xs[i] xs[j]).isLE :=
  List.pairwise_iff_getElem

/-- The first `n` elements are in order, and no part at the front that is longer is in order. -/
structure LongestInOrder (xs : Array α) (n : Nat) : Prop where
  le_size : n ≤ xs.size
  inOrder : InOrder (xs.take n)
  longest : ∀ m ≤ xs.size, InOrder (xs.take m) → m ≤ n

variable [Std.TransOrd α]

theorem inOrder_iff_neighbours : InOrder xs ↔
    ∀ i (hi : i < xs.size) (hnext : i + 1 < xs.size), (compare xs[i] xs[i + 1]).isLE := by
  rw [← all_neighbours_iff, Contract.neighbours,
    all_zip_tail_iff (p := fun a b => (compare a b).isLE), List.isChain_iff_getElem]
  exact ⟨fun h i _ hnext => h i hnext, fun h i hnext => h i (Nat.lt_of_succ_lt hnext) hnext⟩

/-- A part at the front is in order where none of its elements is above the one after it. -/
theorem inOrder_take_iff {n : Nat} (hn : n ≤ xs.size) : InOrder (xs.take n) ↔
    ∀ i (hi : i + 1 < n), (compare xs[i] xs[i + 1]).isLE := by
  have hsize : (xs.take n).size = n := by rw [Array.take_eq_extract, Array.size_extract]; omega
  rw [inOrder_iff_neighbours]
  simp only [hsize, Array.take_eq_extract, Array.getElem_extract, Nat.zero_add]
  exact ⟨fun h i hnext => h i (Nat.lt_of_succ_lt hnext) hnext, fun h i _ hnext => h i hnext⟩

namespace Sorted

/-- The elements up to and including the first descent are the longest part in order. -/
theorem longestInOrder_of_firstDescent {i : Nat} (h : firstDescent xs = some i) :
    LongestInOrder xs (i + 1) := by
  obtain ⟨inside, hgt, hleast⟩ := firstDescent_eq_some_iff.1 h
  refine ⟨Nat.le_of_lt inside, ?_, fun m hm ordered => ?_⟩
  · rw [inOrder_take_iff (Nat.le_of_lt inside)]
    exact fun j hj => hleast j (Nat.lt_of_succ_lt_succ hj)
  · by_contra hlt
    have hle := (inOrder_take_iff hm).1 ordered i (Nat.lt_of_not_le hlt)
    rw [← Ordering.not_isGT_eq_isLE, hgt] at hle
    exact absurd hle (by decide)

/-- A sequence is taken as it is exactly where no element is above a later one, and exactly where
the contract of order passes. Otherwise it is refused, with the position of the last element of the
longest part at the front that is in order; that element is above the one after it. -/
theorem validate_decides_order (xs : Array α) (fits : xs.size < UInt64.size) :
    (validate xs = .ok ⟨xs⟩ ↔
      ∀ i j (hi : i < xs.size) (hj : j < xs.size), i < j → (compare xs[i] xs[j]).isLE) ∧
    (validate xs = .ok ⟨xs⟩ ↔ Contract.checkSorted xs = .ok ()) ∧
    (∀ held, validate xs = .ok held → held = ⟨xs⟩) ∧
    (validate xs ≠ .ok ⟨xs⟩ → ∃ position, validate xs = .error (.unsorted position) ∧
      (∃ (here : position.toNat < xs.size) (next : position.toNat + 1 < xs.size),
        compare xs[position.toNat] xs[position.toNat + 1] = .gt) ∧
      LongestInOrder xs (position.toNat + 1)) := by
  have hok : validate xs = .ok ⟨xs⟩ ↔ InOrder xs := by simp [validate_eq_ok_iff]
  refine ⟨hok.trans inOrder_iff_getElem, hok.trans checkSorted_eq_ok_iff.symm,
    fun held hheld => (validate_eq_ok_iff.1 hheld).1, fun hne => ?_⟩
  rw [Ne, hok, ← firstDescent_eq_none_iff] at hne
  obtain ⟨i, hi⟩ := Option.ne_none_iff_exists'.1 hne
  obtain ⟨inside, hgt, -⟩ := firstDescent_eq_some_iff.1 hi
  have hword : (UInt64.ofNat i).toNat = i := UInt64.toNat_ofNat_of_lt' (by omega)
  refine ⟨.ofNat i, validate_eq_error_iff.2 ⟨i, hi, rfl⟩, ?_, ?_⟩
  · simp only [hword]
    exact ⟨Nat.lt_of_succ_lt inside, inside, Ordering.isGT_iff_eq_gt.1 hgt⟩
  · rw [hword]
    exact longestInOrder_of_firstDescent hi

/-- Of five elements, the first three are in order, and two of these are equal. -/
theorem validate_decides_order_keyed :
    (#[⟨1, "a"⟩, ⟨3, "b"⟩, ⟨3, "c"⟩, ⟨2, "d"⟩, ⟨4, "e"⟩] : Array Keyed).size < UInt64.size ∧
    validate (#[⟨1, "a"⟩, ⟨3, "b"⟩, ⟨3, "c"⟩, ⟨2, "d"⟩, ⟨4, "e"⟩] : Array Keyed) =
      .error (.unsorted 2) ∧
    LongestInOrder (#[⟨1, "a"⟩, ⟨3, "b"⟩, ⟨3, "c"⟩, ⟨2, "d"⟩, ⟨4, "e"⟩] : Array Keyed) 3 := by
  have fits : (#[⟨1, "a"⟩, ⟨3, "b"⟩, ⟨3, "c"⟩, ⟨2, "d"⟩, ⟨4, "e"⟩] : Array Keyed).size <
      UInt64.size := by
    decide
  have hrefused : validate (#[⟨1, "a"⟩, ⟨3, "b"⟩, ⟨3, "c"⟩, ⟨2, "d"⟩, ⟨4, "e"⟩] : Array Keyed) =
      .error (.unsorted 2) := rfl
  obtain ⟨-, -, -, hlongest⟩ := validate_decides_order _ fits
  obtain ⟨position, hposition, -, longest⟩ := hlongest (by simp [hrefused])
  rw [hrefused] at hposition
  cases hposition
  exact ⟨fits, hrefused, longest⟩

end Sorted

end Seek
