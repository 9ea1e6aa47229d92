import Seek.Sorted
import Mathlib.Data.List.Chain

/-!
Sequences in order: no element is above any element after it. The two tests of order look at
neighbours only, one for a pair that goes down and one for all pairs going up. Main statements: on
a total preorder each of them decides order (`firstDescent_eq_none_iff`, `checkSorted_eq_ok_iff`),
so `validate` accepts what is in order and `sort` always succeeds (`validate_eq_ok_iff`, `sort_eq`).
-/

namespace Seek

variable {α : Type}

/-- Testing all neighbours of a list is going along it as a chain. -/
theorem all_zip_tail_iff {p : α → α → Bool} :
    ∀ l : List α, (l.zip l.tail).all (fun pair => p pair.1 pair.2) ↔ l.IsChain fun a b => p a b
  | [] => by simp
  | [_] => by simp
  | a :: b :: l => by
    have ih := all_zip_tail_iff (p := p) (b :: l)
    simp only [List.tail_cons] at ih
    simp only [List.tail_cons, List.zip_cons_cons, List.all_cons, Bool.and_eq_true,
      List.isChain_cons_cons, ih]

theorem length_neighbours (xs : Array α) : (Contract.neighbours xs).length = xs.size - 1 := by
  simp only [Contract.neighbours, List.length_zip, List.length_tail, Array.length_toList]
  omega

variable [Ord α] {xs : Array α}

/-- No element is above any element after it. -/
def InOrder (xs : Array α) : Prop := xs.toList.Pairwise fun a b => (compare a b).isLE

theorem inOrder_empty : InOrder (#[] : Array α) := List.Pairwise.nil

theorem InOrder.isLE (h : InOrder xs) {i j : Nat} (hij : i < j) (hj : j < xs.size) :
    (compare xs[i] xs[j]).isLE :=
  List.pairwise_iff_getElem.1 h i j (Nat.lt_trans hij hj) hj hij

/-- Comparing neighbours is enough on a preorder. -/
theorem all_neighbours_iff [Std.TransOrd α] :
    (Contract.neighbours xs).all (fun pair => (compare pair.1 pair.2).isLE) ↔ InOrder xs := by
  have : Trans (fun a b : α => (compare a b).isLE = true) (fun a b => (compare a b).isLE = true)
      (fun a b => (compare a b).isLE = true) := ⟨Std.TransCmp.isLE_trans⟩
  rw [Contract.neighbours, all_zip_tail_iff (p := fun a b => (compare a b).isLE)]
  exact List.isChain_iff_pairwise

theorem checkSorted_eq_ok_iff [Std.TransOrd α] :
    Contract.checkSorted xs = .ok () ↔ InOrder xs := by
  rw [← all_neighbours_iff, Contract.checkSorted]
  split <;> simp_all

/-- Of two elements, one is not above the other. -/
theorem isLE_or_isLE [Std.OrientedOrd α] (a b : α) : (compare a b).isLE || (compare b a).isLE := by
  have hswap := Std.OrientedOrd.eq_swap (a := a) (b := b)
  cases hba : compare b a <;> simp [hswap, hba]

namespace Sorted

theorem firstDescent_eq_none_iff [Std.TransOrd α] : firstDescent xs = none ↔ InOrder xs := by
  rw [← all_neighbours_iff, firstDescent, List.findIdx?_eq_none_iff, List.all_eq_true]
  refine forall₂_congr fun pair _ => ?_
  cases compare pair.1 pair.2 <;> decide

/-- The first descent is the least position whose element is above the one after it. -/
theorem firstDescent_eq_some_iff {i : Nat} : firstDescent xs = some i ↔
    ∃ inside : i + 1 < xs.size, (compare xs[i] xs[i + 1]).isGT ∧
      ∀ j (hj : j < i), (compare xs[j] xs[j + 1]).isLE := by
  have hlen := length_neighbours xs
  have hget (j : Nat) (hj : j < (Contract.neighbours xs).length) :
      (Contract.neighbours xs)[j] = (xs[j], xs[j + 1]) := by
    simp [Contract.neighbours]
  rw [firstDescent, List.findIdx?_eq_some_iff_getElem]
  constructor
  · rintro ⟨hi, hgt, hleast⟩
    rw [hget] at hgt
    refine ⟨by omega, hgt, fun j hj => ?_⟩
    have hle := hleast j hj
    rw [hget, Bool.not_eq_true] at hle
    rw [← Ordering.not_isGT_eq_isLE, hle]
    rfl
  · rintro ⟨inside, hgt, hleast⟩
    refine ⟨by omega, by rwa [hget], fun j hj => ?_⟩
    have hle := hleast j hj
    rw [← Ordering.not_isGT_eq_isLE, Bool.not_eq_true'] at hle
    rwa [hget, Bool.not_eq_true]

theorem validate_eq_ok_iff [Std.TransOrd α] {s : Sorted α} :
    validate xs = .ok s ↔ s = ⟨xs⟩ ∧ InOrder xs := by
  rw [← firstDescent_eq_none_iff, validate]
  cases firstDescent xs with
  | none => simp [eq_comm]
  | some position => simp

/-- What has a first descent is refused with its position, and nothing else is refused. -/
theorem validate_eq_error_iff {refusal : Refusal} : validate xs = .error refusal ↔
    ∃ i, firstDescent xs = some i ∧ refusal = .unsorted (.ofNat i) := by
  unfold validate
  cases firstDescent xs with
  | none => simp
  | some i => simp [eq_comm]

theorem inOrder_of_validate [Std.TransOrd α] {s : Sorted α} (h : validate xs = .ok s) :
    InOrder s.items := by
  obtain ⟨rfl, ordered⟩ := validate_eq_ok_iff.1 h
  exact ordered

/-- Putting a sequence in order moves its elements and changes none. -/
theorem arrange_perm (xs : Array α) : (arrange xs).toList.Perm xs.toList :=
  List.mergeSort_perm xs.toList _

/-- Putting a sequence in order puts it in order. -/
theorem inOrder_arrange [Std.TransOrd α] (xs : Array α) : InOrder (arrange xs) :=
  List.pairwise_mergeSort (fun _ _ _ => Std.TransCmp.isLE_trans) isLE_or_isLE xs.toList

theorem sort_eq [Std.TransOrd α] (xs : Array α) : sort xs = .ok ⟨arrange xs⟩ := by
  have hcheck : Contract.checkSorted (arrange xs) = .ok () :=
    checkSorted_eq_ok_iff.2 (inOrder_arrange xs)
  rw [sort, hcheck]
  rfl

theorem sort_ne_error [Std.TransOrd α] (xs : Array α) {fault : Fault} :
    sort xs ≠ .error fault := by
  simp [sort_eq]

theorem inOrder_of_sort [Std.TransOrd α] {s : Sorted α} (h : sort xs = .ok s) :
    InOrder s.items := by
  rw [sort_eq] at h
  cases h
  exact inOrder_arrange xs

end Sorted

end Seek
