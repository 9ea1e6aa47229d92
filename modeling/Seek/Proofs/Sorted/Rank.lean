import Seek.Proofs.Search.Index
import Seek.Proofs.Search.Safety

/-!
Ranks: how many elements of a sequence are below a target, and how many are not above it. In a
sequence in order the positions of the target are those from the first of these numbers up to but
not including the second (`InOrder.rank`), and putting elements in order leaves both as they are.
Main statement: the index of a target among sorted values lies between its two ranks in the values
as they came, and it is `-1` exactly where the target is not among them.
-/

namespace Seek

/-! ### Ranks of what equals the target -/

section Order

variable {α : Type} [Ord α] [Std.TransOrd α] {target : α}

/-- Nothing behind an element equal to the target is below it, and nothing in front is above it. -/
theorem rank_of_append {front behind : List α} {x : α}
    (ordered : (front ++ x :: behind).Pairwise fun a b => (compare a b).isLE)
    (heq : compare x target = .eq) :
    (front ++ x :: behind).countP (fun y => compare y target == .lt) ≤ front.length ∧
      front.length < (front ++ x :: behind).countP fun y => (compare y target).isLE := by
  obtain ⟨-, htail, hfront⟩ := List.pairwise_append.1 ordered
  have hbehind := (List.pairwise_cons.1 htail).1
  have hnone : (x :: behind).countP (fun y => compare y target == .lt) = 0 := by
    rw [List.countP_eq_zero]
    intro y hy hlt
    rcases List.mem_cons.1 hy with rfl | hy
    · simp [heq] at hlt
    · have := Std.TransCmp.lt_of_isLE_of_lt (hbehind y hy) (beq_iff_eq.1 hlt)
      simp [heq] at this
  have hall : front.countP (fun y => (compare y target).isLE) = front.length := by
    rw [List.countP_eq_length]
    intro y hy
    exact Std.TransCmp.isLE_trans (hfront y hy x List.mem_cons_self) (by rw [heq]; rfl)
  constructor
  · rw [List.countP_append, hnone, Nat.add_zero]
    exact List.countP_le_length
  · rw [List.countP_append, List.countP_cons, hall, heq, if_pos (by decide)]
    omega

/-- A position of the target lies between the ranks of the target. -/
theorem InOrder.rank {xs : Array α} (ordered : InOrder xs) {k : Nat} (inside : k < xs.size)
    (heq : compare xs[k] target = .eq) :
    xs.countP (fun y => compare y target == .lt) ≤ k ∧
      k < xs.countP fun y => (compare y target).isLE := by
  have hlen : (xs.toList.take k).length = k := List.length_take_of_le (Nat.le_of_lt inside)
  have hsplit : xs.toList.take k ++ xs[k] :: xs.toList.drop (k + 1) = xs.toList := by
    rw [← Array.getElem_toList, List.getElem_cons_drop, List.take_append_drop]
  rw [InOrder, ← hsplit] at ordered
  have hrank := rank_of_append ordered heq
  rwa [hsplit, hlen, Array.countP_toList, Array.countP_toList] at hrank

end Order

/-- Among values in order, a position lies between the ranks of the value there. -/
theorem InOrder.rank_getElem {xs : Array Int32} (ordered : InOrder xs) {k : Nat}
    (inside : k < xs.size) : xs.countP (· < xs[k]) ≤ k ∧ k < xs.countP (· ≤ xs[k]) := by
  have hlt : (fun y => compare y xs[k] == .lt) = fun y => decide (y < xs[k]) := by
    funext y
    rw [Bool.eq_iff_iff, beq_iff_eq, Std.compare_eq_lt, decide_eq_true_iff]
  have hle : (fun y => (compare y xs[k]).isLE) = fun y => decide (y ≤ xs[k]) := by
    funext y
    rw [Bool.eq_iff_iff, Std.isLE_compare, decide_eq_true_iff]
  rw [← hlt, ← hle]
  exact ordered.rank inside Std.ReflCmp.compare_self

namespace Sorted

theorem countP_arrange {α : Type} [Ord α] (xs : Array α) (p : α → Bool) :
    (arrange xs).countP p = xs.countP p := by
  rw [← Array.countP_toList, ← Array.countP_toList]
  exact (arrange_perm xs).countP_eq p

theorem mem_arrange {α : Type} [Ord α] {xs : Array α} {x : α} : x ∈ arrange xs ↔ x ∈ xs := by
  rw [← Array.mem_toList_iff, ← Array.mem_toList_iff]
  exact (arrange_perm xs).mem_iff

theorem size_arrange {α : Type} [Ord α] (xs : Array α) : (arrange xs).size = xs.size := by
  rw [← Array.length_toList, ← Array.length_toList]
  exact (arrange_perm xs).length_eq

/-- The index of a target among values put in order is `-1` exactly where the target is not among
them, and otherwise lies between its ranks in the values as they came. A position that is found is
never told as a negative number. -/
theorem index_between_ranks (xs : Array Int32) (target : Int32)
    (short : (xs.size : Int) ≤ Int64.maxValue.toInt / 4) :
    ∃ held index, sort xs = .ok held ∧ held.index target = .ok index ∧
      (index = -1 ↔ target ∉ xs) ∧
      (target ∈ xs → 0 ≤ index.toInt ∧
        xs.countP (· < target) ≤ index.toInt ∧ index.toInt < xs.countP (· ≤ target)) ∧
      (∀ hit, held.position target = .ok (some hit) →
        0 ≤ index.toInt ∧ index.toInt = hit.toNat) := by
  have hmax : Int64.maxValue.toInt = 2 ^ 63 - 1 := by decide
  have ordered := inOrder_arrange xs
  have hsize := size_arrange xs
  have short' : ((arrange xs).size : Int) ≤ Int64.maxValue.toInt := by omega
  have fits : (arrange xs).size < UInt64.size := by
    simp only [UInt64.size]
    omega
  obtain ⟨answer, hposition, hindex⟩ := Search.exists_index fits target
  obtain ⟨found, absent⟩ := Search.locates_of_inOrder ordered short' hposition
  rw [mem_arrange] at found absent
  have between (hmem : target ∈ xs) : 0 ≤ (Search.signed answer).toInt ∧
      xs.countP (· < target) ≤ (Search.signed answer).toInt ∧
      (Search.signed answer).toInt < xs.countP (· ≤ target) := by
    obtain ⟨k, inside, hk, rfl⟩ := found hmem
    have hrank := ordered.rank_getElem inside
    rw [countP_arrange, countP_arrange] at hrank
    omega
  refine ⟨_, Search.signed answer, sort_eq xs, hindex, ⟨fun hneg hmem => ?_, absent⟩, between,
    fun hit hhit => ?_⟩
  · have hnonneg := (between hmem).1
    rw [hneg] at hnonneg
    exact absurd hnonneg (by decide)
  · obtain rfl := Except.ok.inj (hposition.symm.trans hhit)
    obtain ⟨inside, -, -⟩ := Search.hit_of_position_eq fits hposition
    rw [Search.toInt_signed (by omega)]
    exact ⟨Int.natCast_nonneg _, rfl⟩

/-- Three of the values equal the target, and the smallest and the largest value are among them. -/
theorem index_between_ranks_duplicates :
    ((#[3, 2147483647, -2147483648, 3, 7, 3] : Array Int32).size : Int) ≤
      Int64.maxValue.toInt / 4 ∧
    ∃ held index, sort (#[3, 2147483647, -2147483648, 3, 7, 3] : Array Int32) = .ok held ∧
      held.index 3 = .ok index ∧ 1 ≤ index.toInt ∧ index.toInt < 4 := by
  have short : ((#[3, 2147483647, -2147483648, 3, 7, 3] : Array Int32).size : Int) ≤
      Int64.maxValue.toInt / 4 := by decide
  obtain ⟨held, index, hsort, hindex, -, hbetween, -⟩ := index_between_ranks _ 3 short
  obtain ⟨-, hlow, hhigh⟩ := hbetween (by simp)
  exact ⟨short, held, index, hsort, hindex, hlow, hhigh⟩

end Sorted

end Seek
