import Seek.Proofs.Search.Found

/-!
The search for a value, with a signed number for its answer. A sequence of values is shorter than
the largest signed word, so a position keeps its number and never looks like `notFound`
(`toInt_signed`). Main statements: the search for a value always answers (`exists_index`), and on
values in order its number locates the target (`locates_of_inOrder`).
-/

namespace Seek.Search

/-- A position that fits a signed word is the number that stands for it. -/
theorem toInt_signed {position : UInt64} (h : (position.toNat : Int) ≤ Int64.maxValue.toInt) :
    (signed (some position)).toInt = position.toNat := by
  have hmax : Int64.maxValue.toInt = 2 ^ 63 - 1 := by decide
  have hlt : 2 * position.toBitVec.toNat < 2 ^ 64 := by
    change 2 * position.toNat < 2 ^ 64
    omega
  exact BitVec.toInt_eq_toNat_of_lt hlt

/-- The number tells a position of the target, or that the target is absent. -/
structure Locates (xs : Array Int32) (target : Int32) (index : Int64) : Prop where
  found : target ∈ xs → ∃ k, ∃ inside : k < xs.size, index.toInt = k ∧ xs[k] = target
  absent : target ∉ xs → index = -1

variable {xs : Array Int32}

/-- Whatever the order of the values, the search answers, and with a number. -/
theorem exists_index (fits : xs.size < UInt64.size) (target : Int32) :
    ∃ answer, position xs target = .ok answer ∧ index xs target = .ok (signed answer) := by
  have hposition : position xs target = _ := position_eq_find? fits
  refine ⟨_, hposition, ?_⟩
  rw [index, hposition]
  rfl

/-- On values in order, the number that is answered locates the target. -/
theorem locates_of_inOrder (ordered : InOrder xs) (short : (xs.size : Int) ≤ Int64.maxValue.toInt)
    {target : Int32} {answer : Option UInt64} (h : position xs target = .ok answer) :
    Locates xs target (signed answer) := by
  have hmax : Int64.maxValue.toInt = 2 ^ 63 - 1 := by decide
  have fits : xs.size < UInt64.size := by
    simp only [UInt64.size]
    omega
  have hfound := isSome_find?_iff fits (parted_of_inOrder ordered target)
  obtain rfl := Except.ok.inj ((position_eq_find? fits).symm.trans h)
  constructor
  · intro hmem
    obtain ⟨hit, hfind⟩ := Option.isSome_iff_exists.1
      (hfound.2 ⟨target, hmem, Std.ReflCmp.compare_self⟩)
    obtain ⟨inside, heq⟩ := agrees_iff.1 (List.find?_some hfind)
    rw [hfind]
    exact ⟨hit.toNat, inside, toInt_signed (by omega), Std.LawfulEqOrd.compare_eq_iff_eq.1 heq⟩
  · intro habsent
    have hnone : ¬ ∃ x ∈ xs, compare x target = .eq := by
      rintro ⟨x, hx, heq⟩
      exact habsent (Std.LawfulEqOrd.compare_eq_iff_eq.1 heq ▸ hx)
    rw [Option.not_isSome_iff_eq_none.1 (mt hfound.1 hnone)]
    rfl

end Seek.Search
