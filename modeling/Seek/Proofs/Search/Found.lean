import Seek.Proofs.Element
import Seek.Proofs.Search.Trace
import Seek.Proofs.Sorted.InOrder

/-!
Finding what is there. A sequence is parted by a target when everything below the target stands in
front of everything equal to it, and everything above it behind. On such a sequence the open range
holds every position of the target until one is hit (`Trace.exists_agrees`). Main statement: the
search then answers with a position of the target if there is one, and with none if there is none.
-/

namespace Seek.Search

variable {α : Type} [Ord α] {xs : Array α} {target : α}

/-- What is below the target stands in front of all that is equal to it, what is above it behind. -/
structure Parted (xs : Array α) (target : α) : Prop where
  below : ∀ i j (hi : i < xs.size) (hj : j < xs.size),
    compare xs[i] target = .lt → compare xs[j] target = .eq → i < j
  above : ∀ i j (hi : i < xs.size) (hj : j < xs.size),
    compare xs[i] target = .eq → compare xs[j] target = .gt → i < j

/-- A sequence in order is parted by every target. -/
theorem parted_of_inOrder [Std.TransOrd α] (h : InOrder xs) (target : α) : Parted xs target := by
  constructor
  · intro i j hi hj hlt heq
    by_contra hle
    rcases Nat.lt_or_eq_of_le (Nat.le_of_not_lt hle) with hji | rfl
    · have := Std.TransCmp.lt_of_isLE_of_lt (h.isLE hji hi) hlt
      simp [heq] at this
    · simp [heq] at hlt
  · intro i j hi hj heq hgt
    by_contra hle
    rcases Nat.lt_or_eq_of_le (Nat.le_of_not_lt hle) with hji | rfl
    · have := Std.TransCmp.isLE_trans (h.isLE hji hi) (by rw [heq]; rfl)
      simp [hgt] at this
    · simp [heq] at hgt

/-- The range that is searched holds every position of the target until one of them is hit. -/
theorem Trace.exists_agrees [BEq α] {lo hi : Nat} {r : Run} (trace : Trace xs target lo hi r)
    (parted : Parted xs target) {k : Nat} (inside : k < xs.size) (hlo : lo ≤ k) (hhi : k < hi)
    (heq : compare xs[k] target = .eq) : (r.probes.find? (agrees xs target)).isSome := by
  induction trace with
  | done => omega
  | hit hmid _ hcmp => simp [Search.hit, agrees_of_lt hmid, hcmp]
  | upper hmid _ hcmp _ ih =>
    have hbelow := parted.below _ k hmid inside hcmp heq
    simpa [agrees_of_lt hmid, hcmp] using ih hbelow hhi
  | lower hmid _ hcmp _ ih =>
    have habove := parted.above k _ inside hmid heq hcmp
    simpa [agrees_of_lt hmid, hcmp] using ih hlo habove

/-- The search comes across a position of the target exactly where there is one. -/
theorem isSome_find?_iff [BEq α] (fits : xs.size < UInt64.size) (parted : Parted xs target) :
    ((run xs target).probes.find? (agrees xs target)).isSome ↔
      ∃ x ∈ xs, compare x target = .eq := by
  constructor
  · intro h
    obtain ⟨index, hfind⟩ := Option.isSome_iff_exists.1 h
    obtain ⟨inside, heq⟩ := agrees_iff.1 (List.find?_some hfind)
    exact ⟨xs[index.toNat], Array.getElem_mem inside, heq⟩
  · rintro ⟨x, hx, heq⟩
    obtain ⟨k, inside, rfl⟩ := Array.mem_iff_getElem.1 hx
    exact (trace_run fits).exists_agrees parted inside (Nat.zero_le k) inside heq

/-- On a sequence that is parted by the target, and so on every sequence in order, the search
answers with a position of the target if there is one, and with none exactly if there is none. -/
theorem position_of_parted [BEq α] [Std.TransOrd α] [Std.LawfulBEqOrd α] (xs : Array α) (target : α)
    (fits : xs.size < UInt64.size) :
    (InOrder xs → Parted xs target) ∧
    (Parted xs target →
      (∃ answer, position xs target = .ok answer) ∧
      ((∃ x ∈ xs, compare x target = .eq) →
        ∃ index, position xs target = .ok (some index) ∧
          ∃ inside : index.toNat < xs.size, compare xs[index.toNat] target = .eq) ∧
      (position xs target = .ok none ↔ ∀ x ∈ xs, compare x target ≠ .eq)) := by
  refine ⟨fun h => parted_of_inOrder h target, fun parted => ?_⟩
  have hiff := isSome_find?_iff fits parted
  rw [position_eq_find? fits]
  refine ⟨⟨_, rfl⟩, fun hex => ?_, ?_⟩
  · obtain ⟨index, hfind⟩ := Option.isSome_iff_exists.1 (hiff.2 hex)
    exact ⟨index, congrArg _ hfind, agrees_iff.1 (List.find?_some hfind)⟩
  · rw [Except.ok.injEq, ← Option.not_isSome_iff_eq_none, hiff]
    push Not
    rfl

/-- Of two elements equal to the target, in a sequence in order, one is found. -/
theorem position_of_parted_keyed :
    (#[⟨1, "a"⟩, ⟨2, "b"⟩, ⟨2, "c"⟩, ⟨5, "d"⟩] : Array Keyed).size < UInt64.size ∧
    Parted (#[⟨1, "a"⟩, ⟨2, "b"⟩, ⟨2, "c"⟩, ⟨5, "d"⟩] : Array Keyed) ⟨2, "e"⟩ ∧
    ∃ index, position (#[⟨1, "a"⟩, ⟨2, "b"⟩, ⟨2, "c"⟩, ⟨5, "d"⟩] : Array Keyed) ⟨2, "e"⟩ =
      .ok (some index) := by
  have fits : (#[⟨1, "a"⟩, ⟨2, "b"⟩, ⟨2, "c"⟩, ⟨5, "d"⟩] : Array Keyed).size < UInt64.size := by
    decide
  obtain ⟨hordered, hparted⟩ := position_of_parted _ (⟨2, "e"⟩ : Keyed) fits
  have parted := hordered (by unfold InOrder; decide)
  obtain ⟨index, hindex, -⟩ := (hparted parted).2.1 ⟨⟨2, "b"⟩, by simp, by decide⟩
  exact ⟨fits, parted, index, hindex⟩

end Seek.Search
