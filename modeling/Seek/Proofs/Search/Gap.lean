import Seek.Proofs.Search.Trace
import Seek.Proofs.Sorted.InOrder

/-!
Where an absent target would stand. Each end of the range that is still searched is an end of the
sequence or next to a probe: what is in front was found to be below the target, and what is behind
to be above it. A search that finds nothing leaves a range without positions, and so a gap between
two neighbours that were both probed. Main statement: this holds of every sequence on which the
search finds nothing, and where the sequence is in order the gap is behind all that is below the
target.
-/

namespace Seek.Search

variable {α : Type} [Ord α] {xs : Array α} {target : α} {lo hi gap : Nat}

/-- In the positions from `lo` up to `hi`, the probes show a gap for the target: it is at the lower
end or behind a probe below the target, and it is at the upper end or in front of a probe above. -/
structure Gap (xs : Array α) (target : α) (lo hi : Nat) (probes : List UInt64) (gap : Nat) :
    Prop where
  low_le : lo ≤ gap
  le_high : gap ≤ hi
  below : gap = lo ∨ ∃ probe ∈ probes, probe.toNat + 1 = gap ∧
    ∃ inside : probe.toNat < xs.size, compare xs[probe.toNat] target = .lt
  above : gap = hi ∨ ∃ probe ∈ probes, probe.toNat = gap ∧
    ∃ inside : probe.toNat < xs.size, compare xs[probe.toNat] target = .gt

/-- A search that finds nothing in a range shows a gap in it. -/
theorem Trace.exists_gap [BEq α] {r : Run} (trace : Trace xs target lo hi r)
    (hnone : r.outcome = .ok none) : ∃ gap, Gap xs target lo hi r.probes gap := by
  induction trace with
  | @done lo => exact ⟨lo, Nat.le_refl lo, Nat.le_refl lo, .inl rfl, .inl rfl⟩
  | @hit _ _ mid => exact absurd hnone (outcome_hit_ne_none mid)
  | @upper lo hi mid rest inside hhalf hcmp _ ih =>
    obtain ⟨gap, hlow, hhigh, hbelow, habove⟩ := ih hnone
    refine ⟨gap, Nat.le_trans hhalf.low_le (Nat.le_of_succ_le hlow), hhigh, .inr ?_, ?_⟩
    · rcases hbelow with rfl | ⟨probe, hprobe, hlt⟩
      · exact ⟨mid, List.mem_cons_self, rfl, inside, hcmp⟩
      · exact ⟨probe, List.mem_cons_of_mem mid hprobe, hlt⟩
    · exact habove.imp_right fun ⟨probe, hprobe, hgt⟩ =>
        ⟨probe, List.mem_cons_of_mem mid hprobe, hgt⟩
  | @lower lo hi mid rest inside hhalf hcmp _ ih =>
    obtain ⟨gap, hlow, hhigh, hbelow, habove⟩ := ih hnone
    refine ⟨gap, hlow, Nat.le_trans hhigh (Nat.le_of_lt hhalf.lt_high), ?_, .inr ?_⟩
    · exact hbelow.imp_right fun ⟨probe, hprobe, hlt⟩ =>
        ⟨probe, List.mem_cons_of_mem mid hprobe, hlt⟩
    · rcases habove with rfl | ⟨probe, hprobe, hgt⟩
      · exact ⟨mid, List.mem_cons_self, rfl, inside, hcmp⟩
      · exact ⟨probe, List.mem_cons_of_mem mid hprobe, hgt⟩

/-! ### Gaps in sequences in order -/

section Order

variable [Std.TransOrd α] {probes : List UInt64}

/-- What is in front of a gap is below the target. -/
theorem Gap.lt_of_lt (h : Gap xs target 0 xs.size probes gap) (ordered : InOrder xs) {i : Nat}
    (inside : i < xs.size) (hi : i < gap) : compare xs[i] target = .lt := by
  rcases h.below with rfl | ⟨probe, -, rfl, hin, hlt⟩
  · exact absurd hi (Nat.not_lt_zero i)
  · rcases Nat.lt_or_eq_of_le (Nat.le_of_lt_succ hi) with hi | rfl
    · exact Std.TransCmp.lt_of_isLE_of_lt (ordered.isLE hi hin) hlt
    · exact hlt

/-- What is behind a gap is not below the target. -/
theorem Gap.ne_lt_of_le (h : Gap xs target 0 xs.size probes gap) (ordered : InOrder xs) {i : Nat}
    (inside : i < xs.size) (hi : gap ≤ i) : compare xs[i] target ≠ .lt := by
  intro hlt
  rcases h.above with rfl | ⟨probe, -, rfl, hin, hgt⟩
  · exact absurd inside (Nat.not_lt.2 hi)
  · rcases Nat.lt_or_eq_of_le hi with hi | rfl
    · have := Std.TransCmp.lt_of_isLE_of_lt (ordered.isLE hi inside) hlt
      simp [hgt] at this
    · simp [hgt] at hlt

/-- A gap in a sequence in order is behind all elements that are below the target. -/
theorem Gap.eq_countP (h : Gap xs target 0 xs.size probes gap) (ordered : InOrder xs) :
    gap = xs.countP fun x => compare x target == .lt := by
  have hlength : (xs.toList.take gap).length = gap := List.length_take_of_le h.le_high
  have hfront : (xs.toList.take gap).countP (fun x => compare x target == .lt) = gap := by
    conv_rhs => rw [← hlength]
    rw [List.countP_eq_length]
    intro x hx
    obtain ⟨i, hi, rfl⟩ := List.mem_take_iff_getElem.1 hx
    exact beq_iff_eq.2 (h.lt_of_lt ordered _ (by omega))
  have hbehind : (xs.toList.drop gap).countP (fun x => compare x target == .lt) = 0 := by
    rw [List.countP_eq_zero]
    intro x hx hlt
    obtain ⟨i, hi, rfl⟩ := List.mem_drop_iff_getElem.1 hx
    exact h.ne_lt_of_le ordered _ (Nat.le_add_right gap i) (beq_iff_eq.1 hlt)
  rw [← Array.countP_toList, ← List.take_append_drop gap xs.toList, List.countP_append, hfront,
    hbehind, Nat.add_zero]

end Order

/-- Where the search of a sequence, in order or not, finds nothing, its probes show a gap for the
target. Where the sequence is in order, a gap is behind all elements that are below the target. -/
theorem exists_gap_of_position_eq_none [BEq α] (xs : Array α) (target : α)
    (fits : xs.size < UInt64.size) (hnone : position xs target = .ok none) :
    (∃ gap, Gap xs target 0 xs.size (run xs target).probes gap) ∧
    ∀ [Std.TransOrd α], InOrder xs → ∀ gap, Gap xs target 0 xs.size (run xs target).probes gap →
      gap = xs.countP fun x => compare x target == .lt := by
  have trace : Trace xs target 0 xs.size (run xs target) := trace_run fits
  exact ⟨trace.exists_gap hnone, fun ordered gap h => h.eq_countP ordered⟩

/-- The target is missing between the second and the third of four values. -/
theorem exists_gap_of_position_eq_none_between :
    (#[1, 3, 5, 9] : Array Int32).size < UInt64.size ∧
    position (#[1, 3, 5, 9] : Array Int32) 4 = .ok none ∧
    InOrder (#[1, 3, 5, 9] : Array Int32) ∧
    Gap (#[1, 3, 5, 9] : Array Int32) 4 0 4 (run (#[1, 3, 5, 9] : Array Int32) 4).probes 2 := by
  have fits : (#[1, 3, 5, 9] : Array Int32).size < UInt64.size := by decide
  have hnone : position (#[1, 3, 5, 9] : Array Int32) 4 = .ok none := by decide +kernel
  have ordered : InOrder (#[1, 3, 5, 9] : Array Int32) := by
    unfold InOrder
    decide
  obtain ⟨⟨gap, hgap⟩, heq⟩ := exists_gap_of_position_eq_none _ (4 : Int32) fits hnone
  obtain rfl : gap = 2 := heq ordered gap hgap
  exact ⟨fits, hnone, ordered, hgap⟩

end Seek.Search
