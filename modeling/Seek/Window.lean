import Seek.Word

/-!
The middle of a window of positions. A window is inclusive at both ends. Its middle is found without
ever forming the sum of the ends, which need not fit a word. Main statement: a middle exists exactly
when the ends are in order, and it is then half of their exact sum, rounded down.
-/

namespace Seek

/-- The middle of the window `low..high`, rounded down. -/
def midpoint (low high : UInt64) : Checked UInt64 :=
  if low ≤ high then do
    let width ← Word.sub high low
    Word.add low (width / 2)
  else .error (.reversedWindow low high)

theorem midpoint_eq_ok_iff {low high mid : UInt64} :
    midpoint low high = .ok mid ↔ low ≤ high ∧ mid.toNat = (low.toNat + high.toNat) / 2 := by
  unfold midpoint
  split
  · rename_i h
    have hle : low.toNat ≤ high.toNat := UInt64.le_iff_toNat_le.1 h
    have hsub : Word.sub high low = .ok (high - low) := if_pos h
    rw [hsub]
    change Word.add low ((high - low) / 2) = .ok mid ↔ _
    rw [Word.add_eq_ok_iff, UInt64.toNat_div, UInt64.toNat_sub_of_le _ _ h]
    change mid.toNat = low.toNat + (high.toNat - low.toNat) / 2 ↔ _
    constructor
    · intro he
      exact ⟨h, by omega⟩
    · rintro ⟨-, he⟩
      omega
  · rename_i h
    simp [h]

theorem exists_midpoint {low high : UInt64} (h : low ≤ high) :
    ∃ mid, midpoint low high = .ok mid := by
  have := high.toNat_lt_size
  have := UInt64.le_iff_toNat_le.1 h
  refine ⟨.ofNat ((low.toNat + high.toNat) / 2), midpoint_eq_ok_iff.2 ⟨h, ?_⟩⟩
  exact UInt64.toNat_ofNat_of_lt' (by omega)

/-- A middle is refused to a reversed window, and to no other. -/
theorem midpoint_eq_error_iff {low high : UInt64} {fault : Fault} :
    midpoint low high = .error fault ↔ high < low ∧ fault = .reversedWindow low high := by
  by_cases h : low ≤ high
  · obtain ⟨mid, hmid⟩ := exists_midpoint h
    simp [hmid, UInt64.not_lt.2 h]
  · simp [midpoint, if_neg h, UInt64.not_le.1 h, eq_comm]

/-- The middle lies in its window. -/
theorem le_and_le_of_midpoint {low high mid : UInt64} (h : midpoint low high = .ok mid) :
    low.toNat ≤ mid.toNat ∧ mid.toNat ≤ high.toNat := by
  obtain ⟨hle, hmid⟩ := midpoint_eq_ok_iff.1 h
  have := UInt64.le_iff_toNat_le.1 hle
  omega

end Seek
