import Seek.Proofs.Bounded.Agreement
import Seek.Proofs.Search.Trace
import Mathlib.Data.Nat.Log
import Mathlib.Data.Nat.Size

/-!
How many probes a search makes. A probe in the middle of `n` positions leaves `n / 2` of them above
it and `(n - 1) / 2` below it, so a search that goes up all the way makes as many probes as `n` has
binary digits, one that goes down all the way makes the fewest that can tell an absent target, and
every other search lies between the two. Main statement: this is so for every sequence, in order or
not, and no position is probed twice.
-/

namespace Seek.Search

/-! ### Halves of a range -/

section Half

variable {n size lo mid hi : Nat}

/-- A number has one binary digit more than its half. -/
theorem size_eq_size_half_add_one (h : n ≠ 0) : n.size = (n / 2).size + 1 := by
  calc n.size = (Nat.bit n.bodd n.div2).size := by rw [Nat.bit_bodd_div2]
    _ = n.div2.size + 1 := Nat.size_bit (by rwa [Nat.bit_bodd_div2])
    _ = (n / 2).size + 1 := by rw [Nat.div2_val]

theorem size_eq_log2_add_one (h : n ≠ 0) : n.size = n.log2 + 1 :=
  Nat.le_antisymm (Nat.size_le.2 Nat.lt_log2_self) (Nat.lt_size.2 (Nat.log2_self_le h))

theorem log2_mono {m n : Nat} (h : m ≤ n) : m.log2 ≤ n.log2 := by
  rw [Nat.log2_eq_log_two, Nat.log2_eq_log_two]
  exact Nat.log_mono_right h

theorem Halved.upper_width (h : Halved size lo mid hi) : hi - (mid + 1) = (hi - lo) / 2 := by
  have := h.low_le
  have := h.lt_high
  have := h.middle
  omega

theorem Halved.lower_width (h : Halved size lo mid hi) : mid - lo + 1 = (hi - lo + 1) / 2 := by
  have := h.low_le
  have := h.lt_high
  have := h.middle
  omega

theorem Halved.width_ne_zero (h : Halved size lo mid hi) : hi - lo ≠ 0 := by
  have := h.low_le
  have := h.lt_high
  omega

/-- A probe and one for each binary digit of what is above it are one for each digit. -/
theorem Halved.size_width (h : Halved size lo mid hi) :
    (hi - lo).size = (hi - (mid + 1)).size + 1 := by
  rw [h.upper_width]
  exact size_eq_size_half_add_one h.width_ne_zero

theorem Halved.log2_width (h : Halved size lo mid hi) :
    (hi - lo + 1).log2 = (mid - lo + 1).log2 + 1 := by
  have := h.width_ne_zero
  rw [Nat.log2_def, if_pos (by omega), h.lower_width]

/-- The lower part is never the wider one. -/
theorem Halved.lower_le_upper (h : Halved size lo mid hi) : mid - lo ≤ hi - (mid + 1) := by
  have := h.upper_width
  have := h.lower_width
  omega

end Half

/-! ### Probes of a search -/

variable {α : Type} [Ord α] [BEq α] {xs : Array α} {target : α} {lo hi : Nat} {r : Run}

theorem Trace.nodup_probes (trace : Trace xs target lo hi r) : r.probes.Nodup := by
  induction trace with
  | done => exact List.nodup_nil
  | hit => simp [Search.hit]
  | upper _ _ _ rest ih =>
    exact List.nodup_cons.2 ⟨fun hmem => Nat.lt_irrefl _ (rest.mem_probes _ hmem).1, ih⟩
  | lower _ _ _ rest ih =>
    exact List.nodup_cons.2 ⟨fun hmem => Nat.lt_irrefl _ (rest.mem_probes _ hmem).2, ih⟩

/-- There are no more probes than the number of positions has binary digits. -/
theorem Trace.length_probes_le (trace : Trace xs target lo hi r) :
    r.probes.length ≤ (hi - lo).size := by
  induction trace with
  | done => exact Nat.zero_le _
  | hit _ hhalf => exact Nat.size_pos.2 (Nat.pos_of_ne_zero hhalf.width_ne_zero)
  | upper _ hhalf _ _ ih =>
    rw [hhalf.size_width]
    exact Nat.succ_le_succ ih
  | lower _ hhalf _ _ ih =>
    rw [hhalf.size_width]
    exact Nat.succ_le_succ (Nat.le_trans ih (Nat.size_le_size hhalf.lower_le_upper))

/-- A search that finds nothing has halved the range until nothing was left. -/
theorem Trace.log2_le_length_probes (trace : Trace xs target lo hi r)
    (hnone : r.outcome = .ok none) : (hi - lo + 1).log2 ≤ r.probes.length := by
  induction trace with
  | done => simp [Nat.log2_def]
  | @hit _ _ mid _ _ _ => exact absurd hnone (outcome_hit_ne_none mid)
  | upper _ hhalf _ _ ih =>
    rw [hhalf.log2_width]
    have hwider := log2_mono (Nat.succ_le_succ hhalf.lower_le_upper)
    exact Nat.succ_le_succ (Nat.le_trans hwider (ih hnone))
  | lower _ hhalf _ _ ih =>
    rw [hhalf.log2_width]
    exact Nat.succ_le_succ (ih hnone)

theorem Trace.length_probes_of_lt (trace : Trace xs target lo hi r)
    (below : ∀ x ∈ xs, compare x target = .lt) : r.probes.length = (hi - lo).size := by
  induction trace with
  | done => simp
  | hit inside _ hcmp => simp [below _ (Array.getElem_mem inside)] at hcmp
  | upper _ hhalf _ _ ih =>
    rw [hhalf.size_width, Run.probes_after, List.length_cons, ih]
  | lower inside _ hcmp => simp [below _ (Array.getElem_mem inside)] at hcmp

theorem Trace.length_probes_of_gt (trace : Trace xs target lo hi r)
    (above : ∀ x ∈ xs, compare x target = .gt) :
    r.probes.length = (hi - lo + 1).log2 := by
  induction trace with
  | done => simp [Nat.log2_def]
  | hit inside _ hcmp => simp [above _ (Array.getElem_mem inside)] at hcmp
  | upper inside _ hcmp => simp [above _ (Array.getElem_mem inside)] at hcmp
  | lower _ hhalf _ _ ih =>
    rw [hhalf.log2_width, Run.probes_after, List.length_cons, ih]

/-- Both searches of a sequence that is not empty, in order or not, probe positions in it, none of
them twice, and about as many as a binary logarithm of its size: this bounds the number of probes
from above, from below where nothing is found, and gives it where all elements are on one side. -/
theorem length_probes_log2 (xs : Array α) (target : α) (nonempty : xs.size ≠ 0)
    (fits : xs.size < UInt64.size) :
    (run xs target).probes.Nodup ∧
    (∀ probe ∈ (run xs target).probes, probe.toNat < xs.size) ∧
    (run xs target).probes.length ≤ xs.size.log2 + 1 ∧
    (position xs target = .ok none → (xs.size + 1).log2 ≤ (run xs target).probes.length) ∧
    ((∀ x ∈ xs, compare x target = .lt) →
      (run xs target).probes.length = xs.size.log2 + 1) ∧
    ((∀ x ∈ xs, compare x target = .gt) →
      (run xs target).probes.length = (xs.size + 1).log2) ∧
    (Bounded.search xs target).probes = (run xs target).probes := by
  have trace : Trace xs target 0 xs.size (run xs target) := trace_run fits
  rw [← size_eq_log2_add_one nonempty]
  exact ⟨trace.nodup_probes, fun probe hprobe => (trace.mem_probes probe hprobe).2,
    trace.length_probes_le, trace.log2_le_length_probes, trace.length_probes_of_lt,
    trace.length_probes_of_gt, Bounded.probes_search xs target⟩

/-- Six values out of order, all of them below one target and above another. -/
theorem length_probes_log2_oneSided :
    (#[5, 1, 9, 3, 7, 2] : Array Int32).size ≠ 0 ∧
    (#[5, 1, 9, 3, 7, 2] : Array Int32).size < UInt64.size ∧
    (∀ x ∈ (#[5, 1, 9, 3, 7, 2] : Array Int32), compare x 10 = .lt) ∧
    (∀ x ∈ (#[5, 1, 9, 3, 7, 2] : Array Int32), compare x 0 = .gt) ∧
    position (#[5, 1, 9, 3, 7, 2] : Array Int32) 4 = .ok none ∧
    (run (#[5, 1, 9, 3, 7, 2] : Array Int32) 10).probes.length = 3 ∧
    (run (#[5, 1, 9, 3, 7, 2] : Array Int32) 0).probes.length = 2 ∧
    2 ≤ (run (#[5, 1, 9, 3, 7, 2] : Array Int32) 4).probes.length := by
  have nonempty : (#[5, 1, 9, 3, 7, 2] : Array Int32).size ≠ 0 := by decide
  have fits : (#[5, 1, 9, 3, 7, 2] : Array Int32).size < UInt64.size := by decide
  have below : ∀ x ∈ (#[5, 1, 9, 3, 7, 2] : Array Int32), compare x 10 = .lt :=
    Array.forall_mem_iff_forall_getElem.2 (by decide)
  have above : ∀ x ∈ (#[5, 1, 9, 3, 7, 2] : Array Int32), compare x 0 = .gt :=
    Array.forall_mem_iff_forall_getElem.2 (by decide)
  have hnone : position (#[5, 1, 9, 3, 7, 2] : Array Int32) 4 = .ok none := by decide +kernel
  obtain ⟨-, -, -, hleast, -, -⟩ := length_probes_log2 _ (4 : Int32) nonempty fits
  obtain ⟨-, -, -, -, hmost, -⟩ := length_probes_log2 _ (10 : Int32) nonempty fits
  obtain ⟨-, -, -, -, -, hfewest, -⟩ := length_probes_log2 _ (0 : Int32) nonempty fits
  exact ⟨nonempty, fits, below, above, hnone, hmost below, hfewest above, hleast hnone⟩

end Seek.Search
