import Seek.Proofs.Element
import Seek.Proofs.Search.Trace

/-!
The search as the halving of a list. The element in the middle is compared with the target: where
it compares equal, its position is the answer, and otherwise the half on the side of the target is
halved in turn. A range of positions that is searched is a part of the list, and each rule of its
derivation is one turn of the halving. Main statement: on every sequence, in order or not, the
search answers with the position that halving comes to. Of several elements equal to the target this
is the one that is probed first.
-/

namespace Seek.Search

variable {α : Type}

/-! ### Parts of a sequence -/

section Part

variable {xs : Array α} {lo mid hi : Nat}

/-- The elements from position `lo` up to but not including `hi`. -/
def part (xs : Array α) (lo hi : Nat) : List α := (xs.toList.drop lo).take (hi - lo)

theorem part_self (xs : Array α) (lo : Nat) : part xs lo lo = [] := by
  rw [part, Nat.sub_self, List.take_zero]

theorem part_whole (xs : Array α) : part xs 0 xs.size = xs.toList := by
  rw [part, List.drop_zero, Nat.sub_zero, ← Array.length_toList, List.take_length]

theorem length_part (h : hi ≤ xs.size) : (part xs lo hi).length = hi - lo := by
  rw [part, List.length_take, List.length_drop, Array.length_toList]
  omega

/-- A part is what is in front of a position in it, the element there, and what is behind. -/
theorem part_eq_append (inside : mid < xs.size) (hlo : lo ≤ mid) (hhi : mid < hi) :
    part xs lo hi = part xs lo mid ++ xs[mid] :: part xs (mid + 1) hi := by
  have hwidth : hi - lo = (mid - lo) + (hi - (mid + 1) + 1) := by omega
  have hinside : mid < xs.toList.length := by rwa [Array.length_toList]
  rw [part, hwidth, List.take_add, List.drop_drop, Nat.add_sub_cancel' hlo,
    List.drop_eq_getElem_cons hinside, List.take_succ_cons, Array.getElem_toList, part, part]

end Part

/-! ### Halving -/

/-- The position in the middle of a list, the one in front where there are two. -/
def centre (xs : List α) : Nat := (xs.length - 1) / 2

theorem centre_lt_length {xs : List α} (h : xs ≠ []) : centre xs < xs.length := by
  have := List.length_pos_iff.2 h
  unfold centre
  omega

variable [Ord α] {target : α}

/-- The position at which halving comes across an element that compares equal to the target. -/
def halve (target : α) (xs : List α) : Option Nat :=
  if h : xs = [] then none
  else
    have := centre_lt_length h
    match compare xs[centre xs] target with
    | .eq => some (centre xs)
    | .lt => (halve target (xs.drop (centre xs + 1))).map (· + (centre xs + 1))
    | .gt => halve target (xs.take (centre xs))
termination_by xs.length
decreasing_by
  · simp only [List.length_drop]
    omega
  · simp only [List.length_take]
    omega

theorem halve_nil : halve target [] = none := by
  rw [halve, dif_pos rfl]

/-- One turn, on a list that is cut in its middle. -/
theorem halve_append {front behind : List α} {x : α}
    (h : front.length = centre (front ++ x :: behind)) :
    halve target (front ++ x :: behind) = match compare x target with
      | .eq => some front.length
      | .lt => (halve target behind).map (· + (front.length + 1))
      | .gt => halve target front := by
  rw [halve, dif_neg (by simp)]
  simp only [← h, List.getElem_append_right (Nat.le_refl _), Nat.sub_self, List.getElem_cons_zero,
    List.take_left, List.drop_append, List.drop_eq_nil_of_le (Nat.le_succ _), List.nil_append,
    Nat.add_sub_cancel_left, List.drop_succ_cons, List.drop_zero]

/-! ### The search of a part -/

variable {xs : Array α} {lo hi : Nat}

/-- One turn, on a part that is searched. -/
theorem Halved.halve_part {mid : Nat} (h : Halved xs.size lo mid hi) (inside : mid < xs.size) :
    halve target (part xs lo hi) = match compare xs[mid] target with
      | .eq => some (mid - lo)
      | .lt => (halve target (part xs (mid + 1) hi)).map (· + (mid - lo + 1))
      | .gt => halve target (part xs lo mid) := by
  have hsplit := part_eq_append inside h.low_le h.lt_high
  have hfront : (part xs lo mid).length = mid - lo := length_part (Nat.le_of_lt inside)
  have hcentre : (part xs lo mid).length =
      centre (part xs lo mid ++ xs[mid] :: part xs (mid + 1) hi) := by
    have := h.low_le
    have := h.middle
    rw [← hsplit, centre, length_part h.high_le, hfront]
    omega
  rw [hsplit, halve_append hcentre, hfront]

variable [BEq α] [Std.LawfulBEqOrd α] {r : Run}

/-- Where equality agrees with the order, a hit passes its contract. -/
theorem outcome_hit {mid : UInt64} (inside : mid.toNat < xs.size)
    (heq : compare xs[mid.toNat] target = .eq) : (hit xs target mid).outcome = .ok (some mid) := by
  rw [Std.compare_eq_iff_beq] at heq
  simp only [hit, Run.outcome_after, Run.outcome_stop, Contract.checkHit_of_lt inside, if_pos heq]
  rfl

/-- The search of a range comes to what halving that part comes to, counted from the front. -/
theorem Trace.outcome_eq_halve (trace : Trace xs target lo hi r) :
    ∃ answer, r.outcome = .ok answer ∧
      answer.map UInt64.toNat = (halve target (part xs lo hi)).map (lo + ·) := by
  induction trace with
  | done => exact ⟨none, rfl, by rw [part_self, halve_nil]; rfl⟩
  | @hit lo hi mid inside hhalf hcmp =>
    refine ⟨some mid, outcome_hit inside hcmp, ?_⟩
    simp only [hhalf.halve_part inside, hcmp, Option.map_some, Nat.add_sub_cancel' hhalf.low_le]
  | @upper lo hi mid rest inside hhalf hcmp _ ih =>
    obtain ⟨answer, houtcome, hanswer⟩ := ih
    refine ⟨answer, houtcome, ?_⟩
    have hshift (k : Nat) : lo + (k + (mid.toNat - lo + 1)) = mid.toNat + 1 + k := by
      have := hhalf.low_le
      omega
    simp only [hhalf.halve_part inside, hcmp, hanswer, Option.map_map, Function.comp_def, hshift]
  | @lower lo hi mid rest inside hhalf hcmp _ ih =>
    simp only [hhalf.halve_part inside, hcmp]
    exact ih

/-- On every sequence, in order or not, the search answers with the position that halving comes to.
It is the first position, in the order of the probes, whose element compares equal to the target. -/
theorem position_eq_halve (xs : Array α) (target : α) (fits : xs.size < UInt64.size) :
    ∃ answer, position xs target = .ok answer ∧
      answer.map UInt64.toNat = halve target xs.toList ∧
      answer = (run xs target).probes.find? (agrees xs target) := by
  have trace : Trace xs target 0 xs.size (run xs target) := trace_run fits
  obtain ⟨answer, houtcome, hanswer⟩ := trace.outcome_eq_halve
  refine ⟨answer, houtcome, ?_, Except.ok.inj (houtcome.symm.trans (position_eq_find? fits))⟩
  simpa [part_whole] using hanswer

/-- Of four elements equal to the target, in a sequence out of order, the third one is found. -/
theorem position_eq_halve_duplicates :
    (#[⟨2, "a"⟩, ⟨2, "b"⟩, ⟨1, "c"⟩, ⟨2, "d"⟩, ⟨2, "e"⟩] : Array Keyed).size < UInt64.size ∧
    position (#[⟨2, "a"⟩, ⟨2, "b"⟩, ⟨1, "c"⟩, ⟨2, "d"⟩, ⟨2, "e"⟩] : Array Keyed) ⟨2, "f"⟩ =
      .ok (some 3) := by
  have fits : (#[⟨2, "a"⟩, ⟨2, "b"⟩, ⟨1, "c"⟩, ⟨2, "d"⟩, ⟨2, "e"⟩] : Array Keyed).size <
      UInt64.size := by
    decide
  obtain ⟨answer, hposition, hhalve, -⟩ := position_eq_halve _ (⟨2, "f"⟩ : Keyed) fits
  have hthird : halve (⟨2, "f"⟩ : Keyed)
      [⟨2, "a"⟩, ⟨2, "b"⟩, ⟨1, "c"⟩, ⟨2, "d"⟩, ⟨2, "e"⟩] = some 3 := by
    decide +kernel
  rw [hthird] at hhalve
  obtain ⟨index, rfl, hindex⟩ := Option.map_eq_some_iff.1 hhalve
  obtain rfl : index = 3 := UInt64.toNat_inj.1 hindex
  exact ⟨fits, hposition⟩

end Seek.Search
