import Seek.Element
import Seek.Proofs.Search.Trace

/-!
Nothing in a search faults but a hit that differs. No law is asked of the order or of equality, and
none of the sequence, so the search may be led along any path. Main statements: every window that is
reached lies in the sequence (`inside_of_reached`), so all that is computed there is exact, and the
search faults exactly where the first probe that compares equal to the target is not equal to it.
-/

namespace Seek.Search

variable {α : Type} [Ord α] [BEq α] {xs : Array α} {target : α}

/-- The windows that the loop looks at, one after the other. -/
inductive Reached (xs : Array α) (target : α) : Window → Prop
  | whole {last : UInt64} : xs.size ≠ 0 → Word.sub (Word.size xs) 1 = .ok last →
    Reached xs target ⟨0, last⟩
  | next {w next : Window} {probe : UInt64} : Reached xs target w →
    turn xs target w = .narrowed probe next → Reached xs target next

theorem inside_of_reached (fits : xs.size < UInt64.size) {w : Window}
    (h : Reached xs target w) : w.Inside xs.size := by
  induction h with
  | whole hne hsub =>
    obtain ⟨last, hlast, hsize⟩ := Word.exists_last fits hne
    obtain rfl := Except.ok.inj (hlast.symm.trans hsub)
    exact Window.inside_whole hsize
  | next _ hturn ih => exact (inside_and_width_lt_of_narrowed fits ih hturn).1

/-- The search is under way at every window that is reached: what is left of it is its end. -/
theorem suffix_of_reached {w : Window} (h : Reached xs target w) :
    (scan xs target w.low w.high).probes <:+ (run xs target).probes ∧
      (scan xs target w.low w.high).outcome = position xs target := by
  induction h with
  | whole hne hsub =>
    have hempty : ¬ xs.isEmpty := by simpa using hne
    rw [position, run, if_neg hempty, hsub]
    exact ⟨List.suffix_refl _, rfl⟩
  | @next w _ probe _ hturn ih =>
    rw [scan_eq, hturn] at ih
    exact ⟨(List.suffix_cons probe _).trans ih.1, ih.2⟩

/-- From every window that is reached, the turns come to one that ends the search. -/
theorem exists_ended (fits : xs.size < UInt64.size) (w : Window) (h : Reached xs target w) :
    ∃ last rest, Reached xs target last ∧ turn xs target last = .ended rest ∧
      rest.outcome = position xs target := by
  induction hn : w.width using Nat.strongRecOn generalizing w with
  | _ n ih =>
    subst hn
    cases hturn : turn xs target w with
    | ended rest =>
      have houtcome := (suffix_of_reached h).2
      rw [scan_eq, hturn] at houtcome
      exact ⟨w, rest, h, hturn, houtcome⟩
    | narrowed probe next =>
      have hwidth := (inside_and_width_lt_of_narrowed fits (inside_of_reached fits h) hturn).2
      exact ih _ hwidth next (.next h hturn) rfl

/-- A position is answered only if its element compares equal to the target and is equal to it. -/
theorem hit_of_position_eq (fits : xs.size < UInt64.size) {index : UInt64}
    (h : position xs target = .ok (some index)) :
    ∃ inside : index.toNat < xs.size,
      compare xs[index.toNat] target = .eq ∧ (xs[index.toNat] == target) = true := by
  rw [position, (trace_run fits).outcome_eq] at h
  cases hfind : (run xs target).probes.find? (agrees xs target) with
  | none => simp [hfind] at h
  | some first =>
    obtain ⟨inside, heq⟩ := agrees_iff.1 (List.find?_some hfind)
    simp only [hfind, Contract.checkHit_of_lt inside] at h
    split at h
    · rename_i hbeq
      cases h
      exact ⟨inside, heq, hbeq⟩
    · cases h

/-- The search faults exactly where its first match is not equal to the target. -/
theorem fault_iff (fits : xs.size < UInt64.size) {fault : Fault} :
    position xs target = .error fault ↔
      ∃ first, (run xs target).probes.find? (agrees xs target) = some first ∧
        (∃ inside : first.toNat < xs.size, (xs[first.toNat] == target) = false) ∧
        fault = .hitDiffers first := by
  rw [position, (trace_run fits).outcome_eq]
  cases hfind : (run xs target).probes.find? (agrees xs target) with
  | none => simp
  | some first =>
    obtain ⟨inside, -⟩ := agrees_iff.1 (List.find?_some hfind)
    simp only [Contract.checkHit_of_lt inside, Option.some.injEq, exists_eq_left']
    cases hbeq : xs[first.toNat] == target with
    | true => simp [hbeq, Except.map]
    | false => simp [hbeq, inside, Except.map, eq_comm]

/-- A search does not ask whether the sequence is in order, however long that is. -/
theorem scan_ne_notSorted (xs : Array α) (target : α) (low high : UInt64) :
    (scan xs target low high).outcome ≠ .error .notSorted := by
  fun_induction scan xs target low high with
  | case1 low high _ fault hmid =>
    obtain ⟨-, rfl⟩ := midpoint_eq_error_iff.1 hmid
    simp
  | case2 low high _ mid _ inside upper lower =>
    rw [Run.outcome_after]
    cases compare xs[mid.toNat] target with
    | eq =>
      simp only [Run.outcome_stop, Contract.checkHit_of_lt inside]
      split <;> simp [Except.map]
    | lt =>
      dsimp only
      split
      · rename_i hadd
        simp [Word.fault_of_add hadd]
      · exact upper _ ‹_›
    | gt =>
      dsimp only
      split
      · simp
      · split
        · rename_i hsub
          simp [Word.fault_of_sub hsub]
        · exact lower _ ‹_›
  | case3 => simp
  | case4 => simp

theorem position_ne_notSorted (xs : Array α) (target : α) :
    position xs target ≠ .error .notSorted := by
  unfold position run
  split
  · simp
  · split
    · rename_i hsub
      simp [Word.fault_of_sub hsub]
    · exact scan_ne_notSorted xs target _ _

/-- On every sequence, in order or not, and whatever the comparisons come to: the search ends, all
that is computed at the windows it reaches is exact, an answer holds the target, and it faults
exactly where the first probe that compares equal to the target is not equal to it. -/
theorem run_safe (xs : Array α) (target : α) (fits : xs.size < UInt64.size) :
    (xs.size ≠ 0 → ∃ last, Word.sub (Word.size xs) 1 = .ok last ∧ last.toNat + 1 = xs.size ∧
      Reached xs target ⟨0, last⟩) ∧
    (∀ w, Reached xs target w →
      (scan xs target w.low w.high).probes <:+ (run xs target).probes ∧
      (scan xs target w.low w.high).outcome = position xs target ∧
      (w.high < w.low → turn xs target w = .ended (.stop (.ok none))) ∧
      (w.low ≤ w.high → ∃ mid, w.Middle xs.size mid) ∧
      (∀ probe next, turn xs target w = .narrowed probe next → next.width < w.width) ∧
      ∃ last rest, Reached xs target last ∧ turn xs target last = .ended rest ∧
        rest.outcome = position xs target) ∧
    (∀ probe ∈ (run xs target).probes, probe.toNat < xs.size) ∧
    (∀ index, position xs target = .ok (some index) →
      ∃ inside : index.toNat < xs.size,
        compare xs[index.toNat] target = .eq ∧ (xs[index.toNat] == target) = true) ∧
    (∀ fault, position xs target = .error fault ↔
      ∃ first, (run xs target).probes.find? (agrees xs target) = some first ∧
        (∃ inside : first.toNat < xs.size, (xs[first.toNat] == target) = false) ∧
        fault = .hitDiffers first) := by
  refine ⟨fun hne => ?_, fun w h => ?_, fun probe hprobe => ?_,
    fun index => hit_of_position_eq fits, fun fault => fault_iff fits⟩
  · obtain ⟨last, hsub, hlast⟩ := Word.exists_last fits hne
    exact ⟨last, hsub, hlast, .whole hne hsub⟩
  · have inside := inside_of_reached fits h
    obtain ⟨hprobes, houtcome⟩ := suffix_of_reached h
    refine ⟨hprobes, houtcome, fun hlt => ?_, inside.exists_middle fits,
      fun probe next hturn => ?_, exists_ended fits w h⟩
    · rw [turn, if_neg (UInt64.not_le.2 hlt)]
    · exact (inside_and_width_lt_of_narrowed fits inside hturn).2
  · exact ((trace_run fits).mem_probes probe hprobe).2

/-- The middle element compares equal to the target, and only its tag differs. -/
theorem run_safe_tagged :
    (#[⟨1, "a"⟩, ⟨2, "b"⟩, ⟨2, "c"⟩] : Array Tagged).size < UInt64.size ∧
    Reached (#[⟨1, "a"⟩, ⟨2, "b"⟩, ⟨2, "c"⟩] : Array Tagged) ⟨2, "c"⟩ ⟨0, 2⟩ ∧
    position (#[⟨1, "a"⟩, ⟨2, "b"⟩, ⟨2, "c"⟩] : Array Tagged) ⟨2, "c"⟩ = .error (.hitDiffers 1) := by
  have fits : (#[⟨1, "a"⟩, ⟨2, "b"⟩, ⟨2, "c"⟩] : Array Tagged).size < UInt64.size := by decide
  have hrun : run #[⟨1, "a"⟩, ⟨2, "b"⟩, ⟨2, "c"⟩] (⟨2, "c"⟩ : Tagged) =
      scan #[⟨1, "a"⟩, ⟨2, "b"⟩, ⟨2, "c"⟩] (⟨2, "c"⟩ : Tagged) 0 2 := rfl
  have hfind : (run #[⟨1, "a"⟩, ⟨2, "b"⟩, ⟨2, "c"⟩] (⟨2, "c"⟩ : Tagged)).probes.find?
      (agrees #[⟨1, "a"⟩, ⟨2, "b"⟩, ⟨2, "c"⟩] (⟨2, "c"⟩ : Tagged)) = some 1 := by
    rw [hrun, scan_eq _ _ ⟨0, 2⟩]
    rfl
  obtain ⟨hlast, -, -, -, hfault⟩ := run_safe _ (⟨2, "c"⟩ : Tagged) fits
  refine ⟨fits, ?_, (hfault (.hitDiffers 1)).2 ⟨1, hfind, ⟨by decide, by decide⟩, rfl⟩⟩
  obtain ⟨last, -, hsize, hreached⟩ := hlast (by decide)
  obtain rfl : last = 2 := UInt64.toNat_inj.1 (Nat.succ.inj hsize)
  exact hreached

end Seek.Search
