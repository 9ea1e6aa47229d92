import Seek.Proofs.Search.Turn

/-!
What a search does, as a derivation over half-open ranges of positions: one rule for a range that is
used up, and one for each answer of the comparison in its middle. Main statements: the search of a
whole sequence has such a derivation (`trace_run`), and its outcome is decided by the first probe
that compares equal to the target (`Trace.outcome_eq`). No order is assumed.
-/

namespace Seek.Search

variable {α : Type} [Ord α] {xs : Array α} {target : α}

/-- The element at a position compares equal to the target. -/
def agrees (xs : Array α) (target : α) (position : UInt64) : Bool :=
  xs[position.toNat]?.any fun x => compare x target == .eq

theorem agrees_of_lt {position : UInt64} (inside : position.toNat < xs.size) :
    agrees xs target position = (compare xs[position.toNat] target == .eq) := by
  rw [agrees, Array.getElem?_eq_getElem inside, Option.any_some]

theorem agrees_iff {position : UInt64} : agrees xs target position ↔
    ∃ inside : position.toNat < xs.size, compare xs[position.toNat] target = .eq := by
  constructor
  · intro h
    rcases Nat.lt_or_ge position.toNat xs.size with inside | hge
    · rw [agrees_of_lt inside, beq_iff_eq] at h
      exact ⟨inside, h⟩
    · simp [agrees, Array.getElem?_eq_none hge] at h
  · rintro ⟨inside, heq⟩
    rw [agrees_of_lt inside, heq]
    rfl

variable [BEq α] {lo hi : Nat} {r : Run}

/-- The last argument is the search of the positions from `lo` up to but not including `hi`. -/
inductive Trace (xs : Array α) (target : α) : Nat → Nat → Run → Prop
  | done {lo : Nat} : lo ≤ xs.size → Trace xs target lo lo (.stop (.ok none))
  | hit {lo hi : Nat} {mid : UInt64} (inside : mid.toNat < xs.size) :
    Halved xs.size lo mid.toNat hi → compare xs[mid.toNat] target = .eq →
    Trace xs target lo hi (hit xs target mid)
  | upper {lo hi : Nat} {mid : UInt64} {rest : Run} (inside : mid.toNat < xs.size) :
    Halved xs.size lo mid.toNat hi → compare xs[mid.toNat] target = .lt →
    Trace xs target (mid.toNat + 1) hi rest → Trace xs target lo hi (.after mid rest)
  | lower {lo hi : Nat} {mid : UInt64} {rest : Run} (inside : mid.toNat < xs.size) :
    Halved xs.size lo mid.toNat hi → compare xs[mid.toNat] target = .gt →
    Trace xs target lo mid.toNat rest → Trace xs target lo hi (.after mid rest)

theorem trace_scan (fits : xs.size < UInt64.size) (w : Window) (h : w.Inside xs.size) :
    Trace xs target w.low.toNat (w.high.toNat + 1) (scan xs target w.low w.high) := by
  induction hn : w.width using Nat.strongRecOn generalizing w with
  | _ n ih =>
    subst hn
    have narrower : ∀ {probe next}, turn xs target w = .narrowed probe next →
        Trace xs target next.low.toNat (next.high.toNat + 1) (scan xs target next.low next.high) :=
      fun hturn =>
        have ⟨hin, hwidth⟩ := inside_and_width_lt_of_narrowed fits h hturn
        ih _ hwidth _ hin rfl
    have turned : Turned xs target w (turn xs target w) := turned_turn fits h
    rw [scan_eq]
    cases hturn : turn xs target w with
    | ended rest =>
      rw [hturn] at turned
      cases turned with
      | closed hlt =>
        have hlow : w.low.toNat = w.high.toNat + 1 := by
          have := h.low_le
          have := UInt64.lt_iff_toNat_lt.1 hlt
          omega
        rw [hlow]
        exact .done h.high_lt
      | hit inside hhalf hcmp => exact .hit inside hhalf hcmp
      | front inside hhalf hcmp hzero =>
        -- The window below position 0 is the empty range before it.
        have hlow : w.low.toNat = _ := Nat.le_antisymm hhalf.low_le (by omega)
        refine .lower inside hhalf hcmp ?_
        rw [hlow]
        exact .done (Nat.le_of_lt inside)
    | narrowed probe next =>
      have rest := narrower hturn
      rw [hturn] at turned
      cases turned with
      | upper inside hhalf hcmp hnext => exact .upper inside hhalf hcmp (hnext ▸ rest)
      | lower inside hhalf hcmp hnext => exact .lower inside hhalf hcmp (hnext ▸ rest)

/-- The search of a sequence goes over all its positions. -/
theorem trace_run (fits : xs.size < UInt64.size) : Trace xs target 0 xs.size (run xs target) := by
  unfold run
  by_cases hempty : xs.size = 0
  · rw [if_pos (by simpa using hempty), hempty]
    exact .done (Nat.zero_le _)
  · rw [if_neg (by simpa using hempty)]
    obtain ⟨last, hsub, hlast⟩ := Word.exists_last fits hempty
    have trace : Trace xs target _ _ (scan xs target 0 last) :=
      trace_scan fits ⟨0, last⟩ (Window.inside_whole hlast)
    rw [hsub]
    rwa [hlast] at trace

/-! ### Probes and outcome -/

/-- Every probe lies in the range that is searched. -/
theorem Trace.mem_probes (trace : Trace xs target lo hi r) :
    ∀ probe ∈ r.probes, lo ≤ probe.toNat ∧ probe.toNat < hi := by
  induction trace with
  | done => simp
  | hit inside hhalf => simpa [Search.hit] using ⟨hhalf.low_le, hhalf.lt_high⟩
  | upper inside hhalf _ _ ih =>
    intro probe hprobe
    rcases List.mem_cons.1 hprobe with rfl | hrest
    · exact ⟨hhalf.low_le, hhalf.lt_high⟩
    · exact (ih probe hrest).imp_left fun h => Nat.le_trans hhalf.low_le (Nat.le_of_succ_le h)
  | lower inside hhalf _ _ ih =>
    intro probe hprobe
    rcases List.mem_cons.1 hprobe with rfl | hrest
    · exact ⟨hhalf.low_le, hhalf.lt_high⟩
    · exact (ih probe hrest).imp_right fun h => Nat.lt_trans h hhalf.lt_high

/-- The first probe that compares equal decides, and there is none where the target is not found. -/
theorem Trace.outcome_eq (trace : Trace xs target lo hi r) :
    r.outcome = match r.probes.find? (agrees xs target) with
      | none => .ok none
      | some position => (Contract.checkHit xs target position).map fun _ => some position := by
  induction trace with
  | done => rfl
  | hit inside _ hcmp => simp [Search.hit, agrees_of_lt inside, hcmp]
  | upper inside _ hcmp _ ih => simp [agrees_of_lt inside, hcmp, ih]
  | lower inside _ hcmp _ ih => simp [agrees_of_lt inside, hcmp, ih]

/-- Where equality agrees with the order, the answer is the first probe that compares equal. -/
theorem position_eq_find? [Std.LawfulBEqOrd α] (fits : xs.size < UInt64.size) :
    position xs target = .ok ((run xs target).probes.find? (agrees xs target)) := by
  rw [position, (trace_run fits).outcome_eq]
  cases hfind : (run xs target).probes.find? (agrees xs target) with
  | none => rfl
  | some index =>
    obtain ⟨inside, heq⟩ := agrees_iff.1 (List.find?_some hfind)
    rw [Std.compare_eq_iff_beq] at heq
    simp only [Contract.checkHit_of_lt inside, if_pos heq]
    rfl

end Seek.Search
