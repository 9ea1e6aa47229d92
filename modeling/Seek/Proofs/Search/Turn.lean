import Seek.Search

/-!
The search as turns of a loop. A turn looks at one window of open positions: it ends the search, or
makes one probe and leaves a smaller window. Main statements: `scan_eq` says that the search is its
turns, one after the other, and `turned_turn` says all that a turn can come to in a window that lies
in the sequence. No operation faults there, whatever the comparisons come to.

Positions and lengths are words, so a sequence has fewer than `UInt64.size` elements: this is what
`fits` says, here and wherever a sequence is searched.
-/

namespace Seek.Search

variable {α : Type}

/-! ### Windows -/

/-- The positions from `low` to `high`, both of them included. -/
structure Window where
  low : UInt64
  high : UInt64
  deriving DecidableEq, Repr

/-- The number of positions in the window. -/
def Window.width (w : Window) : Nat := w.high.toNat + 1 - w.low.toNat

/-- The window lies in a sequence of `size` elements. It may be empty, by one position. -/
structure Window.Inside (w : Window) (size : Nat) : Prop where
  low_le : w.low.toNat ≤ w.high.toNat + 1
  high_lt : w.high.toNat < size

theorem Window.inside_whole {last : UInt64} {size : Nat} (h : last.toNat + 1 = size) :
    Window.Inside ⟨0, last⟩ size :=
  ⟨Nat.zero_le _, Nat.lt_of_lt_of_eq (Nat.lt_succ_self _) h⟩

/-- `mid` is the middle of the window, and nothing that leads to it, or on from it, wraps. -/
structure Window.Middle (w : Window) (size : Nat) (mid : UInt64) : Prop where
  found : midpoint w.low w.high = .ok mid
  half : mid.toNat = (w.low.toNat + w.high.toNat) / 2
  inside : mid.toNat < size
  /-- The two steps that find the middle. -/
  steps : ∃ width, Word.sub w.high w.low = .ok width ∧ width.toNat + w.low.toNat = w.high.toNat ∧
    Word.add w.low (width / 2) = .ok mid
  above : ∃ next, Word.add mid 1 = .ok next ∧ next.toNat = mid.toNat + 1
  below : mid ≠ 0 → ∃ next, Word.sub mid 1 = .ok next ∧ next.toNat + 1 = mid.toNat

theorem Window.Inside.exists_middle {w : Window} {size : Nat} (fits : size < UInt64.size)
    (inside : w.Inside size) (isOpen : w.low ≤ w.high) : ∃ mid, w.Middle size mid := by
  have hle := UInt64.le_iff_toNat_le.1 isOpen
  have hlt := inside.high_lt
  obtain ⟨mid, hmid⟩ := exists_midpoint isOpen
  have half := (midpoint_eq_ok_iff.1 hmid).2
  refine ⟨mid, hmid, half, by omega, ?_, Word.exists_add ?_, fun hne => Word.exists_sub ?_⟩
  · obtain ⟨width, hsub, hwidth⟩ := Word.exists_sub hle
    refine ⟨width, hsub, hwidth, Word.add_eq_ok_iff.2 ?_⟩
    simp only [UInt64.toNat_div, UInt64.reduceToNat]
    omega
  · simp only [UInt64.reduceToNat]
    omega
  · have hpos : mid.toNat ≠ 0 := fun h => hne (UInt64.toNat_inj.1 h)
    simp only [UInt64.reduceToNat]
    omega

/-! ### Turns -/

/-- What a turn of the loop comes to: the rest of the search, or a probe and a smaller window. -/
inductive Turn where
  | ended (rest : Run)
  | narrowed (probe : UInt64) (next : Window)

/-- The end of a search at a position whose element compares equal to the target. -/
def hit [BEq α] (xs : Array α) (target : α) (mid : UInt64) : Run :=
  .after mid (.stop ((Contract.checkHit xs target mid).map fun _ => some mid))

theorem outcome_hit_ne_none [BEq α] {xs : Array α} {target : α} (mid : UInt64) :
    (hit xs target mid).outcome ≠ .ok none := by
  rw [hit, Run.outcome_after, Run.outcome_stop]
  cases Contract.checkHit xs target mid <;> simp [Except.map]

/-- One turn of the loop. -/
def turn [Ord α] [BEq α] (xs : Array α) (target : α) (w : Window) : Turn :=
  if w.low ≤ w.high then
    match midpoint w.low w.high with
    | .error fault => .ended (.stop (.error fault))
    | .ok mid =>
      if inside : mid.toNat < xs.size then
        match compare xs[mid.toNat] target with
        | .eq => .ended (hit xs target mid)
        | .lt =>
          match Word.add mid 1 with
          | .error fault => .ended (.after mid (.stop (.error fault)))
          | .ok next => .narrowed mid { w with low := next }
        | .gt =>
          if mid = 0 then .ended (.after mid (.stop (.ok none)))
          else
            match Word.sub mid 1 with
            | .error fault => .ended (.after mid (.stop (.error fault)))
            | .ok next => .narrowed mid { w with high := next }
      else .ended (.stop (.error (.readBeyondEnd mid (Word.size xs))))
  else .ended (.stop (.ok none))

/-- The search takes turns until one ends it. -/
theorem scan_eq [Ord α] [BEq α] (xs : Array α) (target : α) (w : Window) :
    scan xs target w.low w.high = match turn xs target w with
      | .ended rest => rest
      | .narrowed probe next => .after probe (scan xs target next.low next.high) := by
  rw [scan]
  unfold turn hit
  by_cases isOpen : w.low ≤ w.high
  · simp only [if_pos isOpen]
    cases midpoint w.low w.high with
    | error fault => rfl
    | ok mid =>
      by_cases inside : mid.toNat < xs.size
      · simp only [dif_pos inside]
        cases compare xs[mid.toNat] target with
        | eq => rfl
        | lt => cases Word.add mid 1 <;> rfl
        | gt =>
          by_cases hzero : mid = 0
          · simp only [if_pos hzero]
          · simp only [if_neg hzero]
            cases Word.sub mid 1 <;> rfl
      · simp only [dif_neg inside]
  · simp only [if_neg isOpen]

/-- A turn that goes on has probed the middle, and goes on next to it on one side. -/
theorem cases_of_narrowed [Ord α] [BEq α] {xs : Array α} {target : α} {w next : Window}
    {probe : UInt64} (hturn : turn xs target w = .narrowed probe next) :
    midpoint w.low w.high = .ok probe ∧
      (Word.add probe 1 = .ok next.low ∧ next.high = w.high ∨
        Word.sub probe 1 = .ok next.high ∧ next.low = w.low) := by
  revert hturn
  -- Of all that a turn can come to, only a word next to the middle leaves a window.
  fun_cases turn xs target w <;> intro hturn <;> cases hturn
  case case4.refl next hmid _ _ hadd => exact ⟨hmid, .inl ⟨hadd, rfl⟩⟩
  case case7.refl next hmid _ _ _ hsub => exact ⟨hmid, .inr ⟨hsub, rfl⟩⟩

/-- The window becomes smaller from turn to turn, whether or not it lies in the sequence. -/
theorem width_lt_of_narrowed [Ord α] [BEq α] {xs : Array α} {target : α} {w next : Window}
    {probe : UInt64} (hturn : turn xs target w = .narrowed probe next) :
    next.width < w.width := by
  obtain ⟨hmid, hside⟩ := cases_of_narrowed hturn
  have hin := le_and_le_of_midpoint hmid
  unfold Window.width
  rcases hside with ⟨hadd, hhigh⟩ | ⟨hsub, hlow⟩
  · have hnext := Word.add_eq_ok_iff.1 hadd
    simp only [UInt64.reduceToNat] at hnext
    rw [hhigh]
    omega
  · have hnext := Word.sub_eq_ok_iff.1 hsub
    simp only [UInt64.reduceToNat] at hnext
    rw [hlow]
    omega

/-- The positions from `lo` up to but not including `hi` are halved at `mid`. -/
structure Halved (size lo mid hi : Nat) : Prop where
  low_le : lo ≤ mid
  lt_high : mid < hi
  high_le : hi ≤ size
  middle : mid = (lo + hi - 1) / 2

/-- All that a turn can come to in a window that lies in the sequence. -/
inductive Turned [Ord α] [BEq α] (xs : Array α) (target : α) (w : Window) : Turn → Prop
  | closed : w.high < w.low → Turned xs target w (.ended (.stop (.ok none)))
  | hit {mid : UInt64} (inside : mid.toNat < xs.size) :
    Halved xs.size w.low.toNat mid.toNat (w.high.toNat + 1) →
    compare xs[mid.toNat] target = .eq → Turned xs target w (.ended (hit xs target mid))
  | upper {mid next : UInt64} (inside : mid.toNat < xs.size) :
    Halved xs.size w.low.toNat mid.toNat (w.high.toNat + 1) →
    compare xs[mid.toNat] target = .lt → next.toNat = mid.toNat + 1 →
    Turned xs target w (.narrowed mid { w with low := next })
  | front {mid : UInt64} (inside : mid.toNat < xs.size) :
    Halved xs.size w.low.toNat mid.toNat (w.high.toNat + 1) →
    compare xs[mid.toNat] target = .gt → mid.toNat = 0 →
    Turned xs target w (.ended (.after mid (.stop (.ok none))))
  | lower {mid next : UInt64} (inside : mid.toNat < xs.size) :
    Halved xs.size w.low.toNat mid.toNat (w.high.toNat + 1) →
    compare xs[mid.toNat] target = .gt → next.toNat + 1 = mid.toNat →
    Turned xs target w (.narrowed mid { w with high := next })

theorem turned_turn [Ord α] [BEq α] {xs : Array α} {target : α} {w : Window}
    (fits : xs.size < UInt64.size) (h : w.Inside xs.size) :
    Turned xs target w (turn xs target w) := by
  by_cases isOpen : w.low ≤ w.high
  · obtain ⟨mid, m⟩ := h.exists_middle fits isOpen
    have inside := m.inside
    have hin := le_and_le_of_midpoint m.found
    have hhalf : Halved xs.size w.low.toNat mid.toNat (w.high.toNat + 1) :=
      ⟨hin.1, by omega, h.high_lt, m.half⟩
    simp only [turn, if_pos isOpen, m.found, dif_pos inside]
    cases hcmp : compare xs[mid.toNat] target with
    | eq => exact .hit inside hhalf hcmp
    | lt =>
      obtain ⟨next, hadd, hnext⟩ := m.above
      simp only [hadd]
      exact .upper inside hhalf hcmp hnext
    | gt =>
      by_cases hzero : mid = 0
      · simp only [if_pos hzero]
        exact .front inside hhalf hcmp (by rw [hzero]; rfl)
      · obtain ⟨next, hsub, hnext⟩ := m.below hzero
        simp only [if_neg hzero, hsub]
        exact .lower inside hhalf hcmp hnext
  · simp only [turn, if_neg isOpen]
    exact .closed (UInt64.not_le.1 isOpen)

/-- A turn that does not end the search leaves a window inside the sequence that is smaller. -/
theorem inside_and_width_lt_of_narrowed [Ord α] [BEq α] {xs : Array α} {target : α}
    {w next : Window} {probe : UInt64} (fits : xs.size < UInt64.size) (h : w.Inside xs.size)
    (hturn : turn xs target w = .narrowed probe next) :
    next.Inside xs.size ∧ next.width < w.width := by
  have hlt := h.high_lt
  have turned : Turned xs target w (turn xs target w) := turned_turn fits h
  refine ⟨?_, width_lt_of_narrowed hturn⟩
  rw [hturn] at turned
  cases turned with
  | upper inside hhalf _ hnext =>
    have := hhalf.lt_high
    exact ⟨by simp only; omega, hlt⟩
  | lower inside hhalf _ hnext =>
    have := hhalf.low_le
    have := hhalf.lt_high
    constructor <;> simp only <;> omega

end Seek.Search
