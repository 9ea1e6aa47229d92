import Seek.Run
import Seek.Word

/-!
The bounded algorithms: search and pair sum once more, written to be unrolled. A bounded proof tries
every sequence up to a fixed length, so it needs the search as a state and a single turn of a loop,
and the pair sum as a walk over positions. Nothing here is shared with the algorithms that answer
questions; that the two agree is a statement about both.
-/

namespace Seek.Bounded

variable {α : Type}

/-- The longest sequence that bounded proofs try. -/
def maxLength : Nat := 8

/-! ### Search -/

/-- The middle of the window `low..high`, rounded down. -/
def midpoint (low high : UInt64) : Checked UInt64 :=
  if high < low then .error (.reversedWindow low high)
  else do Word.add low ((← Word.sub high low) / 2)

/-- A hit lies in the sequence and equals the target, as one test. -/
def checkHit [BEq α] (xs : Array α) (target : α) (index : UInt64) : Checked Unit :=
  if xs[index.toNat]?.any (· == target) then .ok () else .error .hitRefuted

/-- A search between two probes: the window that is still open, and the probes made, latest
first. -/
structure State where
  low : UInt64
  high : UInt64
  made : List UInt64
  deriving DecidableEq, Repr

/-- The size of the open window. -/
def State.width (s : State) : Nat := s.high.toNat + 1 - s.low.toNat

/-- The run of a search that ends in this state. -/
def State.finish (s : State) (outcome : Checked (Option UInt64)) : Run := ⟨s.made.reverse, outcome⟩

/-- What one turn of the loop comes to: the end of the search, or a smaller window. -/
inductive Turn where
  | ended (run : Run)
  | narrowed (next : State)

/-- The window that is left after the element at `mid` compared as `order` with the target. -/
def State.narrow (s : State) (mid : UInt64) : Ordering → Checked (Option State)
  | .eq => .ok none
  | .lt => do return some { s with low := ← Word.add mid 1 }
  | .gt => if mid = 0 then .ok none else do return some { s with high := ← Word.sub mid 1 }

/-- One turn of the loop. -/
def turn [Ord α] [BEq α] (xs : Array α) (target : α) (s : State) : Turn :=
  if s.high < s.low then .ended (s.finish (.ok none))
  else
    match midpoint s.low s.high with
    | .error fault => .ended (s.finish (.error fault))
    | .ok mid =>
      match xs[mid.toNat]? with
      | none => .ended (s.finish (.error (.readBeyondEnd mid (Word.size xs))))
      | some element =>
        let order := compare element target
        let probed := { s with made := mid :: s.made }
        match probed.narrow mid order with
        | .error fault => .ended (probed.finish (.error fault))
        | .ok (some next) => .narrowed next
        | .ok none =>
          .ended <| probed.finish <|
            if order = .eq then (checkHit xs target mid).map fun _ => some mid else .ok none

theorem le_and_le_of_midpoint {low high mid : UInt64} (h : midpoint low high = .ok mid) :
    low.toNat ≤ mid.toNat ∧ mid.toNat ≤ high.toNat := by
  unfold midpoint at h
  split at h
  · cases h
  · cases hsub : Word.sub high low with
    | error => rw [hsub] at h; cases h
    | ok width =>
      rw [hsub] at h
      have hwidth := Word.sub_eq_ok_iff.1 hsub
      have hmid := Word.add_eq_ok_iff.1 h
      rw [UInt64.toNat_div] at hmid
      simp only [UInt64.reduceToNat] at hmid
      omega

theorem State.width_narrow {s next : State} {mid : UInt64} {order : Ordering}
    (hlow : s.low.toNat ≤ mid.toNat) (hhigh : mid.toNat ≤ s.high.toNat)
    (h : s.narrow mid order = .ok (some next)) : next.width < s.width := by
  cases order with
  | eq => cases h
  | lt =>
    cases hadd : Word.add mid 1 with
    | error => simp only [narrow, hadd, bind, Except.bind] at h; cases h
    | ok low =>
      have hlow' := Word.add_eq_ok_iff.1 hadd
      simp only [UInt64.reduceToNat] at hlow'
      simp only [narrow, hadd, bind, Except.bind, pure, Except.pure, Except.ok.injEq,
        Option.some.injEq] at h
      subst h
      simp only [width]
      omega
  | gt =>
    simp only [narrow] at h
    split at h
    · cases h
    · cases hsub : Word.sub mid 1 with
      | error => simp only [hsub, bind, Except.bind] at h; cases h
      | ok high =>
        have hhigh' := Word.sub_eq_ok_iff.1 hsub
        simp only [UInt64.reduceToNat] at hhigh'
        simp only [hsub, bind, Except.bind, pure, Except.pure, Except.ok.injEq,
          Option.some.injEq] at h
        subst h
        simp only [width]
        omega

/-- Every turn that does not end the search makes the window smaller. -/
theorem width_turn [Ord α] [BEq α] {xs : Array α} {target : α} {s next : State}
    (h : turn xs target s = .narrowed next) : next.width < s.width := by
  unfold turn at h
  split at h
  · cases h
  · split at h
    · cases h
    · rename_i mid hmid
      have hin := le_and_le_of_midpoint hmid
      split at h
      · cases h
      · dsimp only at h
        split at h
        · cases h
        · rename_i hnarrow
          cases h
          exact State.width_narrow (s := { s with made := mid :: s.made }) hin.1 hin.2 hnarrow
        · cases h

/-- Takes turns until the search ends. -/
def loop [Ord α] [BEq α] (xs : Array α) (target : α) (s : State) : Run :=
  match _h : turn xs target s with
  | .ended run => run
  | .narrowed next => loop xs target next
termination_by s.width
decreasing_by exact width_turn _h

/-- Searches the whole sequence. -/
def search [Ord α] [BEq α] (xs : Array α) (target : α) : Run :=
  if xs.isEmpty then .stop (.ok none)
  else
    match Word.sub (Word.size xs) 1 with
    | .error fault => .stop (.error fault)
    | .ok last => loop xs target ⟨0, last, []⟩

/-! ### Pair sum -/

/-- The first position after `i` that holds `needed`. -/
def partner (xs : Array Int32) (needed : Int64) (i : Nat) : Option Nat :=
  (List.range' (i + 1) (xs.size - (i + 1))).find? fun j =>
    xs[j]?.any fun value => value.toInt64 == needed

/-- Tries the positions of `rows` in turn as the first of a pair. -/
def pairSumFrom (xs : Array Int32) (target : Int32) :
    List Nat → Checked (Option (UInt64 × UInt64))
  | [] => .ok none
  | i :: rows =>
    match xs[i]? with
    | none => .error (.readBeyondEnd (.ofNat i) (Word.size xs))
    | some value => do
      match partner xs (← Word.subSigned target.toInt64 value.toInt64) i with
      | some j => return some (.ofNat i, .ofNat j)
      | none => pairSumFrom xs target rows

/-- The first pair of positions, in the order of the walk, whose values sum to `target`. -/
def pairSum (xs : Array Int32) (target : Int32) : Checked (Option (UInt64 × UInt64)) :=
  pairSumFrom xs target (List.range xs.size)

end Seek.Bounded
