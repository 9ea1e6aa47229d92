import Seek.Contract
import Seek.Run
import Seek.Window

/-!
Binary search that records its probes. The window is inclusive and holds every position that is
still open; the element in its middle is compared with the target, and a hit ends the search, an
element below the target drops the lower half and an element above it the upper half. Nothing is
assumed of the sequence: on one that is out of order the same probes are made and the answer is
whatever they show. All arithmetic is checked, and a hit is checked against its contract.
-/

namespace Seek.Search

variable {α : Type}

/-- Searches the window `low..high`. -/
def scan [Ord α] [BEq α] (xs : Array α) (target : α) (low high : UInt64) : Run :=
  if low ≤ high then
    match hmid : midpoint low high with
    | .error fault => .stop (.error fault)
    | .ok mid =>
      if inside : mid.toNat < xs.size then
        .after mid <|
          match compare xs[mid.toNat] target with
          | .eq => .stop ((Contract.checkHit xs target mid).map fun _ => some mid)
          | .lt =>
            match hnext : Word.add mid 1 with
            | .error fault => .stop (.error fault)
            | .ok next => scan xs target next high
          | .gt =>
            if mid = 0 then .stop (.ok none)
            else
              match hnext : Word.sub mid 1 with
              | .error fault => .stop (.error fault)
              | .ok next => scan xs target low next
      else .stop (.error (.readBeyondEnd mid (Word.size xs)))
  else .stop (.ok none)
termination_by high.toNat + 1 - low.toNat
decreasing_by
  all_goals
    have hin := le_and_le_of_midpoint hmid
    first
    | have hup := Word.add_eq_ok_iff.1 hnext
      simp only [UInt64.reduceToNat] at hup
      omega
    | have hdown := Word.sub_eq_ok_iff.1 hnext
      simp only [UInt64.reduceToNat] at hdown
      omega

/-- Searches the whole sequence. -/
def run [Ord α] [BEq α] (xs : Array α) (target : α) : Run :=
  if xs.isEmpty then .stop (.ok none)
  else
    match Word.sub (Word.size xs) 1 with
    | .error fault => .stop (.error fault)
    | .ok last => scan xs target 0 last

/-- A position that holds the target, if the probes come across one. -/
def position [Ord α] [BEq α] (xs : Array α) (target : α) : Checked (Option UInt64) :=
  (run xs target).outcome

/-- The number that stands for an absent target. -/
def notFound : Int64 := -1

/-- A position as a signed number, with `notFound` for none. -/
def signed : Option UInt64 → Int64
  | some index => index.toInt64
  | none => notFound

/-- The position as a signed number, or `notFound`. -/
def index [Ord α] [BEq α] (xs : Array α) (target : α) : Checked Int64 :=
  (position xs target).map signed

end Seek.Search
