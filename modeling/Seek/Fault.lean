/-!
Faults: the ways in which a computation is stopped because something it relies on does not hold.
A fault is no answer. It says that a contract between two parts of the library is broken, or that
a machine word cannot hold a value. `Fault.message` is the one place that puts a fault into words.
-/

namespace Seek

/-- Why a computation was stopped. -/
inductive Fault where
  /-- A window whose lower end lies above its upper end has no middle. -/
  | reversedWindow (low high : UInt64)
  /-- A reported hit lies at or beyond the end of the sequence. -/
  | hitBeyondEnd (index size : UInt64)
  /-- A reported hit holds something other than the target. -/
  | hitDiffers (index : UInt64)
  /-- A reported hit fails the single test of the bounded algorithms. -/
  | hitRefuted
  /-- A sequence promised to be in order has a descent. -/
  | notSorted
  /-- The positions of a pair are equal or the wrong way round. -/
  | pairNotIncreasing (first second : UInt64)
  /-- The second position of a pair lies at or beyond the end of the sequence. -/
  | pairBeyondEnd (second size : UInt64)
  /-- The values at the positions of a pair do not sum to the target. -/
  | sumDiffers (left right target : Int32)
  /-- A position was read at or beyond the end of the sequence. -/
  | readBeyondEnd (index size : UInt64)
  /-- A sum does not fit its word. -/
  | additionOverflow
  /-- A difference does not fit its word. -/
  | subtractionOverflow
  deriving DecidableEq, Repr

/-- A computation that a fault may stop. -/
abbrev Checked (α : Type) := Except Fault α

/-- Answers of checked computations can be compared. -/
instance {α : Type} [DecidableEq α] : DecidableEq (Checked α)
  | .ok a, .ok b => decidable_of_iff (a = b) (by simp)
  | .error e, .error f => decidable_of_iff (e = f) (by simp)
  | .ok _, .error _ => isFalse (by simp)
  | .error _, .ok _ => isFalse (by simp)

/-- The fault in words. -/
def Fault.message : Fault → String
  | .reversedWindow low high => s!"midpoint called with low {low} > high {high}"
  | .hitBeyondEnd index size =>
    s!"Contract violation: search hit {index} >= sequence.len() {size}"
  | .hitDiffers index => s!"Contract violation: sequence[{index}] does not equal the target"
  | .hitRefuted => "assertion failed: index < sequence.len() && sequence[index] == *target"
  | .notSorted => "Contract violation: sequence is not sorted"
  | .pairNotIncreasing first second =>
    s!"Contract violation: pair ({first}, {second}) is not strictly increasing"
  | .pairBeyondEnd second size =>
    s!"Contract violation: pair index {second} >= sequence.len() {size}"
  | .sumDiffers left right target => s!"Contract violation: {left} + {right} != {target}"
  | .readBeyondEnd index size =>
    s!"index out of bounds: the len is {size} but the index is {index}"
  | .additionOverflow => "attempt to add with overflow"
  | .subtractionOverflow => "attempt to subtract with overflow"

end Seek
