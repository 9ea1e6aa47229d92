/-!
Refusals: the answers that say no. A refusal is an ordinary answer of the library, unlike a fault.
-/

namespace Seek

/-- Why there is no result. -/
inductive Refusal where
  /-- No two positions hold values that sum to the target. -/
  | noSolution
  /-- The element at `position` is above the one after it. -/
  | unsorted (position : UInt64)
  deriving DecidableEq, Repr

namespace Refusal

/-- The refusal in words. -/
def message : Refusal → String
  | .noSolution => "no two sum solution"
  | .unsorted position => s!"sequence not sorted at position {position}"

instance : ToString Refusal := ⟨message⟩

/-- The refusal as a record, with its fields by name. -/
def record : Refusal → String
  | .noSolution => "NoSolution"
  | .unsorted position => s!"Unsorted \x7b position: {position} \x7d"

end Refusal

end Seek
