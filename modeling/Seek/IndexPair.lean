/-!
Pairs of positions, in the order in which they are compared and the three forms in which they are
written: as a list of two numbers, as a record, and as a JSON object.
-/

namespace Seek

/-- Two positions in a sequence. -/
structure IndexPair where
  first : UInt64
  second : UInt64
  deriving DecidableEq, Repr

namespace IndexPair

/-- Pairs are ordered by their first position, and among equal first positions by the second. -/
instance : Ord IndexPair where
  compare a b := (compare a.first b.first).then (compare a.second b.second)

/-- Both positions. -/
def toProd (pair : IndexPair) : UInt64 × UInt64 := (pair.first, pair.second)

/-- The pair as a list of two numbers, such as `[0, 1]`. -/
def display (pair : IndexPair) : String := s!"[{pair.first}, {pair.second}]"

instance : ToString IndexPair := ⟨display⟩

/-- The pair as a record, with its fields by name. -/
def record (pair : IndexPair) : String :=
  s!"IndexPair \x7b first: {pair.first}, second: {pair.second} \x7d"

/-- The pair as a JSON object without spaces, its first position first. -/
def json (pair : IndexPair) : String :=
  s!"\x7b\"first\":{pair.first},\"second\":{pair.second}\x7d"

/-- The pairs from the smallest to the largest. -/
def sort (pairs : List IndexPair) : List IndexPair :=
  pairs.mergeSort fun a b => (compare a b).isLE

end IndexPair

end Seek
