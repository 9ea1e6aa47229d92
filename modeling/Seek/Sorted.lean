import Seek.Element
import Seek.Refusal
import Seek.Search

/-!
Sorted sequences: sequences that were found to be in order, or were put in order, before they are
held. A sequence is in order when no element is above the one after it. There are two ways in:
`validate` takes a sequence as it is, and refuses one that has a descent; `sort` moves the elements,
and leaves equal ones in the order in which they came.
-/

namespace Seek

/-- A sequence in order. -/
structure Sorted (α : Type) where
  items : Array α
  deriving Repr

namespace Sorted

variable {α : Type}

/-- The sequence without elements. -/
def empty : Sorted α := ⟨#[]⟩

instance : Inhabited (Sorted α) := ⟨empty⟩

/-- Sequences are equal when their elements are, one by one. -/
instance [BEq α] : BEq (Sorted α) := ⟨fun a b => a.items == b.items⟩

/-! ### Two ways in -/

/-- The first position whose element is above the one after it. -/
def firstDescent [Ord α] (xs : Array α) : Option Nat :=
  (Contract.neighbours xs).findIdx? fun pair => (compare pair.1 pair.2).isGT

/-- The sequence as it is, unless it has a descent. -/
def validate [Ord α] (xs : Array α) : Except Refusal (Sorted α) :=
  match firstDescent xs with
  | some position => .error (.unsorted (.ofNat position))
  | none => .ok ⟨xs⟩

/-- The elements in order, equal ones as they came. -/
def arrange [Ord α] (xs : Array α) : Array α :=
  (xs.toList.mergeSort fun a b => (compare a b).isLE).toArray

/-- The sequence put in order. -/
def sort [Ord α] (xs : Array α) : Checked (Sorted α) := do
  let items := arrange xs
  Contract.checkSorted items
  return ⟨items⟩

/-! ### Growing -/

/-- The held elements and then `xs`, as they are, unless that has a descent. -/
def append [Ord α] (held : Sorted α) (xs : Array α) : Except Refusal (Sorted α) :=
  validate (held.items ++ xs)

/-- The held elements and then `xs`, put in order. -/
def merge [Ord α] (held : Sorted α) (xs : Array α) : Checked (Sorted α) :=
  sort (held.items ++ xs)

/-! ### Questions -/

/-- A position that holds the target, by binary search. -/
def position [Ord α] [BEq α] (held : Sorted α) (target : α) : Checked (Option UInt64) :=
  Search.position held.items target

/-- The position as a signed number, `Search.notFound` for none. -/
def index [Ord α] [BEq α] (held : Sorted α) (target : α) : Checked Int64 :=
  (held.position target).map Search.signed

/-- Some element equals the target, by looking at them all. -/
def contains [BEq α] (held : Sorted α) (target : α) : Bool := held.items.any (· == target)

/-- The sequence as a record. -/
def record [Shown α] (held : Sorted α) : String :=
  s!"SortedSequence \x7b items: {shownList held.items.toList} \x7d"

end Sorted

end Seek
