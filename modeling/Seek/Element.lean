import Seek.Text.Quoted

/-!
Elements: the orders and equalities that sequences of one kind or another are searched by, and how
an element is written in a record. `Descending` turns an order around. `Keyed` and `Tagged` both
carry a tag that the order does not see; for `Keyed` equality does not see it either, while for
`Tagged` two elements may compare equal and still differ.
-/

namespace Seek

/-! ### Orders on compound elements -/

/-- All units are equal. -/
instance unitOrd : Ord Unit := ⟨fun _ _ => .eq⟩

/-- Pairs are ordered by their first part, and among equal first parts by the second. -/
instance pairOrd {α β : Type} [Ord α] [Ord β] : Ord (α × β) where
  compare a b := (compare a.1 b.1).then (compare a.2 b.2)

/-- An element whose order is turned around. -/
structure Descending (α : Type) where
  value : α
  deriving DecidableEq, Repr

instance {α : Type} [Ord α] : Ord (Descending α) := ⟨fun a b => compare b.value a.value⟩

/-- A key with a tag that neither the order nor equality sees. -/
structure Keyed where
  key : Int32
  tag : String
  deriving DecidableEq, Repr

instance : Ord Keyed := ⟨fun a b => compare a.key b.key⟩
instance : BEq Keyed := ⟨fun a b => a.key == b.key⟩

/-- A key with a tag that equality sees and the order does not. -/
structure Tagged where
  key : Int32
  tag : String
  deriving DecidableEq, Repr

instance : Ord Tagged := ⟨fun a b => compare a.key b.key⟩

/-! ### Elements in a record -/

/-- Elements with a written form. -/
class Shown (α : Type) where
  /-- The element as a record writes it. -/
  shown : α → String

export Shown (shown)

instance : Shown Int32 := ⟨toString⟩
instance : Shown Int64 := ⟨toString⟩
instance : Shown Bool := ⟨toString⟩
instance : Shown Unit := ⟨fun _ => "()"⟩
instance : Shown Char := ⟨Text.Quoted.quoteChar⟩
instance : Shown String := ⟨Text.Quoted.quote⟩

instance {α β : Type} [Shown α] [Shown β] : Shown (α × β) :=
  ⟨fun pair => s!"({shown pair.1}, {shown pair.2})"⟩

instance {α : Type} [Shown α] : Shown (Option α) where
  shown
    | none => "None"
    | some x => s!"Some({shown x})"

instance {α : Type} [Shown α] : Shown (Descending α) := ⟨fun x => s!"Reverse({shown x.value})"⟩

instance : Shown Keyed :=
  ⟨fun x => s!"Keyed \x7b key: {x.key}, tag: {shown x.tag} \x7d"⟩

instance : Shown Tagged :=
  ⟨fun x => s!"Tagged \x7b key: {x.key}, tag: {shown x.tag} \x7d"⟩

/-- The elements between brackets, with a comma and a space between two. -/
def shownList {α : Type} [Shown α] (xs : List α) : String :=
  "[" ++ String.intercalate ", " (xs.map shown) ++ "]"

instance {α : Type} [Shown α] : Shown (List α) := ⟨shownList⟩

end Seek
