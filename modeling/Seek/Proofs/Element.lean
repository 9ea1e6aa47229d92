import Seek.Element

/-!
The laws of elements. The order of every kind of element is a total preorder, and equality agrees
with it for every kind but `Tagged`, of which two elements may compare equal and still differ.
-/

namespace Seek

instance instTransOrdUnit : Std.TransOrd Unit where
  eq_swap := rfl
  isLE_trans := fun _ _ => rfl

instance instLawfulBEqOrdUnit : Std.LawfulBEqOrd Unit where
  compare_eq_iff_beq := ⟨fun _ => rfl, fun _ => rfl⟩

section Pair

variable {α β : Type} [Ord α] [Ord β]

instance instTransOrdPair [Std.TransOrd α] [Std.TransOrd β] : Std.TransOrd (α × β) :=
  inferInstanceAs (Std.TransCmp (compareLex (compareOn Prod.fst) (compareOn Prod.snd)))

instance instLawfulBEqOrdPair [BEq α] [BEq β] [Std.LawfulBEqOrd α] [Std.LawfulBEqOrd β] :
    Std.LawfulBEqOrd (α × β) where
  compare_eq_iff_beq := by
    rintro ⟨a, b⟩ ⟨c, d⟩
    change (compare a c).then (compare b d) = .eq ↔ (a == c && b == d) = true
    rw [Ordering.then_eq_eq, Bool.and_eq_true, Std.compare_eq_iff_beq, Std.compare_eq_iff_beq]

end Pair

section Descending

variable {α : Type} [Ord α]

instance [Std.TransOrd α] : Std.TransOrd (Descending α) where
  eq_swap := Std.OrientedOrd.eq_swap (α := α)
  isLE_trans := fun hab hbc => Std.TransOrd.isLE_trans (α := α) hbc hab

instance [DecidableEq α] [Std.OrientedOrd α] [Std.LawfulEqOrd α] :
    Std.LawfulBEqOrd (Descending α) where
  compare_eq_iff_beq := by
    rintro ⟨a⟩ ⟨b⟩
    change compare b a = .eq ↔ _
    rw [Std.LawfulEqOrd.compare_eq_iff_eq, beq_iff_eq, Descending.mk.injEq]
    exact eq_comm

end Descending

instance : Std.TransOrd Keyed := inferInstanceAs (Std.TransCmp (compareOn Keyed.key))

instance : Std.LawfulBEqOrd Keyed where
  compare_eq_iff_beq := fun {a b} => Std.compare_eq_iff_beq (a := a.key) (b := b.key)

instance : Std.TransOrd Tagged := inferInstanceAs (Std.TransCmp (compareOn Tagged.key))

end Seek
