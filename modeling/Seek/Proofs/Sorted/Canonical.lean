import Seek.Proofs.Search.Alike
import Seek.Proofs.Sorted.Rank
import Seek.Proofs.Sorted.Stable

/-!
Sorting as a canonical form. Equal elements may differ, so two sequences with the same values need
not become the same sequence when they are put in order. They become equal ones, element by element
(`beq_iff_count`): the first elements of two lists in order with the same counts are each not above
the other. Main statement: two sequences are equal once they are put in order exactly if each value
is in both equally often, and what is equal answers every question in the same way.
-/

namespace Seek

variable {α : Type} [BEq α]

/-! ### Counts -/

/-- Lists that are equal element by element have each value equally often. -/
theorem count_eq_of_beq [EquivBEq α] {l m : List α} (h : (l == m) = true) (x : α) :
    l.count x = m.count x := by
  induction l generalizing m with
  | nil =>
    cases m with
    | nil => rfl
    | cons b m => simp at h
  | cons a l ih =>
    cases m with
    | nil => simp at h
    | cons b m =>
      obtain ⟨hab, hlm⟩ : (a == b) = true ∧ (l == m) = true := by simpa using h
      rw [List.count_cons, List.count_cons, ih hlm, BEq.congr_left hab]

theorem Sorted.beq_iff {a b : Sorted α} :
    (a == b) = true ↔ (a.items.toList == b.items.toList) = true := by
  rw [Array.beq_toList]
  rfl

variable [Ord α] [Std.TransOrd α] [Std.LawfulBEqOrd α]

/-- A list that has each value as often as one with `b` in it has an element equal to `b`. -/
theorem exists_mem_of_count {l m : List α} (h : ∀ x, l.count x = m.count x) {b : α} (hb : b ∈ m) :
    ∃ y ∈ l, compare y b = .eq := by
  have hpos : 0 < l.countP (· == b) := by
    change 0 < l.count b
    rw [h b]
    exact List.countP_pos_iff.2 ⟨b, hb, BEq.rfl⟩
  obtain ⟨y, hy, hyb⟩ := List.countP_pos_iff.1 hpos
  exact ⟨y, hy, Std.compare_eq_iff_beq.2 hyb⟩

/-- Lists in order that have each value equally often are equal element by element. -/
theorem beq_of_count {l m : List α} (hl : l.Pairwise fun a b => (compare a b).isLE)
    (hm : m.Pairwise fun a b => (compare a b).isLE) (h : ∀ x, l.count x = m.count x) :
    (l == m) = true := by
  induction l generalizing m with
  | nil =>
    cases m with
    | nil => rfl
    | cons b m =>
      obtain ⟨y, hy, -⟩ := exists_mem_of_count h List.mem_cons_self
      exact absurd hy List.not_mem_nil
  | cons a l ih =>
    obtain ⟨y, hy, hya⟩ := exists_mem_of_count (fun x => (h x).symm) List.mem_cons_self
    cases m with
    | nil => exact absurd hy List.not_mem_nil
    | cons b m =>
      obtain ⟨z, hz, hzb⟩ := exists_mem_of_count h List.mem_cons_self
      have hab := isLE_of_mem_cons_of_eq hl hz hzb
      have hba := isLE_of_mem_cons_of_eq hm hy hya
      have hbeq := Std.compare_eq_iff_beq.1 (Std.OrientedCmp.isLE_antisymm hab hba)
      have hrest (x : α) : l.count x = m.count x := by
        have hx := h x
        rw [List.count_cons, List.count_cons, BEq.congr_left hbeq] at hx
        exact Nat.add_right_cancel hx
      rw [List.cons_beq_cons, hbeq, ih hl.of_cons hm.of_cons hrest]
      rfl

namespace Sorted

theorem arrange_beq_iff {xs ys : Array α} :
    ((⟨arrange xs⟩ : Sorted α) == ⟨arrange ys⟩) = true ↔ ∀ x, xs.count x = ys.count x := by
  have hcount (zs : Array α) (x : α) : (arrange zs).toList.count x = zs.count x := by
    rw [Array.count_toList]
    exact countP_arrange zs (· == x)
  rw [beq_iff]
  constructor
  · intro h x
    rw [← hcount xs, ← hcount ys]
    exact count_eq_of_beq h x
  · intro h
    refine beq_of_count (inOrder_arrange xs) (inOrder_arrange ys) fun x => ?_
    rw [hcount, hcount]
    exact h x

/-! ### Questions -/

/-- Equal sequences are searched alike. -/
theorem position_eq_of_beq {a b : Sorted α} (h : (a == b) = true) (target : α) :
    a.position target = b.position target := by
  obtain ⟨hsize, hget⟩ := Array.isEqv_iff_rel.1 h
  refine congrArg Run.outcome (Search.run_eq_of_alike hsize fun probe _ hb ha => ?_)
  exact (Std.TransCmp.congr_left (Std.compare_eq_iff_beq.2 (hget probe.toNat ha))).symm

/-- Of equal sequences, both have an element that equals the target, or neither has one. -/
theorem contains_eq_of_beq {a b : Sorted α} (h : (a == b) = true) (target : α) :
    a.contains target = b.contains target := by
  have hcount := count_eq_of_beq (beq_iff.1 h) target
  have hcontains (held : Sorted α) : held.contains target = true ↔
      0 < held.items.toList.count target := by
    rw [Array.count_toList, contains, Array.any_eq_true']
    exact Array.countP_pos_iff.symm
  rw [Bool.eq_iff_iff, hcontains, hcontains, hcount]

/-- Two sequences are equal once they are put in order exactly if each value is in both equally
often. All that is looked up in the one is then found in the other too, and at the same position. -/
theorem sort_canonical (xs ys : Array α) : ∃ a b, sort xs = .ok a ∧ sort ys = .ok b ∧
    ((a == b) = true ↔ ∀ x, xs.count x = ys.count x) ∧
    ((a == b) = true → ∀ target, a.position target = b.position target ∧
      (xs.size < UInt64.size → ∃ answer, a.position target = .ok answer) ∧
      a.contains target = b.contains target) := by
  refine ⟨_, _, sort_eq xs, sort_eq ys, arrange_beq_iff, fun h target => ?_⟩
  refine ⟨position_eq_of_beq h target, fun fits => ?_, contains_eq_of_beq h target⟩
  rw [← size_arrange xs] at fits
  exact ⟨_, Search.position_eq_find? fits⟩

/-- Each key is in both sequences equally often, but with other tags. -/
theorem sort_canonical_keyed :
    (∀ x, (#[⟨2, "a"⟩, ⟨1, "b"⟩, ⟨2, "c"⟩] : Array Keyed).count x =
      (#[⟨1, "d"⟩, ⟨2, "e"⟩, ⟨2, "f"⟩] : Array Keyed).count x) ∧
    ∃ a b, sort (#[⟨2, "a"⟩, ⟨1, "b"⟩, ⟨2, "c"⟩] : Array Keyed) = .ok a ∧
      sort (#[⟨1, "d"⟩, ⟨2, "e"⟩, ⟨2, "f"⟩] : Array Keyed) = .ok b ∧
      a.items ≠ b.items ∧ (a == b) = true ∧
      ∃ answer, a.position ⟨2, "g"⟩ = .ok answer ∧ b.position ⟨2, "g"⟩ = .ok answer := by
  have hfirst : arrange (#[⟨2, "a"⟩, ⟨1, "b"⟩, ⟨2, "c"⟩] : Array Keyed) =
      #[⟨1, "b"⟩, ⟨2, "a"⟩, ⟨2, "c"⟩] := by
    simp +decide [arrange, List.mergeSort]
  have hsecond : arrange (#[⟨1, "d"⟩, ⟨2, "e"⟩, ⟨2, "f"⟩] : Array Keyed) =
      #[⟨1, "d"⟩, ⟨2, "e"⟩, ⟨2, "f"⟩] := by
    simp +decide [arrange, List.mergeSort]
  obtain ⟨a, b, ha, hb, hcount, hquestions⟩ := sort_canonical
    (#[⟨2, "a"⟩, ⟨1, "b"⟩, ⟨2, "c"⟩] : Array Keyed) #[⟨1, "d"⟩, ⟨2, "e"⟩, ⟨2, "f"⟩]
  obtain rfl : (⟨_⟩ : Sorted Keyed) = a := Except.ok.inj ((sort_eq _).symm.trans ha)
  obtain rfl : (⟨_⟩ : Sorted Keyed) = b := Except.ok.inj ((sort_eq _).symm.trans hb)
  rw [hfirst] at ha hcount hquestions
  rw [hsecond] at hb hcount hquestions
  have hbeq : ((⟨#[⟨1, "b"⟩, ⟨2, "a"⟩, ⟨2, "c"⟩]⟩ : Sorted Keyed) ==
      ⟨#[⟨1, "d"⟩, ⟨2, "e"⟩, ⟨2, "f"⟩]⟩) = true := by
    decide
  obtain ⟨hposition, hanswer, -⟩ := hquestions hbeq ⟨2, "g"⟩
  obtain ⟨answer, hfound⟩ := hanswer (by decide)
  exact ⟨hcount.1 hbeq, _, _, ha, hb, by decide, hbeq, answer, hfound, hposition ▸ hfound⟩

end Sorted

end Seek
