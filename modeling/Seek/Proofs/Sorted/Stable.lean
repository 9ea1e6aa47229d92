import Seek.Proofs.Element
import Seek.Proofs.Sorted.InOrder

/-!
Stability. Elements that compare equal may still differ, so order alone does not say how a sequence
is to be arranged: what does is order, and in which order ties come (`eq_of_ties`). Putting elements
in order leaves ties as they came (`ties_arrange`). Main statements: what `sort` holds is the only
arrangement of this kind, so it changes nothing that was in order; and a sequence that grows batch
by batch holds what putting all batches in order at once would give.
-/

namespace Seek

variable {α : Type} [Ord α]

/-! ### Ties -/

/-- The elements that compare equal to `x`, in the order in which they come. -/
def ties (x : α) (l : List α) : List α := l.filter fun y => compare y x == .eq

theorem mem_ties_iff {x y : α} {l : List α} : y ∈ ties x l ↔ y ∈ l ∧ compare y x = .eq := by
  rw [ties, List.mem_filter, beq_iff_eq]

theorem ties_append (x : α) (l m : List α) : ties x (l ++ m) = ties x l ++ ties x m :=
  List.filter_append l m

theorem ties_cons (x y : α) (l : List α) :
    ties x (y :: l) = if compare y x = .eq then y :: ties x l else ties x l := by
  simp only [ties, List.filter_cons, beq_iff_eq]

variable [Std.TransOrd α]

/-- Lists with the same ties have the same elements. -/
theorem mem_of_ties {l m : List α} (h : ∀ x, ties x l = ties x m) {y : α} (hy : y ∈ l) : y ∈ m := by
  have hties : y ∈ ties y l := mem_ties_iff.2 ⟨hy, Std.ReflCmp.compare_self⟩
  rw [h] at hties
  exact (mem_ties_iff.1 hties).1

/-- The first element of a list in order is not above any. -/
theorem isLE_of_mem_cons {a y : α} {l : List α}
    (ordered : (a :: l).Pairwise fun a b => (compare a b).isLE) (hy : y ∈ a :: l) :
    (compare a y).isLE := by
  rcases List.mem_cons.1 hy with rfl | hy
  · exact Std.ReflOrd.isLE_rfl
  · exact List.rel_of_pairwise_cons ordered hy

/-- The first element of a list in order is not above any value that is in the list. -/
theorem isLE_of_mem_cons_of_eq {a b y : α} {l : List α}
    (ordered : (a :: l).Pairwise fun a b => (compare a b).isLE) (hy : y ∈ a :: l)
    (hyb : compare y b = .eq) : (compare a b).isLE := by
  rw [← Std.TransCmp.congr_right hyb]
  exact isLE_of_mem_cons ordered hy

/-- A list in order is known from its ties: the first elements of two such lists are ties of one
another, so each comes first among the ties of the other. -/
theorem eq_of_ties {l m : List α} (hl : l.Pairwise fun a b => (compare a b).isLE)
    (hm : m.Pairwise fun a b => (compare a b).isLE) (h : ∀ x, ties x l = ties x m) : l = m := by
  induction l generalizing m with
  | nil =>
    refine (List.eq_nil_iff_forall_not_mem.2 fun y hy => ?_).symm
    exact List.not_mem_nil (mem_of_ties (fun x => (h x).symm) hy)
  | cons a l ih =>
    cases m with
    | nil => exact absurd (mem_of_ties h List.mem_cons_self) List.not_mem_nil
    | cons b m =>
      have hab := isLE_of_mem_cons hl (mem_of_ties (fun x => (h x).symm) List.mem_cons_self)
      have hba := isLE_of_mem_cons hm (mem_of_ties h List.mem_cons_self)
      have hfirst := h a
      rw [ties_cons, ties_cons, if_pos Std.ReflCmp.compare_self,
        if_pos (Std.OrientedCmp.isLE_antisymm hba hab)] at hfirst
      obtain rfl := (List.cons.inj hfirst).1
      refine congrArg (a :: ·) (ih hl.of_cons hm.of_cons fun x => ?_)
      have hx := h x
      rw [ties_cons, ties_cons] at hx
      split at hx
      · exact (List.cons.inj hx).2
      · exact hx

/-! ### Arrangements -/

/-- `ys` holds the elements of `xs` in order, and those that compare equal as they came. -/
structure Arranged (xs ys : Array α) : Prop where
  inOrder : InOrder ys
  perm : ys.toList.Perm xs.toList
  ties : ∀ x, ties x ys.toList = ties x xs.toList

namespace Sorted

/-- Putting a sequence in order leaves ties as they came. -/
theorem ties_arrange (xs : Array α) (x : α) : ties x (arrange xs).toList = ties x xs.toList := by
  have ordered : (ties x xs.toList).Pairwise fun a b => (compare a b).isLE := by
    refine List.pairwise_of_forall_mem_list fun a ha b hb => ?_
    have hxb := Std.OrientedCmp.eq_symm (mem_ties_iff.1 hb).2
    rw [Std.TransCmp.eq_trans (mem_ties_iff.1 ha).2 hxb]
    rfl
  have hsub : (ties x xs.toList).Sublist (arrange xs).toList :=
    List.sublist_mergeSort (fun _ _ _ => Std.TransCmp.isLE_trans) isLE_or_isLE ordered
      List.filter_sublist
  have hties : (ties x xs.toList).Sublist (ties x (arrange xs).toList) := by
    have hkept : ties x (ties x xs.toList) = ties x xs.toList :=
      List.filter_eq_self.2 fun y hy => (List.mem_filter.1 hy).2
    rw [← hkept]
    exact hsub.filter _
  exact (hties.eq_of_length ((arrange_perm xs).symm.filter _).length_eq).symm

theorem arranged_arrange (xs : Array α) : Arranged xs (arrange xs) :=
  ⟨inOrder_arrange xs, arrange_perm xs, ties_arrange xs⟩

/-- There is one arrangement of a sequence. -/
theorem arranged_iff {xs ys : Array α} : Arranged xs ys ↔ ys = arrange xs := by
  constructor
  · rintro ⟨ordered, -, hties⟩
    have heq := eq_of_ties ordered (inOrder_arrange xs) fun x =>
      (hties x).trans (ties_arrange xs x).symm
    exact Array.toList_inj.1 heq
  · rintro rfl
    exact arranged_arrange xs

/-- What is in order stays as it is. -/
theorem arrange_of_inOrder {xs : Array α} (ordered : InOrder xs) : arrange xs = xs :=
  (arranged_iff.1 ⟨ordered, .refl _, fun _ => rfl⟩).symm

theorem sort_of_inOrder {xs : Array α} (ordered : InOrder xs) : sort xs = .ok ⟨xs⟩ := by
  rw [sort_eq, arrange_of_inOrder ordered]

/-- The sequences that can be had: the empty one, and what one of the two ways in lets through. -/
inductive Built : Sorted α → Prop
  | empty : Built .empty
  | validated {xs : Array α} {held : Sorted α} : validate xs = .ok held → Built held
  | sorted {xs : Array α} {held : Sorted α} : sort xs = .ok held → Built held

theorem Built.inOrder {held : Sorted α} (built : Built held) : InOrder held.items := by
  cases built with
  | empty => exact inOrder_empty
  | validated h => exact inOrder_of_validate h
  | sorted h => exact inOrder_of_sort h

/-- Putting elements in order always passes its contract, and gives the one sequence that has the
same elements, is in order, and has ties as they came. So it keeps what `validate` takes, and
changes nothing of a sequence that was built before. -/
theorem sort_unique_arranged :
    (∀ xs : Array α, ∃ held, sort xs = .ok held ∧
      Contract.checkSorted held.items = .ok () ∧ ∀ ys, Arranged xs ys ↔ ys = held.items) ∧
    (∀ (xs : Array α) (held : Sorted α), validate xs = .ok held →
      held.items = xs ∧ sort xs = .ok held) ∧
    (∀ held : Sorted α, Built held → sort held.items = .ok held) := by
  refine ⟨fun xs => ?_, fun xs held hvalid => ?_, fun held built => sort_of_inOrder built.inOrder⟩
  · exact ⟨_, sort_eq xs, checkSorted_eq_ok_iff.2 (inOrder_arrange xs), fun ys => arranged_iff⟩
  · obtain ⟨rfl, ordered⟩ := validate_eq_ok_iff.1 hvalid
    exact ⟨rfl, sort_of_inOrder ordered⟩

/-- Two pairs of elements that compare equal and differ in their tags. -/
theorem sort_unique_arranged_tagged :
    sort (#[⟨2, "a"⟩, ⟨1, "b"⟩, ⟨2, "c"⟩, ⟨1, "d"⟩] : Array Tagged) =
      .ok ⟨#[⟨1, "b"⟩, ⟨1, "d"⟩, ⟨2, "a"⟩, ⟨2, "c"⟩]⟩ ∧
    Arranged (#[⟨2, "a"⟩, ⟨1, "b"⟩, ⟨2, "c"⟩, ⟨1, "d"⟩] : Array Tagged)
      #[⟨1, "b"⟩, ⟨1, "d"⟩, ⟨2, "a"⟩, ⟨2, "c"⟩] ∧
    ¬ Arranged (#[⟨2, "a"⟩, ⟨1, "b"⟩, ⟨2, "c"⟩, ⟨1, "d"⟩] : Array Tagged)
      #[⟨1, "d"⟩, ⟨1, "b"⟩, ⟨2, "a"⟩, ⟨2, "c"⟩] ∧
    validate (#[⟨1, "d"⟩, ⟨1, "b"⟩, ⟨2, "a"⟩, ⟨2, "c"⟩] : Array Tagged) =
      .ok ⟨#[⟨1, "d"⟩, ⟨1, "b"⟩, ⟨2, "a"⟩, ⟨2, "c"⟩]⟩ ∧
    sort (#[⟨1, "d"⟩, ⟨1, "b"⟩, ⟨2, "a"⟩, ⟨2, "c"⟩] : Array Tagged) =
      .ok ⟨#[⟨1, "d"⟩, ⟨1, "b"⟩, ⟨2, "a"⟩, ⟨2, "c"⟩]⟩ ∧
    Built (⟨#[⟨1, "b"⟩, ⟨1, "d"⟩, ⟨2, "a"⟩, ⟨2, "c"⟩]⟩ : Sorted Tagged) ∧
    sort (#[⟨1, "b"⟩, ⟨1, "d"⟩, ⟨2, "a"⟩, ⟨2, "c"⟩] : Array Tagged) =
      .ok ⟨#[⟨1, "b"⟩, ⟨1, "d"⟩, ⟨2, "a"⟩, ⟨2, "c"⟩]⟩ := by
  have harrange : arrange (#[⟨2, "a"⟩, ⟨1, "b"⟩, ⟨2, "c"⟩, ⟨1, "d"⟩] : Array Tagged) =
      #[⟨1, "b"⟩, ⟨1, "d"⟩, ⟨2, "a"⟩, ⟨2, "c"⟩] := by
    simp +decide [arrange, List.mergeSort]
  have hvalid : validate (#[⟨1, "d"⟩, ⟨1, "b"⟩, ⟨2, "a"⟩, ⟨2, "c"⟩] : Array Tagged) =
      .ok ⟨#[⟨1, "d"⟩, ⟨1, "b"⟩, ⟨2, "a"⟩, ⟨2, "c"⟩]⟩ := rfl
  obtain ⟨harranged, hkept, hunchanged⟩ := sort_unique_arranged (α := Tagged)
  obtain ⟨held, hsort, -, hunique⟩ := harranged #[⟨2, "a"⟩, ⟨1, "b"⟩, ⟨2, "c"⟩, ⟨1, "d"⟩]
  obtain rfl : (⟨_⟩ : Sorted Tagged) = held := Except.ok.inj ((sort_eq _).symm.trans hsort)
  rw [harrange] at hsort hunique
  have built := Built.sorted hsort
  exact ⟨hsort, (hunique _).2 rfl, fun h => absurd ((hunique _).1 h) (by decide), hvalid,
    (hkept _ _ hvalid).2, built, hunchanged _ built⟩

/-! ### Batches -/

/-- What is added to elements in order may as well be added before they are put in order. -/
theorem arrange_arrange_append (xs ys : Array α) :
    arrange (arrange xs ++ ys) = arrange (xs ++ ys) := by
  refine arranged_iff.1 ⟨inOrder_arrange _, ?_, fun x => ?_⟩
  · rw [Array.toList_append]
    refine (arrange_perm _).trans ?_
    rw [Array.toList_append]
    exact (arrange_perm xs).append_right ys.toList
  · rw [ties_arrange, Array.toList_append, Array.toList_append, ties_append, ties_append,
      ties_arrange]

theorem merge_arrange (xs ys : Array α) :
    merge ⟨arrange xs⟩ ys = .ok ⟨arrange (xs ++ ys)⟩ := by
  rw [merge, sort_eq, arrange_arrange_append]

/-- Merging batches into `xs` put in order holds what putting all of them in order holds. -/
theorem foldlM_merge_arrange (batches : List (Array α)) (xs : Array α) :
    batches.foldlM merge ⟨arrange xs⟩ = .ok ⟨arrange (xs ++ batches.toArray.flatten)⟩ := by
  induction batches generalizing xs with
  | nil => simp [pure, Except.pure]
  | cons ys batches ih =>
    have hall : xs ++ (ys :: batches).toArray.flatten = xs ++ ys ++ batches.toArray.flatten :=
      Array.toList_inj.1 (by simp)
    rw [List.foldlM_cons, merge_arrange, hall]
    exact ih (xs ++ ys)

/-- Merging batches one after another, from the empty sequence, always succeeds, and holds element
for element what putting all of them in order at once holds. -/
theorem foldlM_merge_eq_sort (batches : List (Array α)) :
    ∃ held, sort batches.toArray.flatten = .ok held ∧ batches.foldlM merge .empty = .ok held := by
  have hempty : (⟨arrange #[]⟩ : Sorted α) = .empty := by rw [arrange_of_inOrder inOrder_empty]; rfl
  have hmerged := foldlM_merge_arrange batches #[]
  rw [hempty, Array.empty_append] at hmerged
  exact ⟨_, sort_eq _, hmerged⟩

/-- Three batches, one of them empty, with elements that compare equal across batches. -/
theorem foldlM_merge_eq_sort_tagged :
    [#[⟨2, "a"⟩, ⟨1, "b"⟩], #[], (#[⟨1, "c"⟩, ⟨2, "d"⟩, ⟨1, "e"⟩] : Array Tagged)].foldlM merge
      .empty = .ok ⟨#[⟨1, "b"⟩, ⟨1, "c"⟩, ⟨1, "e"⟩, ⟨2, "a"⟩, ⟨2, "d"⟩]⟩ := by
  have harrange : arrange (#[⟨2, "a"⟩, ⟨1, "b"⟩, ⟨1, "c"⟩, ⟨2, "d"⟩, ⟨1, "e"⟩] : Array Tagged) =
      #[⟨1, "b"⟩, ⟨1, "c"⟩, ⟨1, "e"⟩, ⟨2, "a"⟩, ⟨2, "d"⟩] := by
    simp +decide [arrange, List.mergeSort]
  obtain ⟨held, hsort, hmerged⟩ := foldlM_merge_eq_sort
    [#[⟨2, "a"⟩, ⟨1, "b"⟩], #[], (#[⟨1, "c"⟩, ⟨2, "d"⟩, ⟨1, "e"⟩] : Array Tagged)]
  rw [← hsort] at hmerged
  rw [hmerged, ← harrange]
  exact sort_eq _

end Sorted

end Seek
