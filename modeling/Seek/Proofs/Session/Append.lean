import Seek.Proofs.Session.Invariant

/-!
Appending to what is held. The neighbours in two sequences put together are those in the first, the
two elements at the seam, and those in the second, so the first descent is the first that one of
these three has (`firstDescent_append`). What is held has none. Main statement: what is appended is
refused where the seam goes down, and otherwise where it goes down itself.
-/

namespace Seek

variable {α : Type} {xs ys : Array α}

/-! ### The seam -/

/-- The last element of the first sequence with the first element of the second, where both have
elements. -/
def seam (xs ys : Array α) : List (α × α) := xs.back?.toList.zip ys[0]?.toList

theorem zip_tail_append (l m : List α) : (l ++ m).zip (l ++ m).tail =
    l.zip l.tail ++ l.getLast?.toList.zip m.head?.toList ++ m.zip m.tail := by
  induction l with
  | nil => simp
  | cons a l ih =>
    cases l with
    | nil => cases m <;> simp
    | cons b l => simpa using ih

theorem neighbours_append (xs ys : Array α) : Contract.neighbours (xs ++ ys) =
    Contract.neighbours xs ++ seam xs ys ++ Contract.neighbours ys := by
  have hlast : xs.toList.getLast? = xs.back? := Array.getLast?_toList xs
  have hfirst : ys.toList.head? = ys[0]? := by
    rw [List.head?_eq_getElem?, Array.getElem?_toList]
  unfold Contract.neighbours seam
  rw [Array.toList_append, zip_tail_append, hlast, hfirst]

theorem mem_seam_iff {last first : α} :
    (last, first) ∈ seam xs ys ↔ last ∈ xs.back? ∧ first ∈ ys[0]? := by
  unfold seam
  cases xs.back? <;> cases ys[0]? <;> simp [eq_comm]

/-- There is nothing at a seam with a sequence without elements, and one pair at any other. -/
theorem length_seam (xs ys : Array α) : (seam xs ys).length = min (min xs.size ys.size) 1 := by
  obtain ⟨l⟩ := xs
  obtain ⟨m⟩ := ys
  cases l with
  | nil => simp [seam]
  | cons a l => cases m <;> simp [seam, Array.back?_eq_getElem?]

variable [Ord α]

/-- The last element of the first sequence is above the first element of the second. -/
def Falls (xs ys : Array α) : Prop := ∃ last ∈ xs.back?, ∃ first ∈ ys[0]?, compare last first = .gt

theorem any_seam_iff :
    (seam xs ys).any (fun pair => (compare pair.1 pair.2).isGT) ↔ Falls xs ys := by
  simp only [List.any_eq_true, Prod.exists, mem_seam_iff, Ordering.isGT_iff_eq_gt, Falls]
  exact ⟨fun ⟨last, first, ⟨hlast, hfirst⟩, hgt⟩ => ⟨last, hlast, first, hfirst, hgt⟩,
    fun ⟨last, hlast, first, hfirst, hgt⟩ => ⟨last, first, ⟨hlast, hfirst⟩, hgt⟩⟩

instance (xs ys : Array α) : Decidable (Falls xs ys) := decidable_of_iff _ any_seam_iff

/-- The last element of the first sequence is not above the first element of the second, where both
have elements. -/
def Joins (xs ys : Array α) : Prop :=
  xs = #[] ∨ ys = #[] ∨ ∃ last ∈ xs.back?, ∃ first ∈ ys[0]?, (compare last first).isLE

theorem not_falls_iff : ¬ Falls xs ys ↔ Joins xs ys := by
  unfold Falls Joins
  rw [← Array.back?_eq_none_iff, ← Array.size_eq_zero_iff, ← Nat.le_zero,
    ← Array.getElem?_eq_none_iff]
  cases xs.back? with
  | none => simp
  | some last => cases ys[0]? <;> simp [Ordering.isLE_iff_ne_gt]

/-- There is at most one pair at a seam, and it decides whether the seam falls. -/
theorem findIdx?_seam (xs ys : Array α) :
    ((seam xs ys).findIdx? fun pair => (compare pair.1 pair.2).isGT) =
      if Falls xs ys then some 0 else none := by
  have hany : (seam xs ys).any (fun pair => (compare pair.1 pair.2).isGT) ↔ Falls xs ys :=
    any_seam_iff
  have hlen := length_seam xs ys
  rcases hpairs : seam xs ys with _ | ⟨pair, _ | _⟩
  · rw [hpairs] at hany
    simp [← hany]
  · rw [hpairs] at hany
    simp [← hany, List.findIdx?_cons]
  · simp only [hpairs, List.length_cons] at hlen
    omega

namespace Sorted

/-- The first descent of two sequences put together is in the first one, at the seam, or in the
second one. -/
theorem firstDescent_append (xs ys : Array α) : firstDescent (xs ++ ys) =
    ((firstDescent xs).or (if Falls xs ys then some (xs.size - 1) else none)).or
      ((firstDescent ys).map (xs.size + ·)) := by
  have hseam : (if Falls xs ys then some 0 else none).map (· + (xs.size - 1)) =
      if Falls xs ys then some (xs.size - 1) else none := by
    split <;> simp
  have hbehind : (firstDescent ys).map (· + (Contract.neighbours xs ++ seam xs ys).length) =
      (firstDescent ys).map (xs.size + ·) := by
    refine Option.map_congr fun i hi => ?_
    obtain ⟨inside, -⟩ := firstDescent_eq_some_iff.1 hi
    rw [List.length_append, length_neighbours, length_seam]
    omega
  rw [firstDescent, neighbours_append, List.findIdx?_append, List.findIdx?_append, findIdx?_seam,
    length_neighbours, hseam]
  exact congrArg _ hbehind

/-- Behind a sequence without a descent, the first descent is at the seam or in what is appended. -/
theorem firstDescent_append_of_none (h : firstDescent xs = none) (ys : Array α) :
    firstDescent (xs ++ ys) =
      if Falls xs ys then some (xs.size - 1) else (firstDescent ys).map (xs.size + ·) := by
  rw [firstDescent_append, h, Option.none_or]
  split <;> simp

end Sorted

/-! ### What is held and what is appended -/

namespace Session

variable [Std.TransOrd α] {held : Sorted α}

theorem append_eq_ok_iff (ordered : InOrder held.items) {items : Array α} {next : Sorted α} :
    held.append items = .ok next ↔
      next = ⟨held.items ++ items⟩ ∧ InOrder items ∧ Joins held.items items := by
  have hnone := Sorted.firstDescent_eq_none_iff.2 ordered
  rw [Sorted.append, Sorted.validate_eq_ok_iff, ← Sorted.firstDescent_eq_none_iff,
    Sorted.firstDescent_append_of_none hnone, ← not_falls_iff, ← Sorted.firstDescent_eq_none_iff]
  split <;> simp [*]

/-- To a sequence that was reached, a batch can be appended exactly where it is in order and does
not begin below the last element that is held. What is refused is refused at the seam, where that
goes down, and otherwise at the first descent of the batch. -/
theorem append_at_seam [BEq α] [Shown α] (reachable : Reachable held) (items : Array α)
    (fits : (held.items ++ items).size < UInt64.size) :
    ((∃ next, held.append items = .ok next) ↔ InOrder items ∧ Joins held.items items) ∧
    (∀ next, held.append items = .ok next → next.items = held.items ++ items) ∧
    ∀ refusal, held.append items = .error refusal →
      ∃ position, refusal = .unsorted position ∧ held.items.size - 1 ≤ position.toNat ∧
        (Falls held.items items → position.toNat = held.items.size - 1) ∧
        (¬ Falls held.items items → ∃ i, Sorted.firstDescent items = some i ∧
          position.toNat = held.items.size + i) := by
  have ordered := reachable.inOrder
  refine ⟨?_, fun next hnext => ?_, fun refusal hrefused => ?_⟩
  · simp [append_eq_ok_iff ordered]
  · rw [((append_eq_ok_iff ordered).1 hnext).1]
  · obtain ⟨i, hi, rfl⟩ := Sorted.validate_eq_error_iff.1 hrefused
    obtain ⟨inside, -⟩ := Sorted.firstDescent_eq_some_iff.1 hi
    have hword : (UInt64.ofNat i).toNat = i := UInt64.toNat_ofNat_of_lt' (by omega)
    rw [Sorted.firstDescent_append_of_none (Sorted.firstDescent_eq_none_iff.2 ordered)] at hi
    refine ⟨_, rfl, ?_⟩
    rw [hword]
    by_cases hfalls : Falls held.items items
    · rw [if_pos hfalls] at hi
      cases hi
      exact ⟨Nat.le_refl _, fun _ => rfl, fun h => absurd hfalls h⟩
    · rw [if_neg hfalls] at hi
      obtain ⟨j, hj, rfl⟩ := Option.map_eq_some_iff.1 hi
      exact ⟨by omega, fun h => absurd h hfalls, fun _ => ⟨j, hj, rfl⟩⟩

/-- Two batches for a held sequence of two: one that begins below the last element that is held, and
one that begins with an element equal to it and goes down later. -/
theorem append_at_seam_keyed :
    Reachable (⟨#[⟨1, "a"⟩, ⟨2, "b"⟩]⟩ : Sorted Keyed) ∧
    (∃ position, (⟨#[⟨1, "a"⟩, ⟨2, "b"⟩]⟩ : Sorted Keyed).append #[⟨1, "c"⟩, ⟨0, "d"⟩] =
      .error (.unsorted position) ∧ position.toNat = 1) ∧
    ∃ position, (⟨#[⟨1, "a"⟩, ⟨2, "b"⟩]⟩ : Sorted Keyed).append
      #[⟨2, "c"⟩, ⟨4, "d"⟩, ⟨3, "e"⟩] = .error (.unsorted position) ∧ position.toNat = 3 := by
  have reachable : Reachable (⟨#[⟨1, "a"⟩, ⟨2, "b"⟩]⟩ : Sorted Keyed) :=
    ⟨[.validate #[⟨1, "a"⟩], .append #[⟨2, "b"⟩]], rfl⟩
  refine ⟨reachable, ?_, ?_⟩
  · obtain ⟨-, -, hrefused⟩ := append_at_seam reachable #[⟨1, "c"⟩, ⟨0, "d"⟩] (by decide)
    obtain ⟨position, heq, -, hseam, -⟩ := hrefused (.unsorted 1) rfl
    exact ⟨position, congrArg Except.error heq, hseam (by decide)⟩
  · obtain ⟨-, -, hrefused⟩ :=
      append_at_seam reachable #[⟨2, "c"⟩, ⟨4, "d"⟩, ⟨3, "e"⟩] (by decide)
    obtain ⟨position, heq, -, -, hbatch⟩ := hrefused (.unsorted 3) rfl
    obtain ⟨i, hi, hposition⟩ := hbatch (by decide)
    obtain rfl : 1 = i := Option.some.inj hi
    exact ⟨position, congrArg Except.error heq, hposition⟩

end Session

end Seek
