import Seek.Proofs.Search.Halving

/-!
Searches that look alike. Of a sequence a search sees its size and, at each probe, how the element
there compares with the target, and nothing else. A turn depends on the comparison at the middle of
its window only (`turn_eq_of_alike`), and a search is its turns, so two searches make the same run
where the comparisons come to the same at the probes of one of them (`scan_eq_of_alike`). Main
statement: this holds whatever the order of the two sequences, and even where their elements are of
different kinds; so what is not probed does not count, and values may be exchanged for others that
compare in the same way.
-/

namespace Seek.Search

variable {α β : Type} [Ord α] [Ord β] {xs : Array α} {target : α} {ys : Array β} {goal : β}

/-- At a position of both sequences, the comparisons with the two targets come to the same. -/
def Alike (xs : Array α) (target : α) (ys : Array β) (goal : β) (position : UInt64) : Prop :=
  ∀ (hx : position.toNat < xs.size) (hy : position.toNat < ys.size),
    compare xs[position.toNat] target = compare ys[position.toNat] goal

/-! ### Turns -/

section Turn

variable [BEq α]

/-- The middle of an open window is a probe of what is left of the search. -/
theorem mem_probes_scan {w : Window} {mid : UInt64} (hmid : midpoint w.low w.high = .ok mid)
    (inside : mid.toNat < xs.size) : mid ∈ (scan xs target w.low w.high).probes := by
  have isOpen := (midpoint_eq_ok_iff.1 hmid).1
  rw [scan_eq, turn, if_pos isOpen]
  simp only [hmid, dif_pos inside]
  cases compare xs[mid.toNat] target with
  | eq => exact List.mem_cons_self
  | lt => cases Word.add mid 1 <;> exact List.mem_cons_self
  | gt =>
    by_cases hzero : mid = 0
    · simp [hzero]
    · simp only [if_neg hzero]
      cases Word.sub mid 1 <;> exact List.mem_cons_self

/-- Where equality agrees with the order, a hit is told by its position alone. -/
theorem hit_eq [Std.LawfulBEqOrd α] {mid : UInt64} (inside : mid.toNat < xs.size)
    (heq : compare xs[mid.toNat] target = .eq) :
    hit xs target mid = .after mid (.stop (.ok (some mid))) :=
  congrArg (Run.mk [mid]) (outcome_hit inside heq)

end Turn

/-! ### Two searches -/

variable [BEq α] [BEq β] [Std.LawfulBEqOrd α] [Std.LawfulBEqOrd β]

/-- In windows with the same ends, two searches take the same turn if the middles look alike. -/
theorem turn_eq_of_alike (hsize : ys.size = xs.size) {w : Window}
    (alike : ∀ mid, midpoint w.low w.high = .ok mid → Alike xs target ys goal mid) :
    turn ys goal w = turn xs target w := by
  unfold turn
  cases hmid : midpoint w.low w.high with
  | error fault => rfl
  | ok mid =>
    by_cases inside : mid.toNat < xs.size
    · have inside' : mid.toNat < ys.size := by rwa [hsize]
      have hcmp := alike mid hmid inside inside'
      simp only [dif_pos inside, dif_pos inside', ← hcmp]
      cases heq : compare xs[mid.toNat] target with
      | eq => simp only [hit_eq inside heq, hit_eq inside' (hcmp.symm.trans heq)]
      | lt => rfl
      | gt => rfl
    · simp only [dif_neg inside, Word.size, hsize]

/-- From windows with the same ends, two searches go on in the same way if they look alike at each
position that the one of them probes. -/
theorem scan_eq_of_alike (hsize : ys.size = xs.size) (w : Window)
    (alike : ∀ probe ∈ (scan xs target w.low w.high).probes, Alike xs target ys goal probe) :
    scan ys goal w.low w.high = scan xs target w.low w.high := by
  induction hn : w.width using Nat.strongRecOn generalizing w with
  | _ n ih =>
    subst hn
    have hturn : turn ys goal w = turn xs target w := turn_eq_of_alike hsize
      fun mid hmid inside => alike mid (mem_probes_scan hmid inside) inside
    rw [scan_eq xs] at alike
    rw [scan_eq ys, scan_eq xs, hturn]
    cases hnarrowed : turn xs target w with
    | ended rest => rfl
    | narrowed probe next =>
      rw [hnarrowed] at alike
      have hrest := ih _ (width_lt_of_narrowed hnarrowed) next
        (fun later hlater => alike later (List.mem_cons_of_mem probe hlater)) rfl
      simp only [hrest]

/-- Two searches of sequences of one size make the same run if they look alike at each position
that the first one probes. -/
theorem run_eq_of_alike (hsize : ys.size = xs.size)
    (alike : ∀ probe ∈ (run xs target).probes, Alike xs target ys goal probe) :
    run ys goal = run xs target := by
  unfold run at alike ⊢
  have hempty : ys.isEmpty = xs.isEmpty := by simp [Array.isEmpty, hsize]
  have hword : Word.size ys = Word.size xs := by rw [Word.size, Word.size, hsize]
  rw [hempty, hword]
  split
  · rfl
  · rename_i hne
    rw [if_neg hne] at alike
    cases hlast : Word.sub (Word.size xs) 1 with
    | error fault => rfl
    | ok last =>
      rw [hlast] at alike
      exact scan_eq_of_alike hsize ⟨0, last⟩ alike

/-- A search is settled by the size of the sequence and by the comparisons at its probes. On any
other sequence of that size, of whatever elements and in whatever order, where the comparisons at
these positions come to the same, it makes the same run: the same probes in the same order, and the
same answer. So elements that are not probed may be any others, and values may be exchanged for
others where the order is kept. -/
theorem run_settled_by_probes (xs : Array α) (target : α) :
    (∀ (ys : Array β) (goal : β), ys.size = xs.size →
      (∀ probe ∈ (run xs target).probes, Alike xs target ys goal probe) →
      run ys goal = run xs target) ∧
    (∀ zs : Array α, zs.size = xs.size →
      (∀ probe ∈ (run xs target).probes, zs[probe.toNat]? = xs[probe.toNat]?) →
      run zs target = run xs target) ∧
    (∀ relabel : α → β,
      (∀ x ∈ xs, compare (relabel x) (relabel target) = compare x target) →
      run (xs.map relabel) (relabel target) = run xs target) := by
  refine ⟨fun ys goal hsize alike => run_eq_of_alike hsize alike, fun zs hsize hsame => ?_,
    fun relabel hkept => ?_⟩
  · refine run_eq_of_alike hsize fun probe hprobe hx hz => ?_
    have hget := hsame probe hprobe
    rw [Array.getElem?_eq_getElem hx, Array.getElem?_eq_getElem hz, Option.some.injEq] at hget
    rw [hget]
  · refine run_eq_of_alike Array.size_map fun probe _ hx hy => ?_
    rw [Array.getElem_map, hkept _ (Array.getElem_mem hx)]

/-- Two sequences out of order, of values and of keys with a tag, that differ in all elements but
compare in the same way at the three positions that are probed. -/
theorem run_settled_by_probes_keyed :
    run (#[5, 1, 4, 9, 2, 7, 3] : Array Int32) 4 = ⟨[3, 1, 2], .ok (some 2)⟩ ∧
    run (#[⟨0, "a"⟩, ⟨-5, "b"⟩, ⟨1, "c"⟩, ⟨8, "d"⟩, ⟨1, "e"⟩, ⟨1, "f"⟩, ⟨0, "g"⟩] :
      Array Keyed) ⟨1, "h"⟩ = ⟨[3, 1, 2], .ok (some 2)⟩ ∧
    run (#[4, 1, 4, 9, 4, 4, 4] : Array Int32) 4 = ⟨[3, 1, 2], .ok (some 2)⟩ ∧
    run ((#[5, 1, 4, 9, 2, 7, 3] : Array Int32).map fun x => (⟨x, "i"⟩ : Keyed)) ⟨4, "i"⟩ =
      ⟨[3, 1, 2], .ok (some 2)⟩ := by
  have hrun : run (#[5, 1, 4, 9, 2, 7, 3] : Array Int32) 4 = ⟨[3, 1, 2], .ok (some 2)⟩ := by
    decide +kernel
  obtain ⟨hother, hunprobed, hrelabel⟩ := run_settled_by_probes (β := Keyed)
    (#[5, 1, 4, 9, 2, 7, 3] : Array Int32) 4
  rw [hrun] at hother hunprobed hrelabel
  have hall {p : UInt64 → Prop} (h₃ : p 3) (h₁ : p 1) (h₂ : p 2) : ∀ probe ∈ [3, 1, 2], p probe := by
    simp [h₃, h₁, h₂]
  exact ⟨hrun, hother _ _ rfl (hall (fun _ _ => rfl) (fun _ _ => rfl) fun _ _ => rfl),
    hunprobed _ rfl (hall rfl rfl rfl), hrelabel _ fun _ _ => rfl⟩

end Seek.Search
