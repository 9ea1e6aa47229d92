import Seek.Proofs.PairSum.Least

/-!
Pair sums of related sequences. Whether two values sum to the target does not depend on which of
them stands in front, so it is a matter of the values alone whether there is a pair
(`exists_sums_iff`). A pair of positions sums to the target in a sequence exactly if it does so in
every longer one that begins with it (`sums_append_iff`). Main statement: values that are moved
around have a pair if they had one, values that are added can only lead to a smaller pair, and
values behind a pair may be taken away.
-/

namespace Seek.PairSum

variable {xs ys : Array Int32} {target : Int32}

/-! ### Pairs in related sequences -/

/-- There is no pair exactly where no two values, wherever they stand, sum to the target. -/
theorem exists_sums_iff : (∃ i j, Sums xs target i j) ↔
    ¬ xs.toList.Pairwise fun a b => a.toInt + b.toInt ≠ target.toInt := by
  rw [List.pairwise_iff_getElem]
  constructor
  · rintro ⟨i, j, hlt, hj, htotal⟩ hnone
    exact hnone i j (Nat.lt_trans hlt hj) hj hlt htotal
  · intro hsome
    push Not at hsome
    obtain ⟨i, j, _, hj, hlt, htotal⟩ := hsome
    exact ⟨i, j, hlt, hj, htotal⟩

/-- Moving values around neither makes the last pair go away nor a first one appear. -/
theorem exists_sums_iff_of_perm (target : Int32) (h : ys.Perm xs) :
    (∃ i j, Sums ys target i j) ↔ ∃ i j, Sums xs target i j := by
  have hsymm {a b : Int32} (hab : a.toInt + b.toInt ≠ target.toInt) :
      b.toInt + a.toInt ≠ target.toInt := by
    rwa [Int.add_comm]
  rw [exists_sums_iff, exists_sums_iff, h.toList.pairwise_iff hsymm]

/-- Values that are added behind a pair of positions do not count for it. -/
theorem sums_append_iff {more : Array Int32} {i j : Nat} (hj : j < xs.size) :
    Sums (xs ++ more) target i j ↔ Sums xs target i j := by
  constructor
  · rintro ⟨hlt, _, htotal⟩
    rw [Array.getElem_append_left (Nat.lt_trans hlt hj), Array.getElem_append_left hj] at htotal
    exact ⟨hlt, hj, htotal⟩
  · rintro ⟨hlt, _, htotal⟩
    refine ⟨hlt, by rw [Array.size_append]; omega, ?_⟩
    rwa [Array.getElem_append_left (Nat.lt_trans hlt hj), Array.getElem_append_left hj]

/-! ### What is found -/

theorem exists_least (target : Int32) (fits : xs.size < UInt64.size) :
    ∃ answer, find xs target = .ok answer ∧ Least xs target 0 answer :=
  scan_least fits List.drop_zero

/-- The pair that is found is the least pair. -/
theorem find_eq_ok_iff (fits : xs.size < UInt64.size) {pair : IndexPair} :
    find xs target = .ok (.ok pair) ↔
      Sums xs target pair.first.toNat pair.second.toNat ∧
      ∀ other : IndexPair, Sums xs target other.first.toNat other.second.toNat →
        (compare pair other).isLE := by
  obtain ⟨answer, hfind, hleast⟩ := exists_least target fits
  rw [hfind, Except.ok.injEq]
  exact hleast.eq_ok_iff

/-- A pair is found if there is one, and otherwise the search for one is refused. -/
theorem find_cases (target : Int32) (fits : xs.size < UInt64.size) :
    (∃ pair, find xs target = .ok (.ok pair)) ∧ (∃ i j, Sums xs target i j) ∨
      find xs target = .ok (.error .noSolution) ∧ ¬ ∃ i j, Sums xs target i j := by
  obtain ⟨answer, hfind, hleast⟩ := exists_least target fits
  cases answer with
  | ok pair => exact .inl ⟨⟨pair, hfind⟩, _, _, hleast.1⟩
  | error refusal =>
    obtain ⟨rfl, hnone⟩ := hleast
    exact .inr ⟨hfind, fun ⟨i, j, sums⟩ => hnone i j (Nat.zero_le i) sums⟩

/-- Values that are moved around have a pair exactly if they had one before. Where a pair is found,
values that are added behind can only lead to a smaller pair, and the same pair is found in every
part at the front that holds its second position. -/
theorem find_of_related (xs : Array Int32) (target : Int32) (fits : xs.size < UInt64.size) :
    (∀ ys : Array Int32, ys.Perm xs →
      (∃ pair other, find xs target = .ok (.ok pair) ∧ find ys target = .ok (.ok other)) ∨
      find xs target = .ok (.error .noSolution) ∧ find ys target = .ok (.error .noSolution)) ∧
    ∀ pair, find xs target = .ok (.ok pair) →
      (∀ more : Array Int32, (xs ++ more).size < UInt64.size →
        ∃ least, find (xs ++ more) target = .ok (.ok least) ∧ (compare least pair).isLE) ∧
      ∀ front behind : Array Int32, front ++ behind = xs → pair.second.toNat < front.size →
        find front target = .ok (.ok pair) := by
  refine ⟨fun ys hperm => ?_, fun pair hpair => ⟨fun more hmore => ?_, ?_⟩⟩
  · have hfits : ys.size < UInt64.size := by
      rwa [← Array.length_toList, hperm.toList.length_eq]
    have hsame := exists_sums_iff_of_perm target hperm
    rcases find_cases target fits with ⟨⟨pair, hpair⟩, hx⟩ | ⟨hrefused, hx⟩
    · rcases find_cases target hfits with ⟨⟨other, hother⟩, -⟩ | ⟨-, hy⟩
      · exact .inl ⟨pair, other, hpair, hother⟩
      · exact absurd (hsame.2 hx) hy
    · rcases find_cases target hfits with ⟨-, hy⟩ | ⟨hother, -⟩
      · exact absurd (hsame.1 hy) hx
      · exact .inr ⟨hrefused, hother⟩
  · obtain ⟨sums, -⟩ := (find_eq_ok_iff fits).1 hpair
    have hsums : Sums (xs ++ more) target pair.first.toNat pair.second.toNat :=
      (sums_append_iff sums.inside).2 sums
    rcases find_cases target hmore with ⟨⟨least, hleast⟩, -⟩ | ⟨-, hnone⟩
    · exact ⟨least, hleast, ((find_eq_ok_iff hmore).1 hleast).2 pair hsums⟩
    · exact absurd ⟨_, _, hsums⟩ hnone
  · rintro front behind rfl hsecond
    obtain ⟨sums, hleast⟩ := (find_eq_ok_iff fits).1 hpair
    have hfront : front.size < UInt64.size := by
      rw [Array.size_append] at fits
      omega
    refine (find_eq_ok_iff hfront).2 ⟨(sums_append_iff hsecond).1 sums, fun other hother => ?_⟩
    exact hleast other ((sums_append_iff hother.inside).2 hother)

/-- Two equal values sum to the target. They still do when they change places, and a value that is
added makes a smaller pair with the first one. -/
theorem find_of_related_equal :
    (#[1, 5, 5, 3] : Array Int32).size < UInt64.size ∧
    find #[1, 5, 5, 3] 10 = .ok (.ok ⟨1, 2⟩) ∧
    (#[5, 3, 1, 5] : Array Int32).Perm #[1, 5, 5, 3] ∧
    (∃ other, find #[5, 3, 1, 5] 10 = .ok (.ok other)) ∧
    (∃ least, find (#[1, 5, 5, 3] ++ #[9]) 10 = .ok (.ok least) ∧
      (compare least ⟨1, 2⟩).isLE) ∧
    find #[1, 5, 5] 10 = .ok (.ok ⟨1, 2⟩) := by
  have fits : (#[1, 5, 5, 3] : Array Int32).size < UInt64.size := by decide
  have hfind : find #[1, 5, 5, 3] 10 = .ok (.ok ⟨1, 2⟩) := by decide
  have hperm : (#[5, 3, 1, 5] : Array Int32).Perm #[1, 5, 5, 3] :=
    Array.perm_iff_toList_perm.2 (by decide)
  obtain ⟨hmoved, hpair⟩ := find_of_related #[1, 5, 5, 3] 10 fits
  obtain ⟨hlonger, hshorter⟩ := hpair _ hfind
  refine ⟨fits, hfind, hperm, ?_, hlonger #[9] (by decide), hshorter #[1, 5, 5] #[3] rfl (by decide)⟩
  rcases hmoved _ hperm with ⟨-, other, -, hother⟩ | ⟨hrefused, -⟩
  · exact ⟨other, hother⟩
  · rw [hfind] at hrefused
    cases hrefused

end Seek.PairSum
