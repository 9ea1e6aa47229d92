import Seek.Proofs.IndexPair.RoundTrip

/-!
Where pairs are increasing. A pair sum answers only with a pair that passes its contract, so its
first position is below its second, and so it is with what is read from the output of a run. The
reader itself compares nothing, so of any other text the pair is increasing only if the numbers are
that it writes. Main statement: `increasing_of_find`.
-/

namespace Seek

namespace PairSum

variable {xs : Array Int32} {target : Int32}

/-- A pair that is answered has passed its contract. -/
theorem checkPair_of_scan {start : Nat} {rest : List Int32} {pair : IndexPair}
    (h : scan xs target start rest = .ok (.ok pair)) :
    Contract.checkPair xs target pair.first pair.second = .ok () := by
  induction rest generalizing start with
  | nil => cases h
  | cons value rest ih =>
    obtain ⟨needed, -, hrow⟩ := bind_eq_ok_iff.1 h
    split at hrow
    · obtain ⟨⟨⟩, hcheck, hend⟩ := bind_eq_ok_iff.1 hrow
      cases hend
      exact hcheck
    · exact ih hrow

theorem lt_of_find {pair : IndexPair} (h : find xs target = .ok (.ok pair)) :
    pair.first < pair.second :=
  UInt64.lt_iff_toNat_lt.2 (checkPair_eq_ok_iff.1 (checkPair_of_scan h)).increasing

end PairSum

namespace IndexPair

/-- Only increasing numbers that fit words are read as an increasing pair. -/
theorem lt_iff_of_ofJson {text : String} {pair : IndexPair} (h : ofJson text = .ok pair) :
    pair.first < pair.second ↔
      ∃ i j, Denotes text.toList i j ∧ i < j ∧ j < UInt64.size := by
  rw [UInt64.lt_iff_toNat_lt]
  constructor
  · intro hlt
    exact ⟨_, _, read_eq_ok_iff.1 h, hlt, pair.second.toNat_lt_size⟩
  · rintro ⟨i, j, hdenotes, hlt, hfits⟩
    -- The text is also read as the pair of these numbers, and so they are what was read.
    have hi : (UInt64.ofNat i).toNat = i := UInt64.toNat_ofNat_of_lt' (Nat.lt_trans hlt hfits)
    have hj : (UInt64.ofNat j).toNat = j := UInt64.toNat_ofNat_of_lt' hfits
    have hread : ofJson text = .ok ⟨.ofNat i, .ofNat j⟩ := by
      refine read_eq_ok_iff.2 ?_
      rwa [hi, hj]
    cases h.symm.trans hread
    rwa [hi, hj]

end IndexPair

namespace Command

/-- A pair that is found is increasing, and so is what is read from the output of a run that found
one. Any other text is read as it is written: the pair is increasing where the numbers are. -/
theorem increasing_of_find (xs : Array Int32) (target : Int32) (text : String)
    (pair : IndexPair) :
    (PairSum.find xs target = .ok (.ok pair) → pair.first < pair.second) ∧
    (IndexPair.ofJson text = .ok pair → (pair.first < pair.second ↔
      ∃ i j, IndexPair.Denotes text.toList i j ∧ i < j ∧ j < UInt64.size)) ∧
    ∀ {arguments : List String} {request : Request} {input : Input},
      readLine arguments = .ok request → request.action.pairInput? = some input →
      ∀ environment : Environment, (run environment arguments).exit = 0 → ∃ found : IndexPair,
        IndexPair.ofJson (run environment arguments).output = .ok found ∧
        found.first < found.second := by
  refine ⟨PairSum.lt_of_find, IndexPair.lt_iff_of_ofJson, ?_⟩
  intro arguments request input hline hinput environment hexit
  rw [run_of_readLine hline] at hexit ⊢
  obtain ⟨found, hfind⟩ := exists_find_of_exit hinput hexit
  exact ⟨found, (decodes_of_find hinput hfind environment).2, PairSum.lt_of_find hfind⟩

/-- The smallest and the greatest value sum to the target, and a run tells where they are. -/
theorem increasing_of_find_extremes :
    PairSum.find #[-2147483648, 5, 2147483647] (-1) = .ok (.ok ⟨0, 2⟩) ∧
    readLine ["two-sum", "-t-1", "-2147483648", "5", "2147483647"] =
      .ok ⟨.pairSum ⟨-1, [-2147483648, 5, 2147483647]⟩, false, false⟩ ∧
    (run ⟨none, false, false⟩ ["two-sum", "-t-1", "-2147483648", "5", "2147483647"]).exit = 0 ∧
    (∃ found : IndexPair, IndexPair.ofJson (run ⟨none, false, false⟩
      ["two-sum", "-t-1", "-2147483648", "5", "2147483647"]).output = .ok found ∧
      found.first < found.second) ∧
    IndexPair.ofJson "[0, 2]" = .ok ⟨0, 2⟩ ∧
    (∃ i j, IndexPair.Denotes "[0, 2]".toList i j ∧ i < j ∧ j < UInt64.size) ∧
    (0 : UInt64) < 2 := by
  have hfind : PairSum.find #[-2147483648, 5, 2147483647] (-1) = .ok (.ok ⟨0, 2⟩) := by decide
  have hline : readLine ["two-sum", "-t-1", "-2147483648", "5", "2147483647"] =
      .ok ⟨.pairSum ⟨-1, [-2147483648, 5, 2147483647]⟩, false, false⟩ := by decide +kernel
  have hread : IndexPair.ofJson "[0, 2]" = .ok ⟨0, 2⟩ := IndexPair.ofJson_display ⟨0, 2⟩
  have hexit : (run ⟨none, false, false⟩
      ["two-sum", "-t-1", "-2147483648", "5", "2147483647"]).exit = 0 := by
    rw [run_of_readLine hline]
    exact (decodes_of_find rfl hfind _).1
  obtain ⟨hfound, hdenotes, hprinted⟩ :=
    increasing_of_find #[-2147483648, 5, 2147483647] (-1) "[0, 2]" ⟨0, 2⟩
  exact ⟨hfind, hline, hexit, hprinted hline rfl _ hexit, hread,
    (hdenotes hread).1 (hfound hfind), hfound hfind⟩

/-- A text lists two positions in falling order, and the reader takes them as they are. -/
theorem not_increasing_of_ofJson :
    ¬((∀ {xs : Array Int32} {target : Int32} {pair : IndexPair},
        PairSum.find xs target = .ok (.ok pair) → pair.first < pair.second) ∧
      ∀ {text : String} {pair : IndexPair}, IndexPair.ofJson text = .ok pair →
        pair.first < pair.second) := by
  rintro ⟨-, hread⟩
  have hpair : IndexPair.ofJson "[1, 0]" = .ok ⟨1, 0⟩ := IndexPair.ofJson_display ⟨1, 0⟩
  exact absurd (hread hpair) (by decide)

end Command

end Seek
