import Seek.Proofs.Command.Outcome

/-!
Searches with and without a check of order. Without the check a search always comes to a number,
whatever the order of the values. Main statement: the check changes nothing on values in order, and
refuses all others, for the first value that is above the one after it.

A value has four bytes, and a sequence no more bytes than the largest signed word: this is what
`short` says.
-/

namespace Seek.Command

/-- For values the order of elements is the order of numbers. -/
theorem inOrder_toArray_iff {values : List Int32} :
    InOrder values.toArray ↔ values.Pairwise (· ≤ ·) := by
  simp only [InOrder, Std.isLE_compare]

/-- The first descent of values is the least position whose value is above the next one. -/
theorem firstDescent_toArray_iff {values : List Int32} {i : Nat} :
    Sorted.firstDescent values.toArray = some i ↔
      ∃ inside : i + 1 < values.length, values[i + 1] < values[i] ∧
        ∀ j (hj : j < i), values[j] ≤ values[j + 1] := by
  simp [Sorted.firstDescent_eq_some_iff, Std.isLE_compare, Std.compare_eq_gt]

/-- A position is told as the number that it is. -/
theorem toString_ofNat {i : Nat} (h : i < UInt64.size) : toString (UInt64.ofNat i) = toString i :=
  congrArg toString (UInt64.toNat_ofNat_of_lt' h)

variable {input : Input} {isJson isVerbose : Bool}

/-- Of two searches that differ in the check only, the unchecked one always ends well. The checked
one ends well exactly on values in order, and then it has the same output, the line of an index that
locates the target; on all other values its last words are the line of the first descent and that of
the hint. -/
theorem run_checkSorted (environment : Environment)
    (short : (input.values.length : Int) ≤ Int64.maxValue.toInt / 4)
    {plain checked : List String}
    (hplain : readLine plain = .ok ⟨.search input false, isJson, isVerbose⟩)
    (hchecked : readLine checked = .ok ⟨.search input true, isJson, isVerbose⟩) :
    (run environment plain).exit = 0 ∧
    ((run environment checked).exit = 0 ↔ input.values.Pairwise (· ≤ ·)) ∧
    (input.values.Pairwise (· ≤ ·) →
      (run environment checked).output = (run environment plain).output ∧
      ∃ index, (run environment plain).output = indexLine isJson index ∧
        Search.Locates input.values.toArray input.target index) ∧
    (¬ input.values.Pairwise (· ≤ ·) →
      ∃ i, ∃ inside : i + 1 < input.values.length,
        input.values[i + 1] < input.values[i] ∧
        (∀ j (hj : j < i), input.values[j] ≤ input.values[j + 1]) ∧
        (run environment checked).Refuses (environment.IsQuiet isVerbose)
          (errorLine (environment.isTerminal && !environment.isPlain)
            ("sequence not sorted at position " ++ toString i) ++
              hintLine (environment.isTerminal && !environment.isPlain))) := by
  have hmax : Int64.maxValue.toInt = 2 ^ 63 - 1 := by decide
  have fits : input.values.length < UInt64.size := by
    simp only [UInt64.size]
    omega
  have short' : (input.values.toArray.size : Int) ≤ Int64.maxValue.toInt := by
    rw [List.size_toArray]
    omega
  obtain ⟨answer, hposition, -, hindex⟩ := Input.exists_index_false fits
  have hanswers : (run environment plain).Answers (indexLine isJson (Search.signed answer)) := by
    rw [run, hplain]
    exact run_search_of_index hindex
  refine ⟨hanswers.exit, ?_⟩
  by_cases ordered : input.values.Pairwise (· ≤ ·)
  · have ordered' := inOrder_toArray_iff.2 ordered
    have hsame : (run environment checked).Answers (indexLine isJson (Search.signed answer)) := by
      rw [run, hchecked]
      exact run_search_of_index ((Input.index_true_of_inOrder ordered').trans hindex)
    exact ⟨iff_of_true hsame.exit ordered,
      fun _ => ⟨hsame.output.trans hanswers.output.symm, _, hanswers.output,
        Search.locates_of_inOrder ordered' short' hposition⟩,
      fun unordered => absurd ordered unordered⟩
  · obtain ⟨i, hdescent⟩ := Option.ne_none_iff_exists'.1
      (mt (Sorted.firstDescent_eq_none_iff.trans inOrder_toArray_iff).1 ordered)
    obtain ⟨inside, habove, hleast⟩ := firstDescent_toArray_iff.1 hdescent
    have hvalid : Sorted.validate input.values.toArray = .error (.unsorted (.ofNat i)) := by
      rw [Sorted.validate, hdescent]
    have hrefuses : (run environment checked).Refuses (environment.IsQuiet isVerbose)
        (errorLine environment.isStyled ("sequence not sorted at position " ++ toString i) ++
          hintLine environment.isStyled) := by
      rw [run, hchecked, ← toString_ofNat (by omega)]
      exact run_search_of_unsorted (Input.index_true_of_error hvalid)
    exact ⟨iff_of_false (by simp [hrefuses.exit]) ordered, fun h => absurd h ordered,
      fun _ => ⟨i, inside, habove, hleast, hrefuses⟩⟩

/-- The target stands where the search finds it, although the values are out of order from there on.
The check of order refuses them on a terminal, with the place where they fall, and lets the values
up to there pass. -/
theorem run_checkSorted_outOfOrder :
    (([-5, 2, 2, 9, 3, 1] : List Int32).length : Int) ≤ Int64.maxValue.toInt / 4 ∧
    readLine ["search", "-5", "2", "-t2", "2", "9", "3", "1"] =
      .ok ⟨.search ⟨2, [-5, 2, 2, 9, 3, 1]⟩ false, false, false⟩ ∧
    readLine ["search", "-5", "2", "--check-sorted", "2", "9", "3", "1", "--target=2"] =
      .ok ⟨.search ⟨2, [-5, 2, 2, 9, 3, 1]⟩ true, false, false⟩ ∧
    (run ⟨none, false, true⟩ ["search", "-5", "2", "-t2", "2", "9", "3", "1"]).exit = 0 ∧
    run ⟨none, false, true⟩
        ["search", "-5", "2", "--check-sorted", "2", "9", "3", "1", "--target=2"] =
      ⟨1, "", "\x1b[1;31merror:\x1b[0m sequence not sorted at position 3\n" ++
        "\x1b[2mbinary search needs non-decreasing input\x1b[0m\n"⟩ ∧
    (([-5, 2, 9] : List Int32).length : Int) ≤ Int64.maxValue.toInt / 4 ∧
    readLine ["--json", "search", "-5", "2", "9", "-t9"] =
      .ok ⟨.search ⟨9, [-5, 2, 9]⟩ false, true, false⟩ ∧
    readLine ["search", "-5", "2", "9", "-t9", "--check-sorted", "--json"] =
      .ok ⟨.search ⟨9, [-5, 2, 9]⟩ true, true, false⟩ ∧
    (run ⟨none, false, true⟩ ["search", "-5", "2", "9", "-t9", "--check-sorted", "--json"]).output =
      "\x7b\"index\":2\x7d\n" := by
  have short : (([-5, 2, 2, 9, 3, 1] : List Int32).length : Int) ≤ Int64.maxValue.toInt / 4 := by
    decide
  have hplain : readLine ["search", "-5", "2", "-t2", "2", "9", "3", "1"] =
      .ok ⟨.search ⟨2, [-5, 2, 2, 9, 3, 1]⟩ false, false, false⟩ := by decide +kernel
  have hchecked :
      readLine ["search", "-5", "2", "--check-sorted", "2", "9", "3", "1", "--target=2"] =
        .ok ⟨.search ⟨2, [-5, 2, 2, 9, 3, 1]⟩ true, false, false⟩ := by decide +kernel
  obtain ⟨hexit, -, -, hunordered⟩ :=
    run_checkSorted ⟨none, false, true⟩ short hplain hchecked
  obtain ⟨i, inside, habove, hleast, hrefuses⟩ := hunordered (by decide)
  have hdescent : Sorted.firstDescent [-5, 2, 2, 9, 3, 1].toArray = some i :=
    firstDescent_toArray_iff.2 ⟨inside, habove, hleast⟩
  obtain rfl : 3 = i := Option.some.inj (Eq.trans (by decide) hdescent)
  have short' : (([-5, 2, 9] : List Int32).length : Int) ≤ Int64.maxValue.toInt / 4 := by decide
  have hplain' : readLine ["--json", "search", "-5", "2", "9", "-t9"] =
      .ok ⟨.search ⟨9, [-5, 2, 9]⟩ false, true, false⟩ := by decide +kernel
  have hchecked' : readLine ["search", "-5", "2", "9", "-t9", "--check-sorted", "--json"] =
      .ok ⟨.search ⟨9, [-5, 2, 9]⟩ true, true, false⟩ := by decide +kernel
  obtain ⟨-, -, hordered, -⟩ := run_checkSorted ⟨none, false, true⟩ short' hplain' hchecked'
  obtain ⟨hsame, index, houtput, hlocates⟩ := hordered (by decide)
  obtain ⟨k, hk, hindex, hvalue⟩ := hlocates.found (by simp)
  have honly : ∀ k : Fin 3, #[-5, 2, 9][k] = (9 : Int32) → k = 2 := by decide
  obtain rfl : k = 2 := congrArg Fin.val (honly ⟨k, hk⟩ hvalue)
  obtain rfl : index = 2 := Int64.toInt_inj.1 hindex
  exact ⟨short, hplain, hchecked, hexit, hrefuses.eq ⟨rfl, rfl⟩, short', hplain', hchecked',
    hsame.trans houtput⟩

end Seek.Command
