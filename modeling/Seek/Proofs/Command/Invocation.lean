import Seek.Proofs.Command.Outcome
import Seek.Proofs.Command.Reading
import Mathlib.Algebra.Group.Int.Defs

/-!
Invocations: a command with one target, values, and flags in any order among them, and with flags in
front of the command too. Main statement: however it is laid out, an invocation with its numerals in
range asks for its command on its target and its values in order, and ends as the command does on
them; with a numeral out of range it is wrong and has no output.

Positions are words, so there are fewer than `UInt64.size` values: this is what `fits` says.
-/

namespace Seek.Command

/-- The commands that take a sequence. -/
inductive Aim where
  | pairSum
  | search
  deriving DecidableEq, Repr

namespace Aim

/-- The name of the command. -/
def word : Aim → List Char
  | .pairSum => "two-sum".toList
  | .search => "search".toList

/-- What is known to the command. -/
def scope : Aim → Scope
  | .pairSum => .pairSum
  | .search => .search

/-- What the command is asked to do, by its flags and its input. -/
def action (hasFlag : Switch → Bool) (input : Input) : Aim → Action
  | .pairSum => .pairSum input
  | .search => .search input (hasFlag .checkSorted)

end Aim

/-- A command line for a command that takes a sequence. A flag stands at most once in front of the
command and once behind it, and each where it is known. -/
structure Invocation where
  /-- The flags in front of the command. -/
  front : List Switch
  aim : Aim
  /-- What is behind the command, in any order. -/
  items : List Item
  /-- The one target. -/
  target : Numeral
  targets_eq : items.filterMap Item.target? = [target]
  front_nodup : front.Nodup
  flags_nodup : (items.filterMap Item.flag?).Nodup
  not_mem_front : .checkSorted ∉ front
  aim_eq_search : .checkSorted ∈ items.filterMap Item.flag? → aim = .search

namespace Invocation

variable (invocation : Invocation)

/-- The flags behind the command. -/
def flags : List Switch := invocation.items.filterMap Item.flag?

/-- The values in order. -/
def values : List Numeral := invocation.items.filterMap Item.value?

/-- The flag is given, in front of the command or behind it. -/
def has (switch : Switch) : Bool :=
  invocation.front.contains switch || invocation.flags.contains switch

/-- The command line. -/
def arguments : List String :=
  (invocation.front.map Switch.word ++
    invocation.aim.word :: invocation.items.flatMap Item.words).map String.ofList

/-- All numerals are in range. -/
def InRange : Prop :=
  invocation.target.InRange ∧ ∀ numeral ∈ invocation.values, numeral.InRange

instance : Decidable invocation.InRange := inferInstanceAs (Decidable (_ ∧ _))

/-- The target and the values that are read if all are in range. -/
def input : Input := ⟨invocation.target.toInt32, invocation.values.map Numeral.toInt32⟩

/-- What the invocation asks for. -/
def request : Request :=
  ⟨invocation.aim.action invocation.has invocation.input, invocation.has .json,
    invocation.has .verbose⟩

end Invocation

/-! ### In front of the command -/

theorem argument_injective {a b : Switch} (h : a.argument = b.argument) : a = b := by
  cases a <;> cases b <;> first | rfl | cases h

theorem nodup_map_argument {switches : List Switch} (h : switches.Nodup) :
    (switches.map Switch.argument).Nodup :=
  List.pairwise_map.2 (h.imp fun hne heq => hne (argument_injective heq))

theorem contains_map_argument (switches : List Switch) (switch : Switch) :
    (switches.map Switch.argument).contains switch.argument = switches.contains switch := by
  rw [Bool.eq_iff_iff, List.contains_iff_mem, List.contains_iff_mem, List.mem_map]
  constructor
  · rintro ⟨other, hmem, heq⟩
    rwa [← argument_injective heq]
  · exact fun hmem => ⟨switch, hmem, rfl⟩

theorem readWords_flag {switch : Switch} (hknown : switch.argument ∈ Scope.program.options)
    (outer : Given) (words : List (List Char)) :
    readWords outer (switch.word :: words) =
      outer.giveFlag switch.argument >>= fun outer => readWords outer words := by
  rw [readWords]
  obtain ⟨name, hshape, hgive⟩ | ⟨letters, hshape, hgive⟩ :=
    Scope.shape_word Scope.program.takesNumbers switch
  · rw [hshape, ← hgive .program outer hknown]
  · rw [hshape, ← hgive .program outer hknown]

theorem mem_options_program {switch : Switch} (h : switch ≠ .checkSorted) :
    switch.argument ∈ Scope.program.options := by
  cases switch <;> first | decide | exact absurd rfl h

/-- The flags in front of a command are taken, each once. -/
theorem readWords_flags {switches : List Switch} {outer : Given}
    (hknown : .checkSorted ∉ switches) (hpending : outer.pending = .nothing)
    (hnodup : (outer.flags ++ switches.map Switch.argument).Nodup) (words : List (List Char)) :
    readWords outer (switches.map Switch.word ++ words) =
      readWords { outer with flags := outer.flags ++ switches.map Switch.argument } words := by
  induction switches generalizing outer with
  | nil => simp
  | cons switch switches ih =>
    obtain ⟨hne, hknown⟩ := List.ne_and_not_mem_of_not_mem_cons hknown
    have hnew : switch.argument ∉ outer.flags := fun hmem =>
      (List.nodup_append.1 hnodup).2.2 _ hmem _ List.mem_cons_self rfl
    have hgive : outer.giveFlag switch.argument =
        .ok { outer with flags := outer.flags ++ [switch.argument] } := by
      rw [Given.giveFlag, Given.settle_of_nothing hpending]
      exact if_neg hnew
    have hrest : readWords { outer with flags := outer.flags ++ [switch.argument] }
        (switches.map Switch.word ++ words) = _ :=
      ih hknown hpending (by simpa using hnodup)
    rw [List.map_cons, List.cons_append, readWords_flag (mem_options_program hne.symm), hgive]
    refine hrest.trans ?_
    simp

/-! ### The command and its items -/

namespace Aim

theorem takesNumbers_scope (aim : Aim) : aim.scope.takesNumbers := by
  cases aim <;> rfl

theorem target_mem_options (aim : Aim) : .target ∈ aim.scope.options := by
  cases aim <;> decide

theorem argument_mem_options {aim : Aim} {switch : Switch}
    (h : switch = .checkSorted → aim = .search) : switch.argument ∈ aim.scope.options := by
  cases aim <;> cases switch <;> first | decide | exact absurd (h rfl) (by decide)

theorem readWords_word (aim : Aim) (outer : Given) (words : List (List Char)) :
    readWords outer (aim.word :: words) =
      readCommand aim.scope
        (fun given input => aim.action (fun switch => given.flags.contains switch.argument) input)
        outer words := by
  cases aim <;> rfl

end Aim

namespace Invocation

variable {invocation : Invocation}

theorem knows_of_mem : ∀ item ∈ invocation.items, invocation.aim.scope.Knows item := by
  intro item hitem
  cases item with
  | target spelling numeral => exact invocation.aim.target_mem_options
  | value numeral => exact invocation.aim.target_mem_options
  | flag switch =>
    have hflag : switch ∈ invocation.items.filterMap Item.flag? :=
      List.mem_filterMap.2 ⟨.flag switch, hitem, rfl⟩
    refine Aim.argument_mem_options ?_
    rintro rfl
    exact invocation.aim_eq_search hflag

theorem readLine_arguments : readLine invocation.arguments =
    readCommand invocation.aim.scope
      (fun given input =>
        invocation.aim.action (fun switch => given.flags.contains switch.argument) input)
      ⟨invocation.front.map Switch.argument, none, [], .nothing⟩
      (invocation.items.flatMap Item.words) := by
  have hwords : invocation.arguments.map String.toList =
      invocation.front.map Switch.word ++
        invocation.aim.word :: invocation.items.flatMap Item.words := by
    simp [arguments, Function.comp_def]
  have hnodup : (Given.nothing.flags ++ invocation.front.map Switch.argument).Nodup :=
    nodup_map_argument invocation.front_nodup
  rw [readLine, hwords, readWords_flags invocation.not_mem_front rfl hnodup,
    Aim.readWords_word]
  rfl

/-- The items behind the command are read one after the other. -/
theorem giveAll_items : invocation.aim.scope.giveAll false .nothing
    (invocation.items.flatMap Item.words) = invocation.items.foldlM Given.take .nothing :=
  giveAll_words invocation.aim.takesNumbers_scope knows_of_mem (by decide)

theorem forall_inRange_iff : (∀ item ∈ invocation.items, item.InRange) ↔ invocation.InRange := by
  constructor
  · intro hitems
    constructor
    · have hmem : invocation.target ∈ invocation.items.filterMap Item.target? := by
        rw [invocation.targets_eq]
        exact List.mem_cons_self
      obtain ⟨item, hitem, htarget⟩ := List.mem_filterMap.1 hmem
      cases item with
      | target spelling numeral =>
        cases htarget
        exact hitems _ hitem
      | value numeral => cases htarget
      | flag switch => cases htarget
    · intro numeral hmem
      obtain ⟨item, hitem, hvalue⟩ := List.mem_filterMap.1 hmem
      cases item with
      | target spelling numeral => cases hvalue
      | value numeral =>
        cases hvalue
        exact hitems _ hitem
      | flag switch => cases hvalue
  · rintro ⟨htarget, hvalues⟩ item hitem
    cases item with
    | target spelling numeral =>
      have hmem : numeral ∈ invocation.items.filterMap Item.target? :=
        List.mem_filterMap.2 ⟨_, hitem, rfl⟩
      rw [invocation.targets_eq, List.mem_singleton] at hmem
      exact hmem ▸ htarget
    | value numeral => exact hvalues numeral (List.mem_filterMap.2 ⟨_, hitem, rfl⟩)
    | flag switch => trivial

/-- What is given once all items are taken. -/
theorem input_foldl_adding :
    (invocation.items.foldl Given.adding .nothing).input = .ok invocation.input := by
  have htarget : (invocation.items.foldl Given.adding .nothing).target =
      some invocation.target.toInt32 := by
    rw [Given.target_foldl_adding, invocation.targets_eq]
    rfl
  have hvalues : (invocation.items.foldl Given.adding .nothing).values =
      invocation.values.map Numeral.toInt32 := Given.values_foldl_adding
  rw [Given.input, htarget, hvalues]
  rfl

theorem contains_foldl_adding (switch : Switch) :
    (invocation.items.foldl Given.adding .nothing).flags.contains switch.argument =
      invocation.flags.contains switch := by
  rw [Given.flags_foldl_adding]
  exact contains_map_argument invocation.flags switch

theorem readLine_of_inRange (h : invocation.InRange) :
    readLine invocation.arguments = .ok invocation.request := by
  have hflags : (Given.nothing.flags ++ invocation.flags.map Switch.argument).Nodup :=
    nodup_map_argument invocation.flags_nodup
  have htake : invocation.items.foldlM Given.take .nothing = _ :=
    Given.foldlM_take (forall_inRange_iff.2 h) hflags
      (by simp [Given.nothing, invocation.targets_eq])
  have hhas (switch : Switch) : invocation.has switch =
      ((invocation.front.map Switch.argument).contains switch.argument ||
        (invocation.items.foldl Given.adding .nothing).flags.contains switch.argument) := by
    rw [contains_map_argument, contains_foldl_adding]
    rfl
  have haction : invocation.aim.action invocation.has invocation.input =
      invocation.aim.action (fun switch =>
        (invocation.items.foldl Given.adding .nothing).flags.contains switch.argument)
        invocation.input := by
    have hfront : invocation.front.contains .checkSorted = false := by
      simpa using invocation.not_mem_front
    cases invocation.aim with
    | pairSum => rfl
    | search => rw [Aim.action, Aim.action, contains_foldl_adding, has, hfront, Bool.false_or]
  rw [readLine_arguments, readCommand, giveAll_items, htake, request, haction, hhas .json,
    hhas .verbose]
  simp only [bind, Except.bind, input_foldl_adding]
  rfl

theorem exists_readLine_eq_wrong (h : ¬ invocation.InRange) :
    ∃ error, readLine invocation.arguments = .error (.wrong error) := by
  have hitem : ∃ item ∈ invocation.items, ¬ item.InRange := by
    by_contra hnone
    exact h (forall_inRange_iff.1 fun item hitem => by_contra fun hout => hnone ⟨item, hitem, hout⟩)
  obtain ⟨error, htake⟩ : ∃ error, invocation.items.foldlM Given.take .nothing = _ :=
    Given.exists_wrong_of_not_inRange hitem
  rw [readLine_arguments, readCommand, giveAll_items, htake]
  exact ⟨error, rfl⟩

/-! ### Integers as written -/

/-- A command with integers as they are written, the target between two values or beside them. -/
def written (aim : Aim) (spelling : Spelling) (target : Int) (before behind : List Int) :
    Invocation where
  front := []
  aim := aim
  items := before.map (fun n => .value (.ofInt n)) ++
    .target spelling (.ofInt target) :: behind.map fun n => .value (.ofInt n)
  target := .ofInt target
  targets_eq := by simp [List.filterMap_map, Function.comp_def, Item.target?]
  front_nodup := .nil
  flags_nodup := by simp [List.filterMap_cons, List.filterMap_map, Function.comp_def, Item.flag?]
  not_mem_front := List.not_mem_nil
  aim_eq_search := by simp [List.filterMap_map, Function.comp_def, Item.flag?]

/-- Every target and all values, of any size, are those of an invocation that has them as integers
are always written. -/
theorem arguments_written (aim : Aim) (spelling : Spelling) (target : Int)
    (before behind : List Int) :
    (written aim spelling target before behind).arguments =
      .ofList aim.word :: before.map toString ++
        (spelling.words (toString target).toList).map .ofList ++ behind.map toString ∧
    (written aim spelling target before behind).target.value = target ∧
    (written aim spelling target before behind).values.map Numeral.value = before ++ behind := by
  have hwords (numbers : List Int) :
      ((numbers.map fun n => Item.value (.ofInt n)).flatMap Item.words).map String.ofList =
        numbers.map toString := by
    induction numbers with
    | nil => rfl
    | cons n numbers ih =>
      rw [List.map_cons, List.flatMap_cons, List.map_append, ih, Item.words, Numeral.text_ofInt]
      simp
  refine ⟨?_, Numeral.value_ofInt target, ?_⟩
  · rw [arguments, written, List.flatMap_append, List.flatMap_cons, Item.words,
      Numeral.text_ofInt]
    simp only [List.map_nil, List.nil_append, List.map_cons, List.map_append, hwords,
      List.cons_append, List.append_assoc]
  · simp [values, written, List.filterMap_cons, List.filterMap_map, Function.comp_def,
      Item.value?, Numeral.value_ofInt]

end Invocation

/-! ### Runs -/

/-- However an invocation is laid out, it ends as its command does on its target and its values in
order: with the line of a pair or of an index and nothing else, or with the line of an error, the
hint behind it where a sequence is out of order. Where the target or a value is no value of 32 bits
the invocation is wrong. -/
theorem run_invocation (environment : Environment) (invocation : Invocation)
    (fits : invocation.values.length < UInt64.size) :
    (¬ invocation.InRange → (run environment invocation.arguments).exit = 2 ∧
      (run environment invocation.arguments).output = "") ∧
    (invocation.InRange → ∃ input : Input,
      input.target.toInt = invocation.target.value ∧
      input.values.map Int32.toInt = invocation.values.map Numeral.value ∧
      match invocation.aim with
      | .pairSum =>
        (∃ pair, PairSum.find input.values.toArray input.target = .ok (.ok pair) ∧
          (run environment invocation.arguments).Answers
            (pairLine (invocation.has .json) pair)) ∨
        (PairSum.find input.values.toArray input.target = .ok (.error .noSolution) ∧
          (run environment invocation.arguments).Refuses
            (environment.IsQuiet (invocation.has .verbose))
            (errorLine (environment.isTerminal && !environment.isPlain) "no two sum solution"))
      | .search =>
        if invocation.has .checkSorted then
          (∃ held index, Sorted.validate input.values.toArray = .ok held ∧
            held.index input.target = .ok index ∧
            (run environment invocation.arguments).Answers
              (indexLine (invocation.has .json) index)) ∨
          (∃ position, Sorted.validate input.values.toArray = .error (.unsorted position) ∧
            (run environment invocation.arguments).Refuses
              (environment.IsQuiet (invocation.has .verbose))
              (errorLine (environment.isTerminal && !environment.isPlain)
                ("sequence not sorted at position " ++ toString position) ++
                  hintLine (environment.isTerminal && !environment.isPlain)))
        else
          ∃ index, Search.index input.values.toArray input.target = .ok index ∧
            (run environment invocation.arguments).Answers
              (indexLine (invocation.has .json) index)) := by
  constructor
  · intro hout
    obtain ⟨error, hread⟩ := Invocation.exists_readLine_eq_wrong hout
    rw [run, hread]
    exact ⟨rfl, rfl⟩
  · intro hrange
    have hvalues : invocation.input.values.map Int32.toInt =
        invocation.values.map Numeral.value := by
      rw [Invocation.input, List.map_map]
      exact List.map_congr_left fun numeral hmem => Numeral.toInt_toInt32 (hrange.2 numeral hmem)
    refine ⟨invocation.input, Numeral.toInt_toInt32 hrange.1, hvalues, ?_⟩
    have fits' : invocation.input.values.length < UInt64.size := by
      simpa [Invocation.input] using fits
    rw [run, Invocation.readLine_of_inRange hrange]
    unfold Invocation.request
    cases invocation.aim with
    | pairSum => exact run_pairSum fits'
    | search => exact run_search fits' (invocation.has .checkSorted)

/-- An input is known by its numbers. -/
theorem Input.eq_of_toInt {input : Input} {target : Int32} {values : List Int32}
    (htarget : input.target.toInt = target.toInt)
    (hvalues : input.values.map Int32.toInt = values.map Int32.toInt) :
    input = ⟨target, values⟩ := by
  have hinjective : Function.Injective Int32.toInt := fun _ _ => Int32.toInt_inj.1
  rw [← Int32.toInt_inj.1 htarget, ← List.map_injective_iff.2 hinjective hvalues]

/-- Values on both sides of the target, with a flag among them and one in front of the command. -/
def Invocation.mixed (last : Int) : Invocation where
  front := [.verbose]
  aim := .pairSum
  items := [.value (.ofInt (-2)), .target .longEqual (.ofInt (-5)), .value (.ofInt (-3)),
    .flag .json, .value (.ofInt last)]
  target := .ofInt (-5)
  targets_eq := rfl
  front_nodup := by decide
  flags_nodup := by simp [Item.flag?, List.filterMap_cons]
  not_mem_front := by decide
  aim_eq_search := by simp [Item.flag?, List.filterMap_cons]

/-- The last value decides: with one that is in range the pair of the other two is told, and with
one that is no word of any size the invocation is wrong. Values that do not come to the target end
in an error, which is all that is said of them. -/
theorem run_invocation_mixed :
    (Invocation.mixed 7).arguments =
      ["-v", "two-sum", "-2", "--target=-5", "-3", "--json", "7"] ∧
    (Invocation.mixed 7).values.length < UInt64.size ∧ (Invocation.mixed 7).InRange ∧
    (run ⟨none, false, true⟩ (Invocation.mixed 7).arguments).exit = 0 ∧
    (run ⟨none, false, true⟩ (Invocation.mixed 7).arguments).output =
      "\x7b\"first\":0,\"second\":1\x7d\n" ∧
    ¬ (Invocation.mixed (-10 ^ 30)).InRange ∧
    (run ⟨none, false, true⟩ (Invocation.mixed (-10 ^ 30)).arguments).exit = 2 ∧
    (Invocation.written .pairSum .shortJoined (-5) [1] [2]).arguments =
      ["two-sum", "1", "-t-5", "2"] ∧
    run ⟨none, false, true⟩ ["two-sum", "1", "-t-5", "2"] =
      ⟨1, "", "\x1b[1;31merror:\x1b[0m no two sum solution\n"⟩ := by
  have hrange : (Invocation.mixed 7).InRange := by decide +kernel
  have hout : ¬ (Invocation.mixed (-10 ^ 30)).InRange := by decide +kernel
  have hwrong := (run_invocation ⟨none, false, true⟩ (.mixed (-10 ^ 30)) (by decide)).1 hout
  obtain ⟨input, htarget, hvalues, hend⟩ :=
    (run_invocation ⟨none, false, true⟩ (.mixed 7) (by decide)).2 hrange
  obtain rfl : input = ⟨-5, [-2, -3, 7]⟩ :=
    Input.eq_of_toInt (htarget.trans (by decide +kernel)) (hvalues.trans (by decide +kernel))
  have hfind : PairSum.find #[-2, -3, 7] (-5) = .ok (.ok ⟨0, 1⟩) := by decide
  have hanswers : (run ⟨none, false, true⟩ (Invocation.mixed 7).arguments).Answers
      (pairLine true ⟨0, 1⟩) := by
    obtain ⟨pair, hpair, hanswers⟩ | ⟨hnone, -⟩ := hend
    · cases hfind.symm.trans hpair
      exact hanswers
    · cases hfind.symm.trans hnone
  -- No two of the other values come to the target.
  have hwritten : (Invocation.written .pairSum .shortJoined (-5) [1] [2]).arguments =
      ["two-sum", "1", "-t-5", "2"] := by decide +kernel
  obtain ⟨input', htarget', hvalues', hend'⟩ :=
    (run_invocation ⟨none, false, true⟩ (.written .pairSum .shortJoined (-5) [1] [2])
      (by decide)).2 (by decide +kernel)
  obtain rfl : input' = ⟨-5, [1, 2]⟩ :=
    Input.eq_of_toInt (htarget'.trans (by decide +kernel)) (hvalues'.trans (by decide +kernel))
  have hfind' : PairSum.find #[1, 2] (-5) = .ok (.error .noSolution) := by decide
  rw [hwritten] at hend'
  have hrefused : run ⟨none, false, true⟩ ["two-sum", "1", "-t-5", "2"] =
      ⟨1, "", "\x1b[1;31merror:\x1b[0m no two sum solution\n"⟩ := by
    obtain ⟨pair, hpair, -⟩ | ⟨-, hrefuses⟩ := hend'
    · cases hfind'.symm.trans hpair
    · exact hrefuses.eq ⟨rfl, rfl⟩
  exact ⟨by decide +kernel, by decide, hrange, hanswers.exit, hanswers.output, hout, hwrong.1,
    hwritten, hrefused⟩

end Seek.Command
