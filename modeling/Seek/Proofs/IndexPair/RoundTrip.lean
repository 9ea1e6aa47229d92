import Seek.Proofs.Command.Ending
import Seek.Proofs.IndexPair.Reading
import Mathlib.Logic.Function.Defs

/-!
Pairs that were printed are read back. A pair is printed as a list or as an object, and both write
it, so either text is read as the pair that it was printed for, also with the end of a line behind
it, and whoever reads what a run has printed learns the same pair whether JSON was asked for or not.
Main statement: `decodes_printed`.
-/

namespace Seek

namespace IndexPair

open Json

/-! ### What is printed writes the pair -/

theorem spaced_digits {gap : List Char} (hgap : Blank gap) (n : UInt64) :
    Json.Written (.spaced (toString n).toList) (gap ++ ((toString n).toList ++ [])) :=
  .spaced hgap (.numeral (Numeral.written_natural (natural_toString n).1)) blank_nil

theorem writes_display (pair : IndexPair) :
    Writes pair.first.toNat pair.second.toNat pair.display.toList := by
  have hblank : Blank [' '] := by simp [Blank, isSpace]
  have hitems : Json.Written (.items [(toString pair.first).toList, (toString pair.second).toList])
      _ :=
    .item (spaced_digits blank_nil _) (.lastItem (spaced_digits hblank _))
  have hwrites := Writes.list (natural_toString _) (natural_toString _) hitems
  have htext : pair.display.toList = '[' :: ((toString pair.first).toList ++
      ',' :: ' ' :: ((toString pair.second).toList ++ [']'])) := by
    simp only [display, String.toList_append, List.append_assoc]
    rfl
  rw [htext]
  simpa using hwrites

theorem spells_key (field : Field) : Text.Spells field.key.toList field.key.toList := by
  apply Text.spells_self
  cases field <;> simp [Field.key, Text.plain_iff, Text.isControl]

theorem label_key (field : Field) :
    Label field.key.toList ('"' :: (field.key.toList ++ '"' :: [':'])) :=
  .mk blank_nil (spells_key field).inside blank_nil

/-- The member that tells a position. -/
def member (pair : IndexPair) (field : Field) : Member :=
  ⟨field.key.toList, (toString (pair.get field)).toList⟩

theorem once_members (pair : IndexPair) (field : Field) :
    Once field.key.toList (pair.get field).toNat [pair.member .first, pair.member .second] := by
  have hnot : ∀ {other}, other ≠ field → ¬Text.Spells (pair.member other).key field.key.toList :=
    fun hne h => hne (eq_of_spells (spells_key _) h)
  cases field with
  | first =>
    refine once_cons_iff.2 (.inl ⟨spells_key .first, natural_toString _, ?_⟩)
    exact absent_cons_iff.2 ⟨hnot (by decide), absent_nil _⟩
  | second =>
    refine once_cons_iff.2 (.inr ⟨hnot (by decide), once_cons_iff.2 (.inl ?_)⟩)
    exact ⟨spells_key .second, natural_toString _, absent_nil _⟩

/-- The members of the object that is printed. -/
theorem exists_members_json (pair : IndexPair) :
    ∃ body, Json.Written (.members [pair.member .first, pair.member .second]) body ∧
      pair.json.toList = '{' :: (body ++ ['}']) := by
  refine ⟨_, .member (label_key .first) (spaced_digits blank_nil _)
    (.lastMember (label_key .second) (spaced_digits blank_nil _)), ?_⟩
  have htext : pair.json.toList = '{' :: '"' :: (Field.first.key.toList ++ '"' :: ':' ::
      ((toString pair.first).toList ++ ',' :: '"' :: (Field.second.key.toList ++ '"' :: ':' ::
        ((toString pair.second).toList ++ ['}'])))) := by
    simp only [json, String.toList_append, List.append_assoc]
    rfl
  rw [htext]
  simp [get]

theorem writes_json (pair : IndexPair) :
    Writes pair.first.toNat pair.second.toNat pair.json.toList := by
  have hkeys : ∀ member ∈ [pair.member .first, pair.member .second],
      ∃ key, Text.Spells member.key key := by
    simp only [List.forall_mem_cons]
    exact ⟨⟨_, spells_key .first⟩, ⟨_, spells_key .second⟩, by simp⟩
  obtain ⟨body, hmembers, htext⟩ := pair.exists_members_json
  rw [htext]
  exact .object hkeys (pair.once_members .first) (pair.once_members .second) hmembers

theorem ofJson_append {pair : IndexPair} {text : String}
    (h : Writes pair.first.toNat pair.second.toNat text.toList) (behind : String)
    (hbehind : Blank behind.toList) : ofJson (text ++ behind) = .ok pair := by
  rw [ofJson, String.toList_append]
  exact read_eq_ok_iff.2 ⟨[], _, _, blank_nil, h, hbehind, rfl⟩

theorem ofJson_json (pair : IndexPair) : ofJson pair.json = .ok pair := by
  have hread := ofJson_append pair.writes_json "" blank_nil
  rwa [String.append_empty] at hread

theorem ofJson_display (pair : IndexPair) : ofJson pair.display = .ok pair := by
  have hread := ofJson_append pair.writes_display "" blank_nil
  rwa [String.append_empty] at hread

theorem injective_of_ofJson {write : IndexPair → String}
    (h : ∀ pair, ofJson (write pair) = .ok pair) : Function.Injective write := by
  intro pair pair' heq
  have hread := h pair
  rw [heq, h pair'] at hread
  exact (Except.ok.inj hread).symm

end IndexPair

namespace Command

/-! ### What a run prints -/

/-- The line that answers with a pair is read as the pair, in either form. -/
theorem ofJson_line (pair : IndexPair) (isJson : Bool) :
    IndexPair.ofJson ((Answer.pair pair).line isJson ++ "\n") = .ok pair := by
  have hblank : Json.Blank "\n".toList := by simp [Json.Blank, Json.isSpace]
  cases isJson with
  | false => exact IndexPair.ofJson_append pair.writes_display "\n" hblank
  | true => exact IndexPair.ofJson_append pair.writes_json "\n" hblank

/-- The input of an action that looks for a pair. -/
def Action.pairInput? : Action → Option Input
  | .demo => some demoInput
  | .pairSum input => some input
  | .search _ _ => none

theorem perform_of_pairInput {action : Action} {input : Input}
    (h : action.pairInput? = some input) : action.perform = input.findPair := by
  cases action with
  | demo =>
    cases h
    rfl
  | pairSum =>
    cases h
    rfl
  | search => cases h

/-- A run ends well only with an answer. -/
theorem exists_outcome_of_exit {environment : Environment} {request : Request}
    (h : (request.run environment).exit = 0) :
    ∃ answer, request.action.perform.outcome = .ok (.ok answer) := by
  rw [run_eq] at h
  exact Done.exit_eq_zero_iff.1 h

theorem exists_find_of_exit {environment : Environment} {request : Request} {input : Input}
    (hinput : request.action.pairInput? = some input) (h : (request.run environment).exit = 0) :
    ∃ pair, PairSum.find input.values.toArray input.target = .ok (.ok pair) := by
  obtain ⟨answer, houtcome⟩ := exists_outcome_of_exit h
  rw [perform_of_pairInput hinput, input.outcome_findPair] at houtcome
  rcases hfind : PairSum.find input.values.toArray input.target with fault | refusal | pair
  · rw [hfind] at houtcome
    cases houtcome
  · rw [hfind] at houtcome
    cases houtcome
  · exact ⟨pair, rfl⟩

/-- What is printed where a pair was found is read as that pair. -/
theorem decodes_of_find {request : Request} {input : Input} {pair : IndexPair}
    (hinput : request.action.pairInput? = some input)
    (hfind : PairSum.find input.values.toArray input.target = .ok (.ok pair))
    (environment : Environment) :
    (request.run environment).exit = 0 ∧
      IndexPair.ofJson (request.run environment).output = .ok pair := by
  have houtcome : request.action.perform.outcome = .ok (.ok (.pair pair)) := by
    rw [perform_of_pairInput hinput, input.outcome_findPair, hfind]
    rfl
  obtain ⟨hexit, houtput⟩ : (request.run environment).Answers
      ((Answer.pair pair).line request.isJson ++ "\n") := answers_of_outcome houtcome
  rw [houtput]
  exact ⟨hexit, ofJson_line pair request.isJson⟩

/-- Either text that is printed for a pair is read as the pair, so no two pairs are printed alike;
and of two command lines with the same input for a pair sum, one that asks for JSON and one that
does not, either both find a pair or none, and what they print is read as the pair they find. -/
theorem decodes_printed :
    (∀ pair : IndexPair, IndexPair.ofJson pair.json = .ok pair ∧
      IndexPair.ofJson pair.display = .ok pair) ∧
    Function.Injective IndexPair.json ∧ Function.Injective IndexPair.display ∧
    ∀ {arguments arguments' : List String} {action action' : Action} {isVerbose isVerbose' : Bool}
      {input : Input}, readLine arguments = .ok ⟨action, true, isVerbose⟩ →
      readLine arguments' = .ok ⟨action', false, isVerbose'⟩ →
      action.pairInput? = some input → action'.pairInput? = some input →
      ∀ environment environment' : Environment,
        ((run environment arguments).exit = 0 ↔ (run environment' arguments').exit = 0) ∧
        ((run environment arguments).exit = 0 → ∃ pair : IndexPair,
          PairSum.find input.values.toArray input.target = .ok (.ok pair) ∧
          IndexPair.ofJson (run environment arguments).output = .ok pair ∧
          IndexPair.ofJson (run environment' arguments').output = .ok pair) := by
  refine ⟨fun pair => ⟨IndexPair.ofJson_json pair, IndexPair.ofJson_display pair⟩, ?_, ?_, ?_⟩
  · exact IndexPair.injective_of_ofJson IndexPair.ofJson_json
  · exact IndexPair.injective_of_ofJson IndexPair.ofJson_display
  · intro arguments arguments' action action' isVerbose isVerbose' input hline hline' hinput hinput'
      environment environment'
    rw [run_of_readLine hline, run_of_readLine hline']
    refine ⟨⟨fun hexit => ?_, fun hexit => ?_⟩, fun hexit => ?_⟩
    · obtain ⟨pair, hfind⟩ := exists_find_of_exit hinput hexit
      exact (decodes_of_find hinput' hfind environment').1
    · obtain ⟨pair, hfind⟩ := exists_find_of_exit hinput' hexit
      exact (decodes_of_find hinput hfind environment).1
    · obtain ⟨pair, hfind⟩ := exists_find_of_exit hinput hexit
      exact ⟨pair, hfind, (decodes_of_find hinput hfind environment).2,
        (decodes_of_find hinput' hfind environment').2⟩

/-- The input that is used where no command is given, for JSON, and the same input in full on a
command line with events on a terminal. -/
theorem decodes_printed_demo :
    readLine ["--json"] = .ok ⟨.demo, true, false⟩ ∧
    readLine ["-v", "two-sum", "2", "7", "-t9", "11", "15"] =
      .ok ⟨.pairSum demoInput, false, true⟩ ∧
    (run ⟨none, false, false⟩ ["--json"]).exit = 0 ∧
    (run ⟨none, false, true⟩ ["-v", "two-sum", "2", "7", "-t9", "11", "15"]).exit = 0 ∧
    ∃ pair, IndexPair.ofJson (run ⟨none, false, false⟩ ["--json"]).output = .ok pair ∧
      IndexPair.ofJson
        (run ⟨none, false, true⟩ ["-v", "two-sum", "2", "7", "-t9", "11", "15"]).output =
          .ok pair := by
  have hline : readLine ["--json"] = .ok ⟨.demo, true, false⟩ := by decide +kernel
  have hline' : readLine ["-v", "two-sum", "2", "7", "-t9", "11", "15"] =
      .ok ⟨.pairSum demoInput, false, true⟩ := by decide +kernel
  have hfind : PairSum.find demoInput.values.toArray demoInput.target = .ok (.ok ⟨0, 1⟩) := by
    decide
  obtain ⟨-, -, -, hprinted⟩ := decodes_printed
  obtain ⟨hiff, hdecodes⟩ := hprinted hline hline' rfl rfl ⟨none, false, false⟩ ⟨none, false, true⟩
  have hexit : (run ⟨none, false, false⟩ ["--json"]).exit = 0 := by
    rw [run_of_readLine hline]
    exact (decodes_of_find rfl hfind _).1
  obtain ⟨pair, -, hread, hread'⟩ := hdecodes hexit
  exact ⟨hline, hline', hexit, hiff.1 hexit, pair, hread, hread'⟩

end Command

end Seek
