import Seek.Command
import Seek.Proofs.PairSum.Least
import Seek.Proofs.Search.Index
import Seek.Proofs.Sorted.InOrder

/-!
What a run shows of what its action came to. An answer is the only thing that is ever written to the
output; a refusal goes to the diagnostics, behind the events, each of which has its own line. The
lines of both are written out here, apart from the pieces they are made of (`pairLine`, `indexLine`,
`errorLine`, `hintLine`). No action faults on a sequence whose positions are words, so these two are
the only ends of a run.
Main statements: an unchecked search always has a number to tell, and the check lets values in order
pass and changes nothing for them (`exists_index_false`, `index_true_of_inOrder`); what is seen of a
run is what its action comes to (`run_pairSum`, `run_search`).
-/

namespace Seek

namespace Text

variable {isStyled : Bool}

theorem render_append (front behind : List Piece) :
    render isStyled (front ++ behind) = render isStyled front ++ render isStyled behind := by
  simp [render]

/-- The text is made of whole lines. -/
def IsLines (text : String) : Prop := text = "" ∨ ∃ front, text = front ++ "\n"

theorem IsLines.append {front behind : String} (hfront : IsLines front) (hbehind : IsLines behind) :
    IsLines (front ++ behind) := by
  rcases hbehind with rfl | ⟨rest, rfl⟩
  · rwa [String.append_empty]
  · exact .inr ⟨front ++ rest, (String.append_assoc ..).symm⟩

end Text

theorem Log.Event.exists_line (event : Event) (isStyled : Bool) :
    ∃ front, Text.render isStyled event.pieces = front ++ "\n" :=
  ⟨_, Text.render_append _ [.plain "\n"]⟩

/-- Each event is written on a line of its own. -/
theorem Log.Event.isLines_render {isStyled : Bool} (events : List Event) :
    Text.IsLines (Text.render isStyled (events.flatMap Event.pieces)) := by
  induction events with
  | nil => exact .inl rfl
  | cons event events ih =>
    have hline : Text.IsLines (Text.render isStyled event.pieces) :=
      .inr (event.exists_line isStyled)
    rw [List.flatMap_cons, Text.render_append]
    exact hline.append ih

namespace Command

/-! ### Lines, word for word -/

/-- The line of a pair. -/
def pairLine (isJson : Bool) (pair : IndexPair) : String :=
  (if isJson then
    "\x7b\"first\":" ++ toString pair.first ++ ",\"second\":" ++ toString pair.second ++ "\x7d"
  else "[" ++ toString pair.first ++ ", " ++ toString pair.second ++ "]") ++ "\n"

/-- The line of an index. -/
def indexLine (isJson : Bool) (index : Int64) : String :=
  (if isJson then "\x7b\"index\":" ++ toString index ++ "\x7d" else toString index) ++ "\n"

/-- The line of an error with this message. Styles make its first word bold and red. -/
def errorLine (isStyled : Bool) (message : String) : String :=
  (if isStyled then "\x1b[1;31merror:\x1b[0m " else "error: ") ++ message ++ "\n"

/-- The line of the hint, which styles make dim. -/
def hintLine (isStyled : Bool) : String :=
  (if isStyled then "\x1b[2mbinary search needs non-decreasing input\x1b[0m"
  else "binary search needs non-decreasing input") ++ "\n"

theorem Answer.line_pair (isJson : Bool) (pair : IndexPair) :
    (Answer.pair pair).line isJson ++ "\n" = pairLine isJson pair := rfl

theorem Answer.line_index (isJson : Bool) (index : Int64) :
    (Answer.index index).line isJson ++ "\n" = indexLine isJson index := rfl

theorem render_reason (isStyled : Bool) (message : String) :
    Text.render isStyled [.styled .boldRed "error:", .plain (" " ++ message ++ "\n")] =
      errorLine isStyled message := by
  have hword : Text.Piece.render isStyled (.styled .boldRed "error:") ++ " " =
      if isStyled then "\x1b[1;31merror:\x1b[0m " else "error: " := by
    cases isStyled <;> decide
  have hplain (text : String) : Text.render isStyled [.plain text] = text := String.empty_append
  rw [errorLine, ← hword, Text.render, List.map_cons, String.join_cons, ← Text.render, hplain]
  simp only [String.append_assoc]

theorem render_noSolution (isStyled : Bool) :
    Text.render isStyled (refusalPieces .noSolution) =
      errorLine isStyled "no two sum solution" :=
  render_reason isStyled _

theorem render_unsorted (isStyled : Bool) (position : UInt64) :
    Text.render isStyled (refusalPieces (.unsorted position)) =
      errorLine isStyled ("sequence not sorted at position " ++ toString position) ++
        hintLine isStyled := by
  have hhint : Text.render isStyled
      [.styled .dim "binary search needs non-decreasing input", .plain "\n"] =
        hintLine isStyled := by
    cases isStyled <;> decide
  rw [← render_reason, ← hhint, ← Text.render_append]
  rfl

/-! ### The two ends of a run -/

/-- Nothing asks for events. -/
def Environment.IsQuiet (environment : Environment) (isVerbose : Bool) : Prop :=
  environment.filter = none ∧ isVerbose = false

/-- The run ends well, and the line is all of the output. -/
structure Result.Answers (result : Result) (line : String) : Prop where
  exit : result.exit = 0
  output : result.output = line

/-- The run ends with a failure and without output. The words are the last that is said, and all of
it where no events are asked for. -/
structure Result.Refuses (result : Result) (isQuiet : Prop) (words : String) : Prop where
  exit : result.exit = 1
  output : result.output = ""
  diagnostics : ∃ events, Text.IsLines events ∧ (isQuiet → events = "") ∧
    result.diagnostics = events ++ words

/-- Where no events are asked for a refusal is known whole. -/
theorem Result.Refuses.eq {result : Result} {isQuiet : Prop} {words : String}
    (refuses : result.Refuses isQuiet words) (quiet : isQuiet) : result = ⟨1, "", words⟩ := by
  obtain ⟨exit, output, diagnostics⟩ := result
  obtain ⟨hexit, houtput, events, -, hquiet, hdiagnostics⟩ := refuses
  rw [hquiet quiet, String.empty_append] at hdiagnostics
  rw [Result.mk.injEq]
  exact ⟨hexit, houtput, hdiagnostics⟩

section Run

variable {environment : Environment} {request : Request}

theorem answers_of_outcome {answer : Answer}
    (h : request.action.perform.outcome = .ok (.ok answer)) :
    (request.run environment).Answers (answer.line request.isJson ++ "\n") := by
  rw [Request.run, h]
  exact ⟨rfl, rfl⟩

theorem Environment.reports_of_isQuiet (quiet : environment.IsQuiet request.isVerbose)
    (event : Log.Event) : environment.reports request.isVerbose event = false := by
  rw [reports, quiet.1, quiet.2]
  rfl

theorem refuses_of_outcome {refusal : Refusal}
    (h : request.action.perform.outcome = .ok (.error refusal)) :
    (request.run environment).Refuses (environment.IsQuiet request.isVerbose)
      (Text.render environment.isStyled (refusalPieces refusal)) := by
  rw [Request.run, h]
  refine ⟨rfl, rfl, _, Log.Event.isLines_render _, fun quiet => ?_, Text.render_append _ _⟩
  rw [List.filter_eq_nil_iff.2 fun event _ => by simp [Environment.reports_of_isQuiet quiet]]
  rfl

end Run

/-! ### Actions -/

namespace Input

variable (input : Input)

theorem outcome_findPair : input.findPair.outcome =
    (PairSum.find input.values.toArray input.target).map (Except.map Answer.pair) := by
  unfold findPair
  split <;> rename_i h <;> rw [h] <;> rfl

theorem outcome_search (isChecked : Bool) : (input.search isChecked).outcome =
    (input.index isChecked).map (Except.map Answer.index) := by
  unfold search
  split <;> rename_i h <;> rw [h] <;> rfl

variable {input}

/-- Without a check the search comes to a number, whatever the order of the values. -/
theorem exists_index_false (fits : input.values.length < UInt64.size) :
    ∃ answer, Search.position input.values.toArray input.target = .ok answer ∧
      Search.index input.values.toArray input.target = .ok (Search.signed answer) ∧
      input.index false = .ok (.ok (Search.signed answer)) := by
  have fits' : input.values.toArray.size < UInt64.size := by simpa using fits
  obtain ⟨answer, hposition, hindex⟩ := Search.exists_index fits' input.target
  refine ⟨answer, hposition, hindex, ?_⟩
  simp only [index, Bool.false_eq_true, if_false, hindex]
  rfl

/-- A sequence in order passes the check, and the search is the same. -/
theorem index_true_of_inOrder (ordered : InOrder input.values.toArray) :
    input.index true = input.index false := by
  have hvalid := Sorted.validate_eq_ok_iff.2 ⟨rfl, ordered⟩
  simp only [index, if_true, hvalid]
  rfl

/-- A sequence that does not pass the check is refused, and not searched. -/
theorem index_true_of_error {refusal : Refusal}
    (hvalid : Sorted.validate input.values.toArray = .error refusal) :
    input.index true = .ok (.error refusal) := by
  simp only [index, if_true, hvalid]

end Input

section Actions

variable {environment : Environment} {input : Input} {isJson isVerbose : Bool}

theorem run_pairSum (fits : input.values.length < UInt64.size) :
    (∃ pair, PairSum.find input.values.toArray input.target = .ok (.ok pair) ∧
      (Request.run environment ⟨.pairSum input, isJson, isVerbose⟩).Answers
        (pairLine isJson pair)) ∨
    (PairSum.find input.values.toArray input.target = .ok (.error .noSolution) ∧
      (Request.run environment ⟨.pairSum input, isJson, isVerbose⟩).Refuses
        (environment.IsQuiet isVerbose)
        (errorLine environment.isStyled "no two sum solution")) := by
  have fits' : input.values.toArray.size < UInt64.size := by simpa using fits
  obtain ⟨answer, hfind, hleast⟩ :
      ∃ answer, PairSum.find input.values.toArray input.target = .ok answer ∧ _ :=
    PairSum.scan_least fits' List.drop_zero
  have houtcome := input.outcome_findPair
  rw [hfind] at houtcome
  cases answer with
  | ok pair =>
    refine .inl ⟨pair, hfind, ?_⟩
    rw [← Answer.line_pair]
    exact answers_of_outcome houtcome
  | error refusal =>
    obtain ⟨rfl, -⟩ := hleast
    rw [← render_noSolution]
    exact .inr ⟨hfind, refuses_of_outcome houtcome⟩

theorem run_search_of_index {isChecked : Bool} {index : Int64}
    (h : input.index isChecked = .ok (.ok index)) :
    (Request.run environment ⟨.search input isChecked, isJson, isVerbose⟩).Answers
      (indexLine isJson index) := by
  have houtcome := input.outcome_search isChecked
  rw [h] at houtcome
  rw [← Answer.line_index]
  exact answers_of_outcome houtcome

theorem run_search_of_unsorted {isChecked : Bool} {position : UInt64}
    (h : input.index isChecked = .ok (.error (.unsorted position))) :
    (Request.run environment ⟨.search input isChecked, isJson, isVerbose⟩).Refuses
      (environment.IsQuiet isVerbose)
      (errorLine environment.isStyled ("sequence not sorted at position " ++ toString position) ++
        hintLine environment.isStyled) := by
  have houtcome := input.outcome_search isChecked
  rw [h] at houtcome
  rw [← render_unsorted]
  exact refuses_of_outcome houtcome

/-- A search without a check tells the number it comes to. With a check it does so if the check lets
the sequence pass, and is refused where the check has it otherwise. -/
theorem run_search (fits : input.values.length < UInt64.size) (isChecked : Bool) :
    if isChecked then
      (∃ held index, Sorted.validate input.values.toArray = .ok held ∧
        held.index input.target = .ok index ∧
        (Request.run environment ⟨.search input isChecked, isJson, isVerbose⟩).Answers
          (indexLine isJson index)) ∨
      (∃ position, Sorted.validate input.values.toArray = .error (.unsorted position) ∧
        (Request.run environment ⟨.search input isChecked, isJson, isVerbose⟩).Refuses
          (environment.IsQuiet isVerbose)
          (errorLine environment.isStyled
            ("sequence not sorted at position " ++ toString position) ++
              hintLine environment.isStyled))
    else ∃ index, Search.index input.values.toArray input.target = .ok index ∧
      (Request.run environment ⟨.search input isChecked, isJson, isVerbose⟩).Answers
        (indexLine isJson index) := by
  obtain ⟨answer, -, hsearch, hindex⟩ := Input.exists_index_false fits
  cases isChecked with
  | false =>
    rw [if_neg Bool.false_ne_true]
    exact ⟨_, hsearch, run_search_of_index hindex⟩
  | true =>
    rw [if_pos rfl]
    cases hvalid : Sorted.validate input.values.toArray with
    | ok held =>
      obtain ⟨rfl, ordered⟩ := Sorted.validate_eq_ok_iff.1 hvalid
      exact .inl ⟨_, _, rfl, hsearch,
        run_search_of_index ((Input.index_true_of_inOrder ordered).trans hindex)⟩
    | error refusal =>
      obtain ⟨i, -, rfl⟩ := Sorted.validate_eq_error_iff.1 hvalid
      exact .inr ⟨_, rfl, run_search_of_unsorted (Input.index_true_of_error hvalid)⟩

end Actions

end Command

end Seek
