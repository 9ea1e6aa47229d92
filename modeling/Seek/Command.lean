import Seek.Command.Line
import Seek.Log.Filter
import Seek.PairSum
import Seek.Sorted

/-!
The command line program: what is printed, and with which exit code, for each command line in each
environment. A result goes to the output alone, and everything else to the diagnostics: first the
events, if they are asked for, and then why there is no result. Only diagnostics are ever styled.
-/

namespace Seek.Command

open Log (Event)
open Text (Piece)

/-! ### Answers -/

/-- A result. -/
inductive Answer where
  | pair (pair : IndexPair)
  | index (index : Int64)
  deriving DecidableEq, Repr

/-- The result on one line, as JSON or as it is. -/
def Answer.line (isJson : Bool) : Answer → String
  | .pair found => if isJson then found.json else found.display
  | .index found => if isJson then s!"\x7b\"index\":{found}\x7d" else toString found

/-- What an action came to, and the events on the way. -/
structure Done where
  events : List Event
  outcome : Checked (Except Refusal Answer)
  deriving Repr

/-! ### Actions -/

/-- The input that is used when no command is given. -/
def demoInput : Input := ⟨9, [2, 7, 11, 15]⟩

/-- The size of the input and its target, as an event tells them. -/
def Input.fields (input : Input) : List (String × String) :=
  [("len", toString input.values.length), ("target", toString input.target)]

/-- Looks for the pair of positions whose values sum to the target. -/
def Input.findPair (input : Input) : Done :=
  let start : Event := ⟨"two-sum", input.fields⟩
  match PairSum.find input.values.toArray input.target with
  | .error fault => ⟨[start], .error fault⟩
  | .ok (.error refusal) => ⟨[start], .ok (.error refusal)⟩
  | .ok (.ok pair) =>
    let found : Event :=
      ⟨"pair found", [("first", toString pair.first), ("second", toString pair.second)]⟩
    ⟨[start, found], .ok (.ok (.pair pair))⟩

/-- The index of the target, where the sequence is first checked to be in order if `isChecked`. -/
def Input.index (input : Input) (isChecked : Bool) : Checked (Except Refusal Int64) :=
  if isChecked then
    match Sorted.validate input.values.toArray with
    | .error refusal => .ok (.error refusal)
    | .ok held => (held.index input.target).map .ok
  else (Search.index input.values.toArray input.target).map .ok

/-- Looks for the target. -/
def Input.search (input : Input) (isChecked : Bool) : Done :=
  let start : Event := ⟨"search", input.fields ++ [("check_sorted", toString isChecked)]⟩
  match input.index isChecked with
  | .error fault => ⟨[start], .error fault⟩
  | .ok (.error refusal) => ⟨[start], .ok (.error refusal)⟩
  | .ok (.ok index) =>
    let finished : Event := ⟨"search finished", [("index", toString index)]⟩
    ⟨[start, finished], .ok (.ok (.index index))⟩

/-- Does what is asked for. -/
def Action.perform : Action → Done
  | .demo => demoInput.findPair
  | .pairSum input => input.findPair
  | .search input isChecked => input.search isChecked

/-! ### Runs -/

/-- What a run can see beside its command line. -/
structure Environment where
  /-- The text of a filter for events, if one is set. -/
  filter : Option String
  /-- Diagnostics are asked to be plain. -/
  isPlain : Bool
  /-- Diagnostics go to a terminal. -/
  isTerminal : Bool
  deriving DecidableEq, Repr

namespace Environment

/-- Diagnostics are styled. -/
def isStyled (environment : Environment) : Bool := environment.isTerminal && !environment.isPlain

/-- The name under which the program reports events. -/
def eventName : List Char := "kata".toList

/-- The event is reported: as the filter has it if one is set and can be read, and otherwise if that
is asked for on the command line. -/
def reports (environment : Environment) (isVerbose : Bool) (event : Event) : Bool :=
  match environment.filter.bind fun text => Log.Filter.ofText? text.toList with
  | some filter => (filter.level eventName event).showsDebug
  | none => isVerbose

end Environment

/-- What is seen of a run from outside. -/
structure Result where
  exit : Nat
  output : String
  diagnostics : String
  deriving DecidableEq, Repr

/-- Why there is no result, and for a sequence out of order a hint. -/
def refusalPieces (refusal : Refusal) : List Piece :=
  let reason : List Piece := [.styled .boldRed "error:", .plain (" " ++ refusal.message ++ "\n")]
  match refusal with
  | .noSolution => reason
  | .unsorted _ =>
    reason ++ [.styled .dim "binary search needs non-decreasing input", .plain "\n"]

/-- The result of a run that does what is asked for. -/
def Request.run (environment : Environment) (request : Request) : Result :=
  let done := request.action.perform
  let events := (done.events.filter (environment.reports request.isVerbose)).flatMap Event.pieces
  let result (exit : Nat) (output : String) (pieces : List Piece) : Result :=
    ⟨exit, output, Text.render environment.isStyled (events ++ pieces)⟩
  match done.outcome with
  | .ok (.ok answer) => result 0 (answer.line request.isJson ++ "\n") []
  | .ok (.error refusal) => result 1 "" (refusalPieces refusal)
  | .error fault => result 101 "" [.plain (fault.message ++ "\n")]

/-- The result of a run that ended before anything was done. Of a line that is wrong the error is
told. -/
def Stop.result : Stop → Result
  | .wrong error => ⟨2, "", error.line⟩
  | .help topic => ⟨0, topic.text, ""⟩
  | .version => ⟨0, versionText, ""⟩

/-- The result of a command line. -/
def run (environment : Environment) (arguments : List String) : Result :=
  match readLine arguments with
  | .ok request => request.run environment
  | .error stop => stop.result

end Seek.Command
