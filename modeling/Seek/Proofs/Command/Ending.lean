import Seek.Proofs.Command.Outcome

/-!
What is seen of a run, part by part. The exit code, the output and the last words of a run are those
of what its action comes to, whoever looks at it; where it runs decides only which events are told
in front of the last words, and whether diagnostics are styled. Main statement: `run_eq`.
-/

namespace Seek.Command

open Log (Event)
open Text (Piece)

namespace Done

/-- The exit code of a run that comes to this. -/
def exit (done : Done) : Nat :=
  match done.outcome with
  | .ok (.ok _) => 0
  | .ok (.error _) => 1
  | .error _ => 101

/-- The output of a run that comes to this. -/
def output (done : Done) (isJson : Bool) : String :=
  match done.outcome with
  | .ok (.ok answer) => answer.line isJson ++ "\n"
  | _ => ""

/-- What is said behind the events. -/
def lastPieces (done : Done) : List Piece :=
  match done.outcome with
  | .ok (.ok _) => []
  | .ok (.error refusal) => refusalPieces refusal
  | .error fault => [.plain (fault.message ++ "\n")]

/-- What is said behind the events, as written. -/
def lastWords (done : Done) (isStyled : Bool) : String := Text.render isStyled done.lastPieces

/-- The lines of the events that are reported. -/
def eventLines (done : Done) (reports : Event → Bool) (isStyled : Bool) : String :=
  Text.render isStyled ((done.events.filter reports).flatMap Event.pieces)

variable {done : Done}

/-- A run ends well exactly with an answer. -/
theorem exit_eq_zero_iff : done.exit = 0 ↔ ∃ answer, done.outcome = .ok (.ok answer) := by
  rcases houtcome : done.outcome with fault | refusal | answer <;> simp [exit, houtcome]

/-- There is no output without an answer. -/
theorem output_of_exit_ne_zero (h : done.exit ≠ 0) (isJson : Bool) : done.output isJson = "" := by
  rcases houtcome : done.outcome with fault | refusal | answer
  · simp [output, houtcome]
  · simp [output, houtcome]
  · exact absurd (exit_eq_zero_iff.2 ⟨answer, houtcome⟩) h

end Done

theorem run_of_readLine {arguments : List String} {request : Request}
    (h : readLine arguments = .ok request) (environment : Environment) :
    run environment arguments = request.run environment := by
  rw [run, h]

theorem run_eq (environment : Environment) (request : Request) :
    request.run environment =
      ⟨request.action.perform.exit, request.action.perform.output request.isJson,
        request.action.perform.eventLines (environment.reports request.isVerbose)
            environment.isStyled ++
          request.action.perform.lastWords environment.isStyled⟩ := by
  rcases houtcome : request.action.perform.outcome with fault | refusal | answer <;>
    simp only [Request.run, Done.exit, Done.output, Done.eventLines, Done.lastWords,
      Done.lastPieces, houtcome, Text.render_append]

namespace Environment

variable {environment : Environment} {text : String}

/-- Where a filter is set and can be read, it alone decides which events are reported. -/
theorem reports_of_filter {filter : Log.Filter} (htext : environment.filter = some text)
    (h : Log.Filter.ofText? text.toList = some filter) (isVerbose : Bool) (event : Event) :
    environment.reports isVerbose event = (filter.level eventName event).showsDebug := by
  rw [reports, htext, Option.bind_some, h]

end Environment

/-! ### A line that finds a pair -/

/-- A line whose run finds a pair. -/
def foundLine : List String := ["two-sum", "2", "7", "-t9"]

theorem readLine_foundLine : readLine foundLine = .ok ⟨.pairSum ⟨9, [2, 7]⟩, false, false⟩ := by
  decide +kernel

theorem perform_found : (Action.pairSum ⟨9, [2, 7]⟩).perform =
    ⟨[⟨"two-sum", [("len", "2"), ("target", "9")]⟩,
      ⟨"pair found", [("first", "0"), ("second", "1")]⟩], .ok (.ok (.pair ⟨0, 1⟩))⟩ := by
  have hfind : PairSum.find [2, 7].toArray 9 = .ok (.ok ⟨0, 1⟩) := by decide
  rw [Action.perform, Input.findPair, hfind]
  rfl

end Seek.Command
