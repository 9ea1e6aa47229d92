import Seek.Proofs.Command.Ending
import Seek.Proofs.Command.Front
import Seek.Proofs.Text.Unstyled

/-!
Nothing that is said beside a result ends up in it. The exit code and the output come from the
command line alone, and of what it asks for only the action and the form of the answer count. Main
statement: `output_apart`.
-/

namespace Seek.Command

open Text (Unescaped)

/-- The runs end alike and have the same output, whatever else they say. -/
structure Result.Agrees (result result' : Result) : Prop where
  exit : result.exit = result'.exit
  output : result.output = result'.output

theorem Result.Agrees.trans {a b c : Result} (h : a.Agrees b) (h' : b.Agrees c) : a.Agrees c :=
  ⟨h.exit.trans h'.exit, h.output.trans h'.output⟩

/-- Where a line is run decides nothing that is seen of its result. -/
theorem agrees_of_environment (environment environment' : Environment) (arguments : List String) :
    (run environment arguments).Agrees (run environment' arguments) := by
  rcases hline : readLine arguments with stop | request
  · rw [run, run, hline]
    exact ⟨rfl, rfl⟩
  · rw [run_of_readLine hline, run_of_readLine hline, run_eq, run_eq]
    exact ⟨rfl, rfl⟩

/-- That events are asked for decides nothing either. -/
theorem agrees_cons_verbose (environment : Environment) {arguments : List String}
    {request : Request} (h : readLine arguments = .ok request)
    (hquiet : request.isVerbose = false) :
    (run environment ("-v" :: arguments)).Agrees (run environment arguments) := by
  have hline : readLine ("-v" :: arguments) = .ok (request.adding .verbose) :=
    readLine_cons_flag (show Switch.verbose ≠ .checkSorted by decide) h hquiet
  rw [run_of_readLine h, run_of_readLine hline, run_eq, run_eq]
  exact ⟨rfl, rfl⟩

/-! ### No escape characters -/

theorem unescaped_pair (pair : IndexPair) (isJson : Bool) :
    Unescaped ((Answer.pair pair).line isJson) := by
  have hfirst : Unescaped (toString pair.first) := Text.unescaped_toString_nat pair.first.toNat
  have hsecond : Unescaped (toString pair.second) := Text.unescaped_toString_nat pair.second.toNat
  cases isJson with
  | false =>
    change Unescaped pair.display
    simp only [IndexPair.display, Text.unescaped_append_iff, hfirst, hsecond, and_true]
    decide
  | true =>
    change Unescaped pair.json
    simp only [IndexPair.json, Text.unescaped_append_iff, hfirst, hsecond, and_true]
    decide

theorem unescaped_index (index : Int64) (isJson : Bool) :
    Unescaped ((Answer.index index).line isJson) := by
  have hindex : Unescaped (toString index) := Text.unescaped_toString_int index.toInt
  cases isJson with
  | false => exact hindex
  | true =>
    simp only [Answer.line, if_true, Text.unescaped_append_iff, hindex, and_true]
    decide

theorem unescaped_output (done : Done) (isJson : Bool) : Unescaped (done.output isJson) := by
  unfold Done.output
  split
  · rename_i answer _
    refine Text.unescaped_append_iff.2 ⟨?_, by decide⟩
    cases answer with
    | pair pair => exact unescaped_pair pair isJson
    | index index => exact unescaped_index index isJson
  · decide

theorem unescaped_lines_cons {line : List Char} {text : List String} (hline : '\x1b' ∉ line)
    (h : Unescaped (lines text)) : Unescaped (lines (.ofList line :: text)) := by
  have hline' : Unescaped (.ofList line) := by rwa [Unescaped, String.toList_ofList]
  rw [lines, List.map_cons, String.join_cons]
  exact Text.unescaped_append_iff.2 ⟨Text.unescaped_append_iff.2 ⟨hline', by decide⟩, h⟩

theorem unescaped_text (topic : Topic) : Unescaped topic.text := by
  -- line by line, as a list of characters: this is much faster to check than the whole text
  cases topic <;> unfold Topic.text <;> repeat refine unescaped_lines_cons (by decide) ?_
  all_goals decide

theorem unescaped_output_run (environment : Environment) (arguments : List String) :
    Unescaped (run environment arguments).output := by
  rcases hline : readLine arguments with (error | topic | -) | request
  · rw [run, hline]
    exact List.not_mem_nil
  · rw [run, hline]
    exact unescaped_text topic
  · rw [run, hline]
    exact (by decide : Unescaped versionText)
  · rw [run_of_readLine hline, run_eq]
    exact unescaped_output _ _

/-- The exit code and the output of a line are the same wherever it is run. They stay the same with
`-v` in front of a line that does something and does not ask for events itself, and no output has an
escape character in it, be it a result or a text that explains. -/
theorem output_apart :
    (∀ (arguments : List String) (environment environment' : Environment),
      (run environment arguments).Agrees (run environment' arguments)) ∧
    (∀ {arguments : List String} {request : Request}, readLine arguments = .ok request →
      request.isVerbose = false → ∀ environment environment' : Environment,
        (run environment ("-v" :: arguments)).Agrees (run environment' arguments)) ∧
    ∀ (arguments : List String) (environment : Environment),
      '\x1b' ∉ (run environment arguments).output.toList := by
  refine ⟨fun arguments environment environment' =>
    agrees_of_environment environment environment' arguments,
    fun {arguments} {request} h hquiet environment environment' => ?_,
    fun arguments environment => unescaped_output_run environment arguments⟩
  have hverbose := agrees_cons_verbose environment h hquiet
  exact hverbose.trans (agrees_of_environment environment environment' arguments)

/-- A line whose run finds a pair, with its events on a terminal and without them elsewhere. -/
theorem output_apart_found :
    (run ⟨some "kata=trace", false, true⟩ ("-v" :: foundLine)).exit = 0 ∧
    (run ⟨some "kata=trace", false, true⟩ ("-v" :: foundLine)).output = "[0, 1]\n" ∧
    (run ⟨some "kata=trace", false, true⟩ foundLine).Agrees (run ⟨none, true, false⟩ foundLine) ∧
    '\x1b' ∉ (run ⟨some "kata=trace", false, true⟩ foundLine).output.toList := by
  obtain ⟨henvironment, hverbose, hescape⟩ := output_apart
  obtain ⟨hexit, houtput⟩ :=
    hverbose readLine_foundLine rfl ⟨some "kata=trace", false, true⟩ ⟨none, true, false⟩
  refine ⟨hexit.trans ?_, houtput.trans ?_, henvironment _ _ _, hescape _ _⟩
  · rw [run_of_readLine readLine_foundLine, run_eq, perform_found]
    rfl
  · rw [run_of_readLine readLine_foundLine, run_eq, perform_found]
    rfl

end Seek.Command
