import Seek.Drift
import Seek.Element
import Seek.Project

/-!
Tasks: what can be run over a project, as fixed plans of steps. A step prints a text, calls the
build tool, or compares the copies that proofs are about with their source. A plan runs from the
front and ends at the first step that fails; that failure is reported, with its cause if it has one.
-/

namespace Seek

/-- A call of the build tool. -/
structure ToolCall where
  /-- The directory to work in, from the root of the project. -/
  directory : String
  arguments : List String
  deriving DecidableEq, Repr

/-- One step of a plan. -/
inductive Step where
  /-- Print a text. -/
  | say (text : String)
  /-- Call the build tool. -/
  | call (call : ToolCall)
  /-- Compare the copies with their source. -/
  | compare
  deriving DecidableEq, Repr

/-! ### Plans -/

/-- What can be run over a project. -/
inductive Task where
  | verify
  | test
  | check
  | bench
  | fuzz
  | prove
  deriving DecidableEq, Repr

namespace Task

/-- The task of this name. -/
def ofName? : String → Option Task
  | "verify" => some .verify
  | "test" => some .test
  | "check" => some .check
  | "bench" => some .bench
  | "fuzz" => some .fuzz
  | "kani" => some .prove
  | _ => none

/-- The directory of the copies that proofs are about. -/
def proofDirectory : String := "kani-proofs"

/-- The file of the copies that proofs are about. -/
def copyPath : String := "kani-proofs/src/lib.rs"

/-- The file that they are copies from. -/
def sourcePath : String := "src/search.rs"

/-- What is run with arbitrary inputs. -/
def fuzzTargets : List String := ["binary_search", "pair_sum"]

/-- The seconds for which each of them is run. -/
def fuzzSeconds : Nat := 30

/-- A call at the root of the project. -/
def tool (arguments : List String) : Step := .call ⟨"", arguments⟩

/-- The call that looks for suspicious code. -/
def lint : Step := tool ["clippy", "--quiet", "--", "-D", "warnings"]

/-- The line that sets off a title. -/
def rule : String := "==========================================\n"

/-- The steps of one run with arbitrary inputs. -/
def fuzzSteps (target : String) : List Step :=
  [.say s!"Fuzzing {target} for {fuzzSeconds}s...\n",
   tool ["+nightly", "fuzz", "run", target, "--", s!"-max_total_time={fuzzSeconds}"]]

/-- The steps of a task. -/
def plan : Task → List Step
  | .verify =>
    [.say (rule ++ "kata Verification Suite\n" ++ rule ++ "\n"),
     .say "[1/3] Running Rust tests...\n", tool ["test", "--quiet"],
     .say "✓ All Rust tests passed\n\n",
     .say "[2/3] Running clippy...\n", lint,
     .say "✓ Clippy passed\n\n",
     .say "[3/3] Checking Kani copies match src/...\n", .compare,
     .say "✓ Proof copies aligned\n\n",
     .say (rule ++ "✓ ALL VERIFICATION CHECKS PASSED\n" ++ rule)]
  | .test => [tool ["test"]]
  | .check =>
    [.say "Running quick checks...\n\n",
     .say "[1/3] cargo check...\n", tool ["check"],
     .say "[2/3] cargo test...\n", tool ["test", "--quiet"],
     .say "[3/3] cargo clippy...\n", lint,
     .say "\n✓ Quick checks passed\n"]
  | .bench => [tool ["bench"]]
  | .fuzz => fuzzTargets.flatMap fuzzSteps ++ [.say "\n✓ No crashes found\n"]
  | .prove => [.call ⟨proofDirectory, ["kani"]⟩]

end Task

/-! ### Failures -/

/-- Why a task did not come to its end. -/
inductive Failure where
  /-- The build tool could not be called. -/
  | notStarted (call : ToolCall) (cause : Project.PathError)
  /-- The build tool was not content. -/
  | failed (call : ToolCall)
  /-- A file could not be read. -/
  | unreadable (path : String) (cause : Project.PathError)
  /-- A copy has drifted from its source. -/
  | drifted (difference : Drift.Difference)
  deriving DecidableEq, Repr

namespace Failure

/-- The failure in words. -/
def message : Failure → String
  | .notStarted call _ =>
    if call.directory = Task.proofDirectory then "Failed to run cargo kani (is it installed?)"
    else s!"Failed to run cargo {shown call.arguments}"
  | .failed call =>
    if call.directory = Task.proofDirectory then "Kani proofs failed"
    else s!"cargo {shown call.arguments} failed"
  | .unreadable path _ => s!"Failed to read {path}"
  | .drifted (.notInSource name) => s!"fn {name} not found in {Task.sourcePath}"
  | .drifted (.notInCopy name) => s!"fn {name} not found in {Task.proofDirectory}"
  | .drifted (.differs name) =>
    s!"{Task.proofDirectory} copy of \x60{name}\x60 differs from {Task.sourcePath}"

/-- What the system says about it. -/
def cause? : Failure → Option Project.PathError
  | .notStarted _ cause => some cause
  | .unreadable _ cause => some cause
  | .failed _ => none
  | .drifted _ => none

/-- The failure with its cause, as it is reported. -/
def report (failure : Failure) : String :=
  match failure.cause? with
  | none => s!"Error: {failure.message}\n"
  | some cause => s!"Error: {failure.message}\n\nCaused by:\n    {cause.message}\n"

end Failure

/-! ### Runs -/

/-- The build tool, as far as a run can see it. -/
structure Tool where
  isInstalled : Bool
  /-- The exit codes of the calls to come; later calls exit with zero. -/
  exits : List UInt8
  deriving DecidableEq, Repr

/-- What a run of steps did. -/
structure TaskRun where
  printed : String
  calls : List ToolCall
  failure : Option Failure
  deriving DecidableEq, Repr

namespace TaskRun

/-- Nothing is left to do. -/
def done : TaskRun := ⟨"", [], none⟩

/-- The run ends here. -/
def stop (failure : Failure) : TaskRun := ⟨"", [], some failure⟩

/-- The same run, with a text printed before it. -/
def afterText (text : String) (run : TaskRun) : TaskRun :=
  { run with printed := text ++ run.printed }

/-- The same run, with a call made before it. -/
def afterCall (call : ToolCall) (run : TaskRun) : TaskRun := { run with calls := call :: run.calls }

/-- The exit code: zero if nothing failed. -/
def exit (run : TaskRun) : Nat := if run.failure.isNone then 0 else 1

/-- The report of the failure, if there is one. -/
def report (run : TaskRun) : String := (run.failure.map Failure.report).getD ""

end TaskRun

/-- The text of a file that a comparison needs. -/
def Project.require (project : Project) (path : String) : Except Failure String :=
  (project.read path).mapError (.unreadable path)

/-- Compares the copies of a project with their source. Both files are read first. -/
def Project.compareCopies (project : Project) : Except Failure Unit := do
  let source ← project.require Task.sourcePath
  let copy ← project.require Task.copyPath
  (Drift.compareAll source.toList copy.toList).mapError .drifted

/-- Runs the steps over a project. -/
def runSteps (project : Project) (tool : Tool) : List Step → TaskRun
  | [] => .done
  | .say text :: steps => .afterText text (runSteps project tool steps)
  | .call call :: steps =>
    match project.enter call.directory with
    | .error cause => .stop (.notStarted call cause)
    | .ok () =>
      if tool.isInstalled then
        .afterCall call <|
          if tool.exits.headD 0 = 0 then
            runSteps project { tool with exits := tool.exits.tail } steps
          else .stop (.failed call)
      else .stop (.notStarted call .missing)
  | .compare :: steps =>
    match project.compareCopies with
    | .error failure => .stop failure
    | .ok () => runSteps project tool steps

/-- Does a task over a project. -/
def Task.run (project : Project) (tool : Tool) (task : Task) : TaskRun :=
  runSteps project tool task.plan

/-- The tasks that can be run. -/
def Task.help : String :=
  "\ncargo xtask <COMMAND>\n\n" ++
  "Commands:\n" ++
  "  verify    Run full verification suite (tests + clippy + proof copy drift)\n" ++
  "  test      Run all Rust tests\n" ++
  "  check     Quick check (cargo check + test + clippy)\n" ++
  "  bench     Run benchmarks\n" ++
  s!"  fuzz      Run each fuzz target for {fuzzSeconds}s (needs cargo-fuzz, nightly)\n" ++
  "  kani      Run Kani proofs (needs cargo-kani)\n\n"

/-- What is seen of a run from outside. -/
structure TaskReport where
  exit : Nat
  output : String
  diagnostics : String
  calls : List ToolCall
  deriving DecidableEq, Repr

/-- Does the task that the first argument names, or tells which tasks there are. -/
def Task.report (project : Project) (tool : Tool) (arguments : List String) : TaskReport :=
  match arguments.head?.bind Task.ofName? with
  | none => ⟨0, "", Task.help, []⟩
  | some task =>
    let done := task.run project tool
    ⟨done.exit, done.printed, done.report, done.calls⟩

end Seek
