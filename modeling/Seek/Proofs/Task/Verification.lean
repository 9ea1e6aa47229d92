import Seek.Proofs.Bind
import Seek.Proofs.Task.Run

/-!
Verification, stage by stage. A stage is passed or not on its own: a call exits with zero, a file
can be read, a function is in the source, it is in the copy, and the two are alike. Verification
reports the first stage in this order that is not passed, whatever else is wrong behind it. What is
reported, which calls are planned and which files and functions are looked at is written out here
(`Stage.messages`, `Task.planned`, `Project.Aligned`), apart from the plans that say so. Main
statement: every task makes its planned calls up to the first that fails, and exits with zero
exactly where all of them do and, for verification, the copies are aligned; only then the line of
success is printed.
-/

namespace Seek

/-! ### Stages -/

/-- The function of this name in a file that can be read. -/
def Project.function? (project : Project) (path name : String) : Option (List Char) :=
  (project.read path).toOption.bind fun text => Drift.body text.toList name.toList

theorem Project.function?_of_read {project : Project} {path name text : String}
    (h : project.read path = .ok text) :
    project.function? path name = Drift.body text.toList name.toList := by
  rw [function?, h]
  rfl

/-- What has to hold for verification to pass. -/
inductive Stage where
  /-- The call of this number exits with zero. -/
  | call (number : Nat) (call : ToolCall)
  /-- The file can be read. -/
  | readable (path : String)
  /-- The source has the function. -/
  | inSource (name : String)
  /-- The copy has the function. -/
  | inCopy (name : String)
  /-- The functions are alike but for comments and blanks. -/
  | alike (name : String)
  deriving DecidableEq, Repr

namespace Stage

/-- How the stage fails, if it does, whatever the other stages come to. -/
def failure? (project : Project) (exits : List UInt8) : Stage → Option Failure
  | .call number made => if exits.getD number 0 = 0 then none else some (.failed made)
  | .readable path => (error? (project.read path)).map (.unreadable path)
  | .inSource name =>
    if (project.function? Task.sourcePath name).isSome then none
    else some (.drifted (.notInSource name))
  | .inCopy name =>
    if (project.function? Task.copyPath name).isSome then none
    else some (.drifted (.notInCopy name))
  | .alike name =>
    if (project.function? Task.sourcePath name).map Drift.normalForm =
        (project.function? Task.copyPath name).map Drift.normalForm then none
    else some (.drifted (.differs name))

/-- The stages of one function. -/
def comparisons (name : String) : List Stage := [.inSource name, .inCopy name, .alike name]

/-- The stages that look at the files. -/
def ofFiles : List Stage :=
  [.readable Task.sourcePath, .readable Task.copyPath] ++ Drift.carried.flatMap comparisons

/-- The failure of the first stage that is not passed. -/
def firstFailure? (project : Project) (exits : List UInt8) (stages : List Stage) : Option Failure :=
  stages.findSome? (failure? project exits)

end Stage

/-! ### Reports -/

/-- What is said of a path that cannot be read. -/
def Project.PathError.words : Project.PathError → String
  | .missing => "No such file or directory (os error 2)"
  | .isDirectory => "Is a directory (os error 21)"
  | .notDirectory => "Not a directory (os error 20)"
  | .notText => "stream did not contain valid UTF-8"

namespace Stage

/-- The stages of verification in order, each with the message of its failure. -/
def messages : List (Stage × String) :=
  [(.call 0 ⟨"", ["test", "--quiet"]⟩, "cargo [\"test\", \"--quiet\"] failed"),
   (.call 1 ⟨"", ["clippy", "--quiet", "--", "-D", "warnings"]⟩,
    "cargo [\"clippy\", \"--quiet\", \"--\", \"-D\", \"warnings\"] failed"),
   (.readable "src/search.rs", "Failed to read src/search.rs"),
   (.readable "kani-proofs/src/lib.rs", "Failed to read kani-proofs/src/lib.rs"),
   (.inSource "midpoint", "fn midpoint not found in src/search.rs"),
   (.inCopy "midpoint", "fn midpoint not found in kani-proofs"),
   (.alike "midpoint", "kani-proofs copy of \x60midpoint\x60 differs from src/search.rs"),
   (.inSource "search_position", "fn search_position not found in src/search.rs"),
   (.inCopy "search_position", "fn search_position not found in kani-proofs"),
   (.alike "search_position",
    "kani-proofs copy of \x60search_position\x60 differs from src/search.rs")]

/-- What is reported of a stage with this message if it is not passed, whatever the other stages
come to. Of a file that cannot be read the cause is told too. -/
def report? (project : Project) (exits : List UInt8) : Stage × String → Option String
  | (.call number _, message) =>
    if exits.getD number 0 = 0 then none else some ("Error: " ++ message ++ "\n")
  | (.readable path, message) =>
    (error? (project.read path)).map fun cause =>
      "Error: " ++ message ++ "\n\nCaused by:\n    " ++ cause.words ++ "\n"
  | (.inSource name, message) =>
    if (project.function? "src/search.rs" name).isSome then none
    else some ("Error: " ++ message ++ "\n")
  | (.inCopy name, message) =>
    if (project.function? "kani-proofs/src/lib.rs" name).isSome then none
    else some ("Error: " ++ message ++ "\n")
  | (.alike name, message) =>
    if (project.function? "src/search.rs" name).map Drift.normalForm =
        (project.function? "kani-proofs/src/lib.rs" name).map Drift.normalForm then none
    else some ("Error: " ++ message ++ "\n")

end Stage

/-! ### Copies -/

/-- Both files can be read, and each of the two functions is found in both of them, alike but for
comments and blanks. -/
def Project.Aligned (project : Project) : Prop :=
  ∃ source copy, project.read "src/search.rs" = .ok source ∧
    project.read "kani-proofs/src/lib.rs" = .ok copy ∧
    ∀ name ∈ ["midpoint", "search_position"], ∃ here there,
      Drift.body source.toList name.toList = some here ∧
      Drift.body copy.toList name.toList = some there ∧
      Drift.normalForm here = Drift.normalForm there

theorem Drift.compareOne_eq_ok_iff {source copy : List Char} {name : String} :
    compareOne source copy name = .ok () ↔ ∃ here there, body source name.toList = some here ∧
      body copy name.toList = some there ∧ normalForm here = normalForm there := by
  unfold compareOne
  cases body source name.toList with
  | none => simp
  | some here =>
    cases body copy name.toList with
    | none => simp
    | some there => simp

variable {project : Project} {exits : List UInt8}

theorem Drift.compareAll_eq_ok_iff {source copy : List Char} : compareAll source copy = .ok () ↔
    ∀ name ∈ carried, ∃ here there, body source name.toList = some here ∧
      body copy name.toList = some there ∧ normalForm here = normalForm there := by
  simp only [compareAll, forM_eq_ok_iff, compareOne_eq_ok_iff]

theorem Project.compareCopies_eq_ok_iff : project.compareCopies = .ok () ↔ project.Aligned := by
  simp only [compareCopies, require, Aligned, bind_eq_ok_iff, mapError_eq_ok_iff,
    Drift.compareAll_eq_ok_iff, exists_and_left, Drift.carried, Task.sourcePath, Task.copyPath]

/-! ### The first failure -/

theorem Stage.firstFailure?_append (stages others : List Stage) :
    firstFailure? project exits (stages ++ others) =
      (firstFailure? project exits stages).or (firstFailure? project exits others) :=
  List.findSome?_append

/-- The comparison of one function fails as the first of its stages that is not passed. -/
theorem error?_compareOne {source copy : String}
    (hsource : project.read Task.sourcePath = .ok source)
    (hcopy : project.read Task.copyPath = .ok copy) (name : String) :
    (error? (Drift.compareOne source.toList copy.toList name)).map .drifted =
      Stage.firstFailure? project exits (Stage.comparisons name) := by
  simp only [Stage.firstFailure?, Stage.comparisons, List.findSome?_cons, List.findSome?_nil,
    Stage.failure?, Project.function?_of_read hsource, Project.function?_of_read hcopy,
    Drift.compareOne]
  cases Drift.body source.toList name.toList with
  | none => rfl
  | some here =>
    cases Drift.body copy.toList name.toList with
    | none => rfl
    | some there =>
      by_cases hsame : Drift.normalForm here = Drift.normalForm there <;>
        simp [hsame, error?]

theorem error?_forM_compareOne {source copy : String}
    (hsource : project.read Task.sourcePath = .ok source)
    (hcopy : project.read Task.copyPath = .ok copy) (names : List String) :
    (error? (names.forM (Drift.compareOne source.toList copy.toList))).map .drifted =
      Stage.firstFailure? project exits (names.flatMap Stage.comparisons) := by
  rw [List.forM_eq_forM]
  induction names with
  | nil => rfl
  | cons name names ih =>
    rw [List.forM_cons, error?_bind, Option.map_or, error?_compareOne hsource hcopy, ih,
      List.flatMap_cons, Stage.firstFailure?_append]

/-- The comparison of the copies fails as the first stage on the files that is not passed. -/
theorem error?_compareCopies :
    error? project.compareCopies = Stage.firstFailure? project exits Stage.ofFiles := by
  rw [Project.compareCopies, Stage.ofFiles, Stage.firstFailure?_append]
  simp only [Project.require, Stage.firstFailure?, List.findSome?_cons, List.findSome?_nil,
    Stage.failure?]
  cases hsource : project.read Task.sourcePath with
  | error cause => rfl
  | ok source =>
    cases hcopy : project.read Task.copyPath with
    | error cause => rfl
    | ok copy =>
      have hcarried : _ = Stage.firstFailure? project exits _ :=
        error?_forM_compareOne hsource hcopy Drift.carried
      rw [← error?_mapError] at hcarried
      exact hcarried

/-! ### Runs -/

theorem Project.enter_root : project.enter "" = .ok () := by
  rw [enter, show Path.ofText "" = [] by decide]
  rfl

theorem Project.enter_proofDirectory (present : project.hasDirectory [Task.proofDirectory]) :
    project.enter Task.proofDirectory = .ok () := by
  rw [enter, show Path.ofText Task.proofDirectory = [Task.proofDirectory] by decide]
  exact if_pos present

/-- The stages of steps that call under this and later numbers. -/
def Stage.ofSteps (number : Nat) : List Step → List Stage
  | [] => []
  | .say _ :: steps => ofSteps number steps
  | .call made :: steps => .call number made :: ofSteps (number + 1) steps
  | .compare :: steps => ofFiles ++ ofSteps number steps

/-- A call of this number fails where the first of the exit codes that are left is not zero. -/
theorem Stage.failure?_call {number : Nat} {made : ToolCall} :
    failure? project exits (.call number made) =
      if (exits.drop number).headD 0 = 0 then none else some (.failed made) := by
  rw [failure?, List.headD_eq_head?_getD, List.head?_drop, List.getD_eq_getElem?_getD]

/-- A run fails as the first of its stages that is not passed. -/
theorem Follows.failure_eq {number : Nat} {steps : List Step} {run : TaskRun}
    (follows : Follows project (exits.drop number) steps run) :
    run.failure = Stage.firstFailure? project exits (Stage.ofSteps number steps) := by
  generalize hleft : exits.drop number = left at follows
  induction follows generalizing number with
  | done => rfl
  | said _ ih => exact ih hleft
  | @passed left made steps run hzero _ ih =>
    subst hleft
    rw [Stage.ofSteps, Stage.firstFailure?, List.findSome?_cons, Stage.failure?_call, if_pos hzero]
    exact ih List.tail_drop.symm
  | @failed left made steps hne =>
    subst hleft
    rw [Stage.ofSteps, Stage.firstFailure?, List.findSome?_cons, Stage.failure?_call, if_neg hne]
    rfl
  | aligned hok _ ih =>
    rw [Stage.ofSteps, Stage.firstFailure?_append, ← error?_compareCopies, hok]
    exact ih hleft
  | drifted herror =>
    rw [Stage.ofSteps, Stage.firstFailure?_append, ← error?_compareCopies, herror]
    rfl

/-! ### First reports -/

namespace Stage

/-- The message with which a run reports that the stage is not passed. -/
def message : Stage → String
  | .call _ made => (Failure.failed made).message
  | .readable path => (Failure.unreadable path .missing).message
  | .inSource name => (Failure.drifted (.notInSource name)).message
  | .inCopy name => (Failure.drifted (.notInCopy name)).message
  | .alike name => (Failure.drifted (.differs name)).message

/-- The plan of verification has these stages, and they fail with these messages. -/
theorem messages_eq :
    messages = (ofSteps 0 Task.verify.plan).map fun stage => (stage, stage.message) := by
  decide +kernel

theorem report?_message (stage : Stage) :
    report? project exits (stage, stage.message) =
      (failure? project exits stage).map Failure.report := by
  cases stage with
  | readable path =>
    rw [report?, failure?]
    cases project.read path with
    | ok text => rfl
    | error cause => cases cause <;> rfl
  | call number made | inSource name | inCopy name | alike name =>
    rw [failure?, apply_ite (Option.map Failure.report)]
    rfl

/-- The first stage that is not passed is the first of which something is reported. -/
theorem findSome?_report? : messages.findSome? (report? project exits) =
    (firstFailure? project exits (ofSteps 0 Task.verify.plan)).map Failure.report := by
  have hreport : (report? project exits ∘ fun stage => (stage, stage.message)) =
      Option.map Failure.report ∘ failure? project exits := funext report?_message
  rw [messages_eq, List.findSome?_map, hreport, firstFailure?, List.map_findSome?]

end Stage

/-! ### Tasks -/

/-- The line that tells that verification has passed. -/
def Task.passedLine : String := "✓ ALL VERIFICATION CHECKS PASSED"

/-- The calls that are planned for the task of this name; there are none where no task has it. -/
def Task.callsOf : String → List ToolCall
  | "verify" => [⟨"", ["test", "--quiet"]⟩, ⟨"", ["clippy", "--quiet", "--", "-D", "warnings"]⟩]
  | "test" => [⟨"", ["test"]⟩]
  | "check" =>
    [⟨"", ["check"]⟩, ⟨"", ["test", "--quiet"]⟩,
     ⟨"", ["clippy", "--quiet", "--", "-D", "warnings"]⟩]
  | "bench" => [⟨"", ["bench"]⟩]
  | "fuzz" =>
    [⟨"", ["+nightly", "fuzz", "run", "binary_search", "--", "-max_total_time=30"]⟩,
     ⟨"", ["+nightly", "fuzz", "run", "pair_sum", "--", "-max_total_time=30"]⟩]
  | "kani" => [⟨"kani-proofs", ["kani"]⟩]
  | _ => []

/-- The calls that are planned for the first argument. -/
def Task.planned (arguments : List String) : List ToolCall := (arguments.head?.map callsOf).getD []

theorem Task.callsOf_eq (name : String) :
    callsOf name = ((ofName? name).map fun task => Step.calls task.plan).getD [] := by
  fun_cases ofName? name
  case case7 => simp [callsOf, *]
  all_goals rfl

theorem Task.planned_eq (arguments : List String) : planned arguments =
    ((arguments.head?.bind ofName?).map fun task => Step.calls task.plan).getD [] := by
  rw [planned]
  cases arguments.head? with
  | none => rfl
  | some name => exact callsOf_eq name

theorem Task.ofName?_eq_verify_iff {name : String} :
    ofName? name = some .verify ↔ name = "verify" := by
  constructor
  · intro h
    unfold ofName? at h
    split at h <;> first | rfl | cases h
  · rintro rfl
    rfl

theorem Task.follows_run (present : project.hasDirectory [proofDirectory]) (task : Task) :
    Follows project exits task.plan (task.run project ⟨true, exits⟩) := by
  refine follows_runSteps fun call hcall => ?_
  have hdirectory : call.directory = "" ∨ call.directory = proofDirectory := by
    revert call
    cases task <;> decide
  rcases hdirectory with h | h
  · rw [h, Project.enter_root]
  · rw [h, Project.enter_proofDirectory present]

/-- A task fails as the first of the stages of its plan that is not passed. -/
theorem Task.failure_run (present : project.hasDirectory [proofDirectory]) (task : Task) :
    (task.run project ⟨true, exits⟩).failure =
      Stage.firstFailure? project exits (Stage.ofSteps 0 task.plan) :=
  have follows : Follows project (exits.drop 0) task.plan (task.run project ⟨true, exits⟩) :=
    follows_run present task
  follows.failure_eq

theorem TaskRun.exit_eq_zero_iff {run : TaskRun} : run.exit = 0 ↔ run.failure = none := by
  rw [exit]
  cases run.failure <;> simp

/-- The line of success is printed exactly where verification does not fail. -/
theorem passedLine_mem_iff {run : TaskRun} (follows : Follows project exits Task.verify.plan run) :
    Task.passedLine.toList ∈ Text.parts '\n' run.printed.toList ↔ run.failure = none := by
  constructor
  · intro hmem
    -- No text in front of the last one has this letter.
    have hletter : 'E' ∈ run.printed.toList := Text.mem_of_mem_parts hmem (by decide)
    have hfront : ∀ step ∈ Task.verify.plan.dropLast, 'E' ∉ step.text.toList := by
      decide +kernel
    refine Decidable.byContradiction fun hfailure => ?_
    obtain ⟨step, hstep, hc⟩ := follows.exists_text_of_mem hfailure hletter
    exact hfront step hstep hc
  · intro hnone
    rw [follows.printed_eq_join hnone, String.toList_join, List.flatMap_map]
    -- The texts are cut into characters one by one, which is much faster than cutting their sum.
    simp only [Task.plan, List.flatMap_cons, List.flatMap_nil, Step.text, String.toList_append]
    decide +kernel

/-- The exit code is zero exactly where all planned calls exit with zero and, for verification, the
copies are aligned. -/
theorem Task.exit_run_eq_zero_iff (present : project.hasDirectory [proofDirectory]) (task : Task) :
    (task.run project ⟨true, exits⟩).exit = 0 ↔
      (∀ i < (Step.calls task.plan).length, exits.getD i 0 = 0) ∧
      (task = .verify → project.Aligned) := by
  have hcompares : .compare ∈ task.plan ↔ task = .verify := by cases task <;> decide
  rw [TaskRun.exit_eq_zero_iff, (follows_run present task).failure_eq_none_iff,
    Project.compareCopies_eq_ok_iff, hcompares]

/-- Over every project with a directory of copies, with a build tool that exits with any codes: the
calls that are made are those planned for the first argument up to the first that fails, and the
exit code is zero exactly where all of these exit with zero and, for verification, the copies are
aligned. Verification prints the line of success exactly where its exit code is zero; it reports
nothing then, and the first stage that is not passed otherwise. -/
theorem report_ends_at_first_failure (project : Project) (exits : List UInt8)
    (arguments : List String) (present : project.hasDirectory ["kani-proofs"]) :
    CutAtFailure exits (Task.planned arguments)
      (Task.report project ⟨true, exits⟩ arguments).calls ∧
    ((Task.report project ⟨true, exits⟩ arguments).exit = 0 ↔
      (∀ i < (Task.planned arguments).length, exits.getD i 0 = 0) ∧
      (arguments.head? = some "verify" → project.Aligned)) ∧
    (arguments.head? = some "verify" →
      (Task.passedLine.toList ∈
          Text.parts '\n' (Task.report project ⟨true, exits⟩ arguments).output.toList ↔
        (Task.report project ⟨true, exits⟩ arguments).exit = 0) ∧
      ((Task.report project ⟨true, exits⟩ arguments).exit = 0 →
        (Task.report project ⟨true, exits⟩ arguments).diagnostics = "") ∧
      ((Task.report project ⟨true, exits⟩ arguments).exit ≠ 0 →
        Stage.messages.findSome? (Stage.report? project exits) =
          some (Task.report project ⟨true, exits⟩ arguments).diagnostics)) := by
  have hverify : arguments.head? = some "verify" ↔
      arguments.head?.bind Task.ofName? = some .verify := by
    cases arguments.head? <;> simp [Task.ofName?_eq_verify_iff]
  rw [hverify, Task.report, Task.planned_eq]
  cases arguments.head?.bind Task.ofName? with
  | none => exact ⟨.nil, by simp, by simp⟩
  | some task =>
    have follows : Follows project exits task.plan (task.run project ⟨true, exits⟩) :=
      Task.follows_run present task
    rw [Option.some.injEq]
    refine ⟨follows.cutAtFailure ?_, Task.exit_run_eq_zero_iff present task, ?_⟩
    · cases task <;> decide
    · rintro rfl
      have hfirst : _ = Stage.firstFailure? project exits (Stage.ofSteps 0 Task.verify.plan) :=
        Task.failure_run present .verify
      dsimp only
      rw [passedLine_mem_iff follows, Ne, TaskRun.exit_eq_zero_iff, Stage.findSome?_report?,
        ← hfirst, TaskRun.report]
      cases (Task.verify.run project ⟨true, exits⟩).failure with
      | none => exact ⟨Iff.rfl, fun _ => rfl, fun hne => absurd rfl hne⟩
      | some failure => exact ⟨Iff.rfl, (nomatch ·), fun _ => rfl⟩

/-- A source that is no text. -/
def unreadableProject : Project :=
  .ofBytes [("src/search.rs", ⟨#[0x66, 0x6e, 0xff]⟩), ("kani-proofs/Cargo.toml", ⟨#[]⟩)]

/-- A copy of which the second function has drifted. -/
def driftedProject : Project :=
  .ofFiles
    [("src/search.rs", "fn midpoint() \x7b\x7d fn search_position<T>() \x7b low \x7d"),
     ("kani-proofs/src/lib.rs", "fn midpoint() \x7b\x7d fn search_position<T>() \x7b high \x7d")]

/-- Of a call that fails and a file that cannot be read the call is reported, and where all calls
pass it is the file, or else the function that has drifted. -/
theorem report_ends_at_first_failure_first :
    unreadableProject.hasDirectory ["kani-proofs"] ∧ driftedProject.hasDirectory ["kani-proofs"] ∧
    ["verify", "fuzz"].head? = some "verify" ∧
    (Task.report unreadableProject ⟨true, [0, 101]⟩ ["verify", "fuzz"]).exit ≠ 0 ∧
    (Task.report unreadableProject ⟨true, [0, 101]⟩ ["verify", "fuzz"]).diagnostics =
      "Error: cargo [\"clippy\", \"--quiet\", \"--\", \"-D\", \"warnings\"] failed\n" ∧
    (Task.report unreadableProject ⟨true, []⟩ ["verify", "fuzz"]).exit ≠ 0 ∧
    (Task.report unreadableProject ⟨true, []⟩ ["verify", "fuzz"]).diagnostics =
      "Error: Failed to read src/search.rs\n\n" ++
        "Caused by:\n    stream did not contain valid UTF-8\n" ∧
    (Task.report driftedProject ⟨true, []⟩ ["verify", "fuzz"]).exit ≠ 0 ∧
    (Task.report driftedProject ⟨true, []⟩ ["verify", "fuzz"]).diagnostics =
      "Error: kani-proofs copy of \x60search_position\x60 differs from src/search.rs\n" := by
  have hunreadable : unreadableProject.hasDirectory ["kani-proofs"] := by decide
  have hdrifted : driftedProject.hasDirectory ["kani-proofs"] := by decide +kernel
  have hlint : (Task.report unreadableProject ⟨true, [0, 101]⟩ ["verify", "fuzz"]).exit ≠ 0 := by
    decide +kernel
  have hread : (Task.report unreadableProject ⟨true, []⟩ ["verify", "fuzz"]).exit ≠ 0 := by
    decide +kernel
  have hcompare : (Task.report driftedProject ⟨true, []⟩ ["verify", "fuzz"]).exit ≠ 0 := by
    decide +kernel
  have hfirst (project : Project) (exits : List UInt8) (text : String)
      (present : project.hasDirectory ["kani-proofs"])
      (hne : (Task.report project ⟨true, exits⟩ ["verify", "fuzz"]).exit ≠ 0)
      (htext : Stage.messages.findSome? (Stage.report? project exits) = some text) :
      (Task.report project ⟨true, exits⟩ ["verify", "fuzz"]).diagnostics = text := by
    obtain ⟨-, -, hverify⟩ := report_ends_at_first_failure project exits ["verify", "fuzz"] present
    obtain ⟨-, -, hreported⟩ := hverify rfl
    exact Option.some.inj ((hreported hne).symm.trans htext)
  exact ⟨hunreadable, hdrifted, rfl, hlint, hfirst _ _ _ hunreadable hlint (by decide +kernel),
    hread, hfirst _ _ _ hunreadable hread (by decide +kernel), hcompare,
    hfirst _ _ _ hdrifted hcompare (by decide +kernel)⟩

end Seek
