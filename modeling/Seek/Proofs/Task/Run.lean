import Seek.Task

/-!
Runs of plans. A run goes through the steps of its plan one by one, and ends at the first that
fails. Main statements: the calls that are made are those planned up to the first that fails
(`Follows.cutAtFailure`), nothing fails exactly where no call does and no copy has drifted
(`Follows.failure_eq_none_iff`), and the last text of a plan is printed only where nothing fails.

The build tool is installed here, and the directories that it is called in are there.
-/

namespace Seek

/-! ### What steps do -/

/-- The call that a step makes, if it makes one. -/
def Step.call? : Step → Option ToolCall
  | .say _ => none
  | .call made => some made
  | .compare => none

/-- The text that a step prints. -/
def Step.text : Step → String
  | .say text => text
  | .call _ => ""
  | .compare => ""

/-- The calls of steps, in order. -/
def Step.calls (steps : List Step) : List ToolCall := steps.filterMap Step.call?

@[simp] theorem Step.calls_nil : Step.calls [] = [] := rfl

@[simp] theorem Step.calls_say (text : String) (steps : List Step) :
    Step.calls (.say text :: steps) = Step.calls steps := rfl

@[simp] theorem Step.calls_call (made : ToolCall) (steps : List Step) :
    Step.calls (.call made :: steps) = made :: Step.calls steps := rfl

@[simp] theorem Step.calls_compare (steps : List Step) :
    Step.calls (.compare :: steps) = Step.calls steps := rfl

/-- The last argument is the run of the steps, where the calls exit with these codes and later ones
with zero. -/
inductive Follows (project : Project) : List UInt8 → List Step → TaskRun → Prop
  | done {exits : List UInt8} : Follows project exits [] .done
  | said {exits : List UInt8} {text : String} {steps : List Step} {run : TaskRun} :
    Follows project exits steps run →
    Follows project exits (.say text :: steps) (.afterText text run)
  | passed {exits : List UInt8} {call : ToolCall} {steps : List Step} {run : TaskRun} :
    exits.headD 0 = 0 → Follows project exits.tail steps run →
    Follows project exits (.call call :: steps) (.afterCall call run)
  | failed {exits : List UInt8} {call : ToolCall} {steps : List Step} :
    exits.headD 0 ≠ 0 →
    Follows project exits (.call call :: steps) (.afterCall call (.stop (.failed call)))
  | aligned {exits : List UInt8} {steps : List Step} {run : TaskRun} :
    project.compareCopies = .ok () → Follows project exits steps run →
    Follows project exits (.compare :: steps) run
  | drifted {exits : List UInt8} {steps : List Step} {failure : Failure} :
    project.compareCopies = .error failure →
    Follows project exits (.compare :: steps) (.stop failure)

variable {project : Project} {exits : List UInt8} {steps : List Step} {run : TaskRun}

theorem follows_runSteps
    (reachable : ∀ call ∈ Step.calls steps, project.enter call.directory = .ok ()) :
    Follows project exits steps (runSteps project ⟨true, exits⟩ steps) := by
  induction steps generalizing exits with
  | nil => exact .done
  | cons step steps ih =>
    cases step with
    | say text => exact .said (ih reachable)
    | call call =>
      obtain ⟨henter, hrest⟩ := List.forall_mem_cons.1 reachable
      simp only [runSteps, henter, if_true]
      split
      · exact .passed ‹_› (ih hrest)
      · exact .failed ‹_›
    | compare =>
      rw [runSteps]
      split
      · exact .drifted ‹_›
      · exact .aligned ‹_› (ih reachable)

/-! ### Calls that are made -/

/-- Of the calls that are planned, those are made before which every call exited with zero. -/
structure CutAtFailure (exits : List UInt8) (planned made : List ToolCall) : Prop where
  isPrefix : made <+: planned
  made_iff : ∀ i, i < made.length ↔ i < planned.length ∧ ∀ j < i, exits.getD j 0 = 0

/-- All codes up to a place are zero where the first is, and all behind it. -/
theorem forall_lt_succ_getD_iff {n : Nat} : (∀ i < n + 1, exits.getD i 0 = 0) ↔
    exits.headD 0 = 0 ∧ ∀ i < n, exits.tail.getD i 0 = 0 := by
  rw [Nat.forall_lt_succ_left]
  cases exits <;> simp

theorem CutAtFailure.nil : CutAtFailure exits [] [] :=
  ⟨List.prefix_rfl, fun i => by simp⟩

theorem CutAtFailure.cons_of_zero {planned made : List ToolCall} {call : ToolCall}
    (hzero : exits.headD 0 = 0) (h : CutAtFailure exits.tail planned made) :
    CutAtFailure exits (call :: planned) (call :: made) := by
  refine ⟨List.cons_prefix_cons.2 ⟨rfl, h.isPrefix⟩, fun i => ?_⟩
  cases i with
  | zero => simp
  | succ i =>
    rw [forall_lt_succ_getD_iff, List.length_cons, List.length_cons, Nat.add_lt_add_iff_right,
      Nat.add_lt_add_iff_right, h.made_iff]
    exact and_congr_right fun _ => (and_iff_right hzero).symm

theorem CutAtFailure.cons_of_ne {planned : List ToolCall} {call : ToolCall}
    (hne : exits.headD 0 ≠ 0) : CutAtFailure exits (call :: planned) [call] := by
  refine ⟨List.cons_prefix_cons.2 ⟨rfl, List.nil_prefix⟩, fun i => ?_⟩
  cases i with
  | zero => simp
  | succ i =>
    rw [forall_lt_succ_getD_iff]
    exact iff_of_false (by simp) fun h => hne h.2.1

/-- Where no call is planned behind a comparison, the calls are cut at the first that fails. -/
theorem Follows.cutAtFailure (follows : Follows project exits steps run)
    (comparesLast : steps.Pairwise fun step later => step = .compare → later.call? = none) :
    CutAtFailure exits (Step.calls steps) run.calls := by
  induction follows with
  | done => exact .nil
  | said _ ih => exact ih (List.pairwise_cons.1 comparesLast).2
  | passed hzero _ ih => exact .cons_of_zero hzero (ih (List.pairwise_cons.1 comparesLast).2)
  | failed hne => exact .cons_of_ne hne
  | aligned _ _ ih => exact ih (List.pairwise_cons.1 comparesLast).2
  | @drifted _ steps _ _ =>
    have hnone : Step.calls (.compare :: steps) = [] :=
      List.filterMap_eq_nil_iff.2 <| List.forall_mem_cons.2
        ⟨rfl, fun step hstep => (List.pairwise_cons.1 comparesLast).1 step hstep rfl⟩
    rw [hnone]
    exact .nil

/-! ### Failures -/

/-- Nothing fails where all calls exit with zero and the copies that are compared are aligned. -/
theorem Follows.failure_eq_none_iff (follows : Follows project exits steps run) :
    run.failure = none ↔ (∀ i < (Step.calls steps).length, exits.getD i 0 = 0) ∧
      (.compare ∈ steps → project.compareCopies = .ok ()) := by
  induction follows with
  | done => simp [TaskRun.done]
  | said _ ih => simpa [TaskRun.afterText] using ih
  | passed hzero _ ih =>
    rw [Step.calls_call, List.length_cons, forall_lt_succ_getD_iff, and_iff_right hzero]
    simpa [TaskRun.afterCall] using ih
  | failed hne =>
    rw [Step.calls_call, List.length_cons, forall_lt_succ_getD_iff]
    exact iff_of_false (by simp [TaskRun.afterCall, TaskRun.stop]) fun h => hne h.1.1
  | aligned hok _ ih => simpa [hok] using ih
  | drifted herror => simp [TaskRun.stop, herror]

/-! ### Texts that are printed -/

/-- Where nothing fails, all texts are printed. -/
theorem Follows.printed_eq_join (follows : Follows project exits steps run)
    (hnone : run.failure = none) : run.printed = String.join (steps.map Step.text) := by
  induction follows with
  | done => rfl
  | said _ ih =>
    rw [List.map_cons, String.join_cons, ← ih hnone]
    rfl
  | passed _ _ ih =>
    rw [List.map_cons, String.join_cons, ← ih hnone]
    exact String.empty_append.symm
  | aligned _ _ ih =>
    rw [List.map_cons, String.join_cons, ← ih hnone]
    exact String.empty_append.symm
  | failed | drifted => cases hnone

theorem Follows.ne_nil_of_failure (follows : Follows project exits steps run)
    (hfailure : run.failure ≠ none) : steps ≠ [] := by
  rintro rfl
  cases follows
  exact hfailure rfl

/-- Where a step fails, all that is printed is from texts in front of the last step. -/
theorem Follows.exists_text_of_mem (follows : Follows project exits steps run)
    (hfailure : run.failure ≠ none) {c : Char} (hc : c ∈ run.printed.toList) :
    ∃ step ∈ steps.dropLast, c ∈ step.text.toList := by
  have behind {step : Step} {steps : List Step} (hne : steps ≠ [])
      (h : ∃ step ∈ steps.dropLast, c ∈ step.text.toList) :
      ∃ other ∈ (step :: steps).dropLast, c ∈ other.text.toList := by
    rw [List.dropLast_cons_of_ne_nil hne]
    exact h.imp fun other ⟨hother, hc⟩ => ⟨List.mem_cons_of_mem step hother, hc⟩
  induction follows with
  | done => exact absurd rfl hfailure
  | @said _ text steps run rest ih =>
    have hne := rest.ne_nil_of_failure hfailure
    rw [TaskRun.afterText, String.toList_append] at hc
    rcases List.mem_append.1 hc with hc | hc
    · rw [List.dropLast_cons_of_ne_nil hne]
      exact ⟨.say text, List.mem_cons_self, hc⟩
    · exact behind hne (ih hfailure hc)
  | passed _ rest ih => exact behind (rest.ne_nil_of_failure hfailure) (ih hfailure hc)
  | failed => simp [TaskRun.afterCall, TaskRun.stop] at hc
  | aligned _ rest ih => exact behind (rest.ne_nil_of_failure hfailure) (ih hfailure hc)
  | drifted => simp [TaskRun.stop] at hc

end Seek
