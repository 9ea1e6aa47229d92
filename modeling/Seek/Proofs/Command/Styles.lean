import Seek.Proofs.Command.Ending
import Seek.Proofs.Text.Unstyled

/-!
Styles in the diagnostics. All that is said of a run is made of texts without escape characters, so
the only ones in it set styles. Main statement: diagnostics on a terminal are those off it once
their styles are erased, and off it, or where plain ones are asked for, they have none
(`unstyled_diagnostics`).
-/

namespace Seek

open Text (Unescaped)

namespace Log

/-- The texts of the event are without escape characters. -/
structure Event.IsClean (event : Event) : Prop where
  message : Unescaped event.message
  fields : ∀ field ∈ event.fields, Unescaped field.1 ∧ Unescaped field.2

theorem Event.isClean_mk {message : String} {fields : List (String × String)}
    (hmessage : Unescaped message)
    (hfields : ∀ field ∈ fields, Unescaped field.1 ∧ Unescaped field.2) :
    Event.IsClean ⟨message, fields⟩ := ⟨hmessage, hfields⟩

theorem Event.IsClean.pieces {event : Event} (h : event.IsClean) :
    ∀ piece ∈ event.pieces, Unescaped piece.text := by
  intro piece hmem
  simp only [Event.pieces, List.mem_append, List.mem_cons, List.not_mem_nil, or_false,
    List.mem_flatMap] at hmem
  rcases hmem with ((rfl | rfl) | ⟨field, hfield, hmem⟩) | rfl
  · exact (by decide : Unescaped "DEBUG")
  · exact Text.unescaped_append_iff.2 ⟨by decide, h.message⟩
  · obtain ⟨hname, hvalue⟩ := h.fields field hfield
    simp only [fieldPieces, List.mem_cons, List.not_mem_nil, or_false] at hmem
    rcases hmem with rfl | rfl | rfl | rfl
    · exact (by decide : Unescaped " ")
    · exact hname
    · exact (by decide : Unescaped "=")
    · exact hvalue
  · exact (by decide : Unescaped "\n")

end Log

namespace Command

open Log (Event)

/-! ### What is said of a run -/

theorem unescaped_fields (input : Input) :
    ∀ field ∈ input.fields, Unescaped field.1 ∧ Unescaped field.2 := by
  have hlength : Unescaped (toString input.values.length) := Text.unescaped_toString_nat _
  have htarget : Unescaped (toString input.target) := Text.unescaped_toString_int input.target.toInt
  simp only [Input.fields, List.forall_mem_cons]
  exact ⟨⟨by decide, hlength⟩, ⟨by decide, htarget⟩, by simp⟩

theorem isClean_findPair (input : Input) : ∀ event ∈ input.findPair.events, event.IsClean := by
  have hstart : Event.IsClean ⟨"two-sum", input.fields⟩ :=
    Event.isClean_mk (by decide) (unescaped_fields input)
  have hfound (pair : IndexPair) : Event.IsClean
      ⟨"pair found", [("first", toString pair.first), ("second", toString pair.second)]⟩ := by
    refine Event.isClean_mk (by decide) ?_
    simp only [List.forall_mem_cons]
    exact ⟨⟨by decide, Text.unescaped_toString_nat pair.first.toNat⟩,
      ⟨by decide, Text.unescaped_toString_nat pair.second.toNat⟩, by simp⟩
  unfold Input.findPair
  split <;> simp only [List.forall_mem_cons]
  · exact ⟨hstart, by simp⟩
  · exact ⟨hstart, by simp⟩
  · exact ⟨hstart, hfound _, by simp⟩

theorem isClean_search (input : Input) (isChecked : Bool) :
    ∀ event ∈ (input.search isChecked).events, event.IsClean := by
  have hchecked : Unescaped (toString isChecked) := by cases isChecked <;> decide
  have hstart : Event.IsClean
      ⟨"search", input.fields ++ [("check_sorted", toString isChecked)]⟩ := by
    refine Event.isClean_mk (by decide) (List.forall_mem_append.2 ⟨unescaped_fields input, ?_⟩)
    simp only [List.forall_mem_cons]
    exact ⟨⟨by decide, hchecked⟩, by simp⟩
  have hfinished (index : Int64) :
      Event.IsClean ⟨"search finished", [("index", toString index)]⟩ := by
    refine Event.isClean_mk (by decide) ?_
    simp only [List.forall_mem_cons]
    exact ⟨⟨by decide, Text.unescaped_toString_int index.toInt⟩, by simp⟩
  unfold Input.search
  split <;> simp only [List.forall_mem_cons]
  · exact ⟨hstart, by simp⟩
  · exact ⟨hstart, by simp⟩
  · exact ⟨hstart, hfinished _, by simp⟩

theorem isClean_perform (action : Action) : ∀ event ∈ action.perform.events, event.IsClean := by
  cases action with
  | demo => exact isClean_findPair demoInput
  | pairSum input => exact isClean_findPair input
  | search input isChecked => exact isClean_search input isChecked

theorem unescaped_refusalPieces (refusal : Refusal) :
    ∀ piece ∈ refusalPieces refusal, Unescaped piece.text := by
  have hmessage : Unescaped refusal.message := by
    cases refusal with
    | noSolution => decide
    | unsorted position =>
      exact Text.unescaped_append_iff.2 ⟨by decide, Text.unescaped_toString_nat position.toNat⟩
  have hreason : Unescaped (" " ++ refusal.message ++ "\n") := by
    rw [Text.unescaped_append_iff, Text.unescaped_append_iff]
    exact ⟨⟨by decide, hmessage⟩, by decide⟩
  cases refusal <;>
    simp only [refusalPieces, List.cons_append, List.nil_append, List.forall_mem_cons]
  · exact ⟨by decide, hreason, by simp⟩
  · exact ⟨by decide, hreason, by decide, by decide, by simp⟩

theorem unescaped_lastPieces {done : Done} (h : done.exit = 0 ∨ done.exit = 1) :
    ∀ piece ∈ done.lastPieces, Unescaped piece.text := by
  rcases houtcome : done.outcome with fault | refusal | answer <;>
    simp only [Done.exit, Done.lastPieces, houtcome] at h ⊢
  · omega
  · exact unescaped_refusalPieces refusal
  · simp

/-- All that is said of a run, piece by piece. -/
def Done.pieces (done : Done) (reports : Event → Bool) : List Text.Piece :=
  (done.events.filter reports).flatMap Event.pieces ++ done.lastPieces

theorem render_pieces (done : Done) (reports : Event → Bool) (isStyled : Bool) :
    Text.render isStyled (done.pieces reports) =
      done.eventLines reports isStyled ++ done.lastWords isStyled :=
  Text.render_append _ _

theorem unescaped_pieces {action : Action}
    (h : action.perform.exit = 0 ∨ action.perform.exit = 1) (reports : Event → Bool) :
    ∀ piece ∈ action.perform.pieces reports, Unescaped piece.text := by
  refine List.forall_mem_append.2 ⟨fun piece hmem => ?_, unescaped_lastPieces h⟩
  obtain ⟨event, hevent, hpiece⟩ := List.mem_flatMap.1 hmem
  exact (isClean_perform action event (List.mem_filter.1 hevent).1).pieces piece hpiece

/-- The diagnostics of a line that is accepted are, but for the styles, the same on a terminal and
off it. Off it, or where plain ones are asked for by whatever text, they have no escape character in
them. -/
theorem unstyled_diagnostics (filter : Option String) (arguments : List String)
    (accepted : (run ⟨filter, false, true⟩ arguments).exit = 0 ∨
      (run ⟨filter, false, true⟩ arguments).exit = 1) :
    Text.unstyled (run ⟨filter, false, true⟩ arguments).diagnostics.toList =
      (run ⟨filter, false, false⟩ arguments).diagnostics.toList ∧
    ∀ (plain : Option String) (isTerminal : Bool), isTerminal = false ∨ plain.isSome →
      '\x1b' ∉ (run ⟨filter, plain.isSome, isTerminal⟩ arguments).diagnostics.toList ∧
      (run ⟨filter, plain.isSome, isTerminal⟩ arguments).diagnostics =
        (run ⟨filter, false, false⟩ arguments).diagnostics := by
  rcases hline : readLine arguments with (error | topic | -) | request
  · simp [run, hline, Stop.result] at accepted
  · simp [run, hline, Stop.result, Text.unstyled]
  · simp [run, hline, Stop.result, Text.unstyled]
  · have hrun (isPlain isTerminal : Bool) :
        (run ⟨filter, isPlain, isTerminal⟩ arguments).diagnostics =
          Text.render (isTerminal && !isPlain) (request.action.perform.pieces
            (Environment.reports ⟨filter, false, false⟩ request.isVerbose)) := by
      rw [run_of_readLine hline, run_eq, render_pieces]
      rfl
    rw [run_of_readLine hline, run_eq] at accepted
    have hpieces := unescaped_pieces accepted
      (Environment.reports ⟨filter, false, false⟩ request.isVerbose)
    rw [hrun, hrun]
    refine ⟨Text.unstyled_render hpieces, fun plain isTerminal hplain => ?_⟩
    have hstyled : (isTerminal && !plain.isSome) = false := by
      rcases hplain with rfl | hplain <;> simp [*]
    rw [hrun, hstyled]
    exact ⟨Text.unescaped_render hpieces, rfl⟩

/-- A line whose run finds a pair, with its events on a terminal. -/
theorem unstyled_diagnostics_found :
    (run ⟨some "debug", false, true⟩ foundLine).exit = 0 ∧
    (run ⟨some "debug", false, true⟩ foundLine).diagnostics ≠
      (run ⟨some "debug", false, false⟩ foundLine).diagnostics ∧
    Text.unstyled (run ⟨some "debug", false, true⟩ foundLine).diagnostics.toList =
      (run ⟨some "debug", false, false⟩ foundLine).diagnostics.toList ∧
    (run ⟨some "debug", true, true⟩ foundLine).diagnostics =
      (run ⟨some "debug", false, false⟩ foundLine).diagnostics := by
  have hexit : (run ⟨some "debug", false, true⟩ foundLine).exit = 0 := by
    rw [run_of_readLine readLine_foundLine, run_eq, perform_found]
    rfl
  have hfilter : Log.Filter.ofText? "debug".toList = some [⟨[], .always, .debug⟩] := by
    decide +kernel
  have hdiagnostics (isTerminal : Bool) :
      (run ⟨some "debug", false, isTerminal⟩ foundLine).diagnostics =
        Text.render isTerminal (Event.pieces ⟨"two-sum", [("len", "2"), ("target", "9")]⟩ ++
          Event.pieces ⟨"pair found", [("first", "0"), ("second", "1")]⟩) := by
    have hreports (event : Event) :
        Environment.reports ⟨some "debug", false, isTerminal⟩ false event = true := by
      rw [Environment.reports_of_filter rfl hfilter]
      rfl
    rw [run_of_readLine readLine_foundLine, run_eq, ← render_pieces, perform_found, Done.pieces,
      List.filter_eq_self.2 fun event _ => hreports event]
    cases isTerminal <;> rfl
  obtain ⟨hunstyled, hplain⟩ := unstyled_diagnostics (some "debug") foundLine (.inl hexit)
  refine ⟨hexit, ?_, hunstyled, (hplain (some "") true (.inr rfl)).2⟩
  rw [hdiagnostics, hdiagnostics]
  decide

end Command

end Seek
