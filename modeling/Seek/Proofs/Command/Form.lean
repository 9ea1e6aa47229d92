import Seek.Proofs.Command.Ending
import Seek.Proofs.Command.Front
import Seek.Proofs.IndexPair.RoundTrip

/-!
The two forms of an answer, as JSON and as it is. Either way it tells the same numbers, and what is
asked for beside it does not depend on its form. Main statement: a line that does not ask for JSON
ends as it does with `--json` in front of it, with the same diagnostics, and its answer is told by
an object of just the fields it has (`run_cons_json`).
-/

namespace Seek

namespace Json

/-- The text is an object of these members and no others. -/
def IsObject (members : List Member) (text : String) : Prop :=
  ∃ body, Written (.members members) body ∧ text.toList = '{' :: (body ++ ['}'])

theorem written_toString_int (n : Int) : Written .value (toString n).toList := by
  rw [Int.toString_eq_repr, Int.repr_eq_if]
  split
  · rw [Nat.toList_repr]
    exact .numeral (Numeral.written_natural (natural_toDigits n.toNat).1)
  · have hwritten : Numeral.Written ⟨true, Nat.toDigits 10 (-n).toNat, none, none⟩
        (['-'] ++ (Nat.toDigits 10 (-n).toNat ++ ([] ++ []))) :=
      .mk .minus (natural_toDigits (-n).toNat).1 .none .none
    rw [String.toList_append, Nat.toList_repr]
    exact .numeral (by simpa using hwritten)

end Json

namespace Command

open Json

/-- The object that tells a pair has its two positions, and is read as the pair. -/
theorem isObject_pair (pair : IndexPair) :
    IsObject [⟨"first".toList, (toString pair.first).toList⟩,
      ⟨"second".toList, (toString pair.second).toList⟩] ((Answer.pair pair).line true) :=
  pair.exists_members_json

/-- The object that tells an index has the number that is told without it. -/
theorem isObject_index (index : Int64) :
    IsObject [⟨"index".toList, (toString index).toList⟩] ((Answer.index index).line true) := by
  have hkey : Text.Inside "index".toList :=
    (Text.spells_self (by simp [Text.plain_iff, Text.isControl])).inside
  refine ⟨_, .lastMember (.mk blank_nil hkey blank_nil)
    (.spaced blank_nil (written_toString_int index.toInt) blank_nil), ?_⟩
  simp only [Answer.line, if_true, String.toList_append, List.append_assoc, List.append_nil]
  rfl

/-- The first line tells as JSON what the second tells as it is: the pair that the object has, and
is read as, or the number that the object has. -/
inductive Tells (line : String) : String → Prop where
  | pair (pair : IndexPair)
      (isObject : IsObject [⟨"first".toList, (toString pair.first).toList⟩,
        ⟨"second".toList, (toString pair.second).toList⟩] line)
      (read : IndexPair.ofJson line = .ok pair) : Tells line pair.display
  | index (index : Int64)
      (isObject : IsObject [⟨"index".toList, (toString index).toList⟩] line) :
      Tells line (toString index)

theorem tells_line (answer : Answer) : Tells (answer.line true) (answer.line false) := by
  cases answer with
  | pair pair => exact .pair pair (isObject_pair pair) pair.ofJson_json
  | index index => exact .index index (isObject_index index)

/-- A line that does not ask for JSON is accepted with `--json` in front of it too, wherever it is
run. The exit code and the diagnostics stay the same. If there is an answer, both runs tell it, each
in its form, and otherwise neither has any output. -/
theorem run_cons_json (environment : Environment) {arguments : List String} {request : Request}
    (h : readLine arguments = .ok request) (hplain : request.isJson = false) :
    (run environment ("--json" :: arguments)).exit = (run environment arguments).exit ∧
    (run environment ("--json" :: arguments)).diagnostics =
      (run environment arguments).diagnostics ∧
    ((run environment arguments).exit = 0 → ∃ line plain, Tells line plain ∧
      (run environment ("--json" :: arguments)).output = line ++ "\n" ∧
      (run environment arguments).output = plain ++ "\n") ∧
    ((run environment arguments).exit ≠ 0 →
      (run environment ("--json" :: arguments)).output = "" ∧
      (run environment arguments).output = "") := by
  have hline : readLine ("--json" :: arguments) = .ok (request.adding .json) :=
    readLine_cons_flag (show Switch.json ≠ .checkSorted by decide) h hplain
  rw [run_of_readLine h, run_of_readLine hline, run_eq, run_eq]
  refine ⟨rfl, rfl, fun hexit => ?_, fun hexit => ?_⟩
  · obtain ⟨answer, houtcome⟩ := Done.exit_eq_zero_iff.1 hexit
    have houtput (isJson : Bool) :
        request.action.perform.output isJson = answer.line isJson ++ "\n" := by
      rw [Done.output, houtcome]
    refine ⟨_, _, tells_line answer, houtput true, ?_⟩
    rw [hplain]
    exact houtput false
  · exact ⟨Done.output_of_exit_ne_zero hexit _, Done.output_of_exit_ne_zero hexit _⟩

/-- A line whose run finds a pair, with its events on a terminal. -/
theorem run_cons_json_found :
    (run ⟨some "debug", false, true⟩ foundLine).exit = 0 ∧
    (run ⟨some "debug", false, true⟩ foundLine).output = "[0, 1]\n" ∧
    (run ⟨some "debug", false, true⟩ ("--json" :: foundLine)).diagnostics =
      (run ⟨some "debug", false, true⟩ foundLine).diagnostics ∧
    ∃ line plain, Tells line plain ∧
      (run ⟨some "debug", false, true⟩ ("--json" :: foundLine)).output = line ++ "\n" ∧
      (run ⟨some "debug", false, true⟩ foundLine).output = plain ++ "\n" := by
  obtain ⟨-, hdiagnostics, hanswer, -⟩ :=
    run_cons_json ⟨some "debug", false, true⟩ readLine_foundLine rfl
  have hexit : (run ⟨some "debug", false, true⟩ foundLine).exit = 0 := by
    rw [run_of_readLine readLine_foundLine, run_eq, perform_found]
    rfl
  refine ⟨hexit, ?_, hdiagnostics, hanswer hexit⟩
  rw [run_of_readLine readLine_foundLine, run_eq, perform_found]
  rfl

end Command

end Seek
