import Seek.Bounded
import Seek.Element
import Seek.Proofs.PairSum.Least
import Seek.Proofs.Search.Turn

/-!
The bounded algorithms agree with the ones that answer questions. From every window, on every
sequence and whatever the comparisons come to, both searches take the same turn (`turn_eq`), so both
make the same run, but for what a fault tells of a hit (`search_eq`). A bounded pair sum walks over
positions where the other walks over values, and each row of the one is a row of the other
(`partner_eq`). Main statement: what is proved of the bounded algorithms holds of the others
(`search_and_pairSum_agree`).
-/

namespace Seek

/-- The fault as the single test of a hit would tell it. -/
def Fault.untold : Fault → Fault
  | .hitBeyondEnd _ _ | .hitDiffers _ => .hitRefuted
  | fault => fault

/-- The run with its fault, if there is one, as the single test of a hit would tell it. -/
def Run.untold (run : Run) : Run := ⟨run.probes, run.outcome.mapError Fault.untold⟩

namespace Bounded

/-! ### Search -/

section Search

variable {α : Type} [Ord α] [BEq α]

theorem midpoint_eq (low high : UInt64) : midpoint low high = Seek.midpoint low high := by
  unfold midpoint Seek.midpoint
  by_cases h : low ≤ high
  · rw [if_neg (UInt64.not_lt.2 h), if_pos h]
  · rw [if_pos (UInt64.not_le.1 h), if_neg h]

omit [Ord α] in
/-- The single test of a hit passes where both tests of the contract do. -/
theorem checkHit_eq (xs : Array α) (target : α) (index : UInt64) :
    checkHit xs target index = (Contract.checkHit xs target index).mapError Fault.untold := by
  unfold checkHit Contract.checkHit
  by_cases inside : index.toNat < xs.size
  · rw [Array.getElem?_eq_getElem inside, dif_pos inside, Option.any_some]
    split <;> rfl
  · rw [Array.getElem?_eq_none (Nat.le_of_not_lt inside), dif_neg inside]
    rfl

/-- The whole run of a search that is in this state and goes on as `rest`. -/
def State.before (s : State) (rest : Run) : Run :=
  ⟨s.made.reverse ++ rest.probes, rest.outcome.mapError Fault.untold⟩

theorem State.before_stop (s : State) (outcome : Checked (Option UInt64)) :
    s.before (.stop outcome) = s.finish (outcome.mapError Fault.untold) := by
  simp [before, finish]

/-- A probe is the last that was made before what follows it. -/
theorem State.before_after (s : State) (low high probe : UInt64) (rest : Run) :
    s.before (.after probe rest) = before ⟨low, high, probe :: s.made⟩ rest := by
  simp [before]

/-- In every state, both algorithms take the same turn. -/
theorem turn_eq (xs : Array α) (target : α) (s : State) :
    turn xs target s = match Search.turn xs target ⟨s.low, s.high⟩ with
      | .ended rest => .ended (s.before rest)
      | .narrowed probe next => .narrowed ⟨next.low, next.high, probe :: s.made⟩ := by
  unfold turn Search.turn
  rw [midpoint_eq]
  by_cases isOpen : s.low ≤ s.high
  · obtain ⟨mid, hmid⟩ := exists_midpoint isOpen
    simp only [if_neg (UInt64.not_lt.2 isOpen), if_pos isOpen, hmid]
    by_cases inside : mid.toNat < xs.size
    · simp only [Array.getElem?_eq_getElem inside, dif_pos inside]
      cases compare xs[mid.toNat] target with
      | eq =>
        simp only [State.narrow, if_true, Search.hit, s.before_after s.low s.high,
          State.before_stop, checkHit_eq]
        cases Contract.checkHit xs target mid <;> rfl
      | lt =>
        cases hadd : Word.add mid 1 with
        | error fault =>
          obtain rfl := Word.fault_of_add hadd
          simp only [State.narrow, hadd, s.before_after s.low s.high, State.before_stop]
          rfl
        | ok next =>
          simp only [State.narrow, hadd]
          rfl
      | gt =>
        by_cases hzero : mid = 0
        · simp only [State.narrow, if_pos hzero, s.before_after s.low s.high, State.before_stop]
          rfl
        · cases hsub : Word.sub mid 1 with
          | error fault =>
            obtain rfl := Word.fault_of_sub hsub
            simp only [State.narrow, if_neg hzero, hsub, s.before_after s.low s.high,
              State.before_stop]
            rfl
          | ok next =>
            simp only [State.narrow, if_neg hzero, hsub]
            rfl
    · simp only [Array.getElem?_eq_none (Nat.le_of_not_lt inside), dif_neg inside,
        State.before_stop]
      rfl
  · simp only [if_pos (UInt64.not_le.1 isOpen), if_neg isOpen, State.before_stop]
    rfl

/-- From every state, both algorithms make the same probes and come to the same. -/
theorem loop_eq (xs : Array α) (target : α) (s : State) :
    loop xs target s = s.before (Search.scan xs target s.low s.high) := by
  have hturn' : turn xs target s = _ := turn_eq xs target s
  have hscan := Search.scan_eq xs target ⟨s.low, s.high⟩
  fun_induction loop xs target s with
  | case1 s run hturn =>
    rw [hturn] at hturn'
    cases hsearch : Search.turn xs target ⟨s.low, s.high⟩ with
    | ended rest =>
      rw [hsearch] at hturn' hscan
      rw [hscan]
      exact Turn.ended.inj hturn'
    | narrowed => simp [hsearch] at hturn'
  | case2 s next hturn ih =>
    rw [hturn] at hturn'
    cases hsearch : Search.turn xs target ⟨s.low, s.high⟩ with
    | ended => simp [hsearch] at hturn'
    | narrowed probe narrower =>
      rw [hsearch] at hturn' hscan
      rw [hscan, s.before_after narrower.low narrower.high]
      cases hturn'
      exact ih (turn_eq ..) (Search.scan_eq ..)

/-- The bounded search makes the run of the other, but for what a fault tells of a hit. -/
theorem search_eq (xs : Array α) (target : α) :
    search xs target = (Search.run xs target).untold := by
  unfold search Search.run
  by_cases hempty : xs.isEmpty
  · simp only [if_pos hempty]
    rfl
  · simp only [if_neg hempty]
    cases hsub : Word.sub (Word.size xs) 1 with
    | error fault =>
      obtain rfl := Word.fault_of_sub hsub
      rfl
    | ok last => exact loop_eq xs target ⟨0, last, []⟩

theorem probes_search (xs : Array α) (target : α) :
    (search xs target).probes = (Search.run xs target).probes := by
  rw [search_eq]
  rfl

theorem outcome_search (xs : Array α) (target : α) :
    (search xs target).outcome = (Search.position xs target).mapError Fault.untold := by
  rw [search_eq]
  rfl

end Search

/-! ### Pair sum -/

section PairSum

variable {xs : Array Int32} {target : Int32} {start : Nat} {rest : List Int32}

/-- A search over positions is one over the values that stand there. -/
theorem find?_range'_eq (p : Int32 → Bool) (h : xs.toList.drop start = rest) :
    (List.range' start rest.length).find? (fun j => xs[j]?.any p) =
      (rest.findIdx? p).map (start + ·) := by
  induction rest generalizing start with
  | nil => rfl
  | cons value rest ih =>
    have hget : xs[start]? = some value := PairSum.getElem?_of_drop h 0
    have hdrop : xs.toList.drop (start + 1) = rest := by rw [← List.tail_drop, h, List.tail_cons]
    rw [List.length_cons, List.range'_succ, List.find?_cons, hget, Option.any_some,
      List.findIdx?_cons]
    cases p value with
    | true => rfl
    | false =>
      simp only [Bool.false_eq_true, if_false, ih hdrop, Option.map_map]
      congr 1
      funext k
      simp only [Function.comp_apply]
      omega

/-- Each row of the one walk is a row of the other. -/
theorem partner_eq {value : Int32} (h : xs.toList.drop start = value :: rest) (needed : Int64) :
    partner xs needed start = PairSum.partner needed (start + 1) rest := by
  have hdrop : xs.toList.drop (start + 1) = rest := by rw [← List.tail_drop, h, List.tail_cons]
  have hsize : xs.size - (start + 1) = rest.length := by
    rw [← hdrop, List.length_drop, Array.length_toList]
  rw [partner, hsize, PairSum.partner, find?_range'_eq _ hdrop]

/-- The positions of the pair that is answered, if one is. -/
def positions (answer : Except Refusal IndexPair) : Option (UInt64 × UInt64) :=
  answer.toOption.map IndexPair.toProd

/-- The bounded walk over the rows from `start` on finds what the other answers. -/
theorem pairSumFrom_eq {answer : Except Refusal IndexPair} (h : xs.toList.drop start = rest)
    (hscan : PairSum.scan xs target start rest = .ok answer) :
    pairSumFrom xs target (List.range' start rest.length) = .ok (positions answer) := by
  induction rest generalizing start with
  | nil =>
    cases hscan
    rfl
  | cons value rest ih =>
    have hget : xs[start]? = some value := PairSum.getElem?_of_drop h 0
    have hdrop : xs.toList.drop (start + 1) = rest := by rw [← List.tail_drop, h, List.tail_cons]
    obtain ⟨needed, hsub, -⟩ := Word.exists_subSigned target value
    simp only [PairSum.scan, hsub, bind, Except.bind] at hscan
    simp only [List.length_cons, List.range'_succ, pairSumFrom, hget, hsub, bind, Except.bind,
      partner_eq h]
    cases hpartner : PairSum.partner needed (start + 1) rest with
    | none =>
      rw [hpartner] at hscan
      exact ih hdrop hscan
    | some other =>
      rw [hpartner] at hscan
      dsimp only at hscan
      -- Only a pair that passes its contract is answered, and the bounded walk has no contract.
      split at hscan
      · cases hscan
      · cases hscan
        rfl

theorem pairSum_eq {answer : Except Refusal IndexPair}
    (hfind : PairSum.find xs target = .ok answer) : pairSum xs target = .ok (positions answer) := by
  have hwalk := pairSumFrom_eq List.drop_zero hfind
  rwa [Array.length_toList, ← List.range_eq_range'] at hwalk

end PairSum

/-! ### Both -/

/-- On every sequence, in order or not, and whatever the comparisons come to, the bounded search
makes the probes of the other, answers the same, and faults exactly where that does. The bounded
pair sum finds the pair that the other answers, and none exactly where the other refuses. -/
theorem search_and_pairSum_agree {α : Type} [Ord α] [BEq α] (xs : Array α) (target : α)
    (values : Array Int32) (total : Int32) (fits : values.size < UInt64.size) :
    ((search xs target).probes = (Search.run xs target).probes ∧
      (∀ answer, (search xs target).outcome = .ok answer ↔
        Search.position xs target = .ok answer) ∧
      ((∃ fault, (search xs target).outcome = .error fault) ↔
        ∃ fault, Search.position xs target = .error fault)) ∧
    (∃ answer, pairSum values total = .ok answer) ∧
    (∀ i j, pairSum values total = .ok (some (i, j)) ↔
      PairSum.find values total = .ok (.ok ⟨i, j⟩)) ∧
    (pairSum values total = .ok none ↔
      PairSum.find values total = .ok (.error .noSolution)) := by
  constructor
  · rw [probes_search, outcome_search]
    cases Search.position xs target <;> simp [Except.mapError]
  · obtain ⟨answer, hfind, hleast⟩ :
        ∃ answer, PairSum.find values total = .ok answer ∧ _ :=
      PairSum.scan_least fits List.drop_zero
    rw [pairSum_eq hfind, hfind]
    cases answer with
    | ok pair =>
      cases pair
      simp [positions, Except.toOption, IndexPair.toProd]
    | error refusal =>
      obtain ⟨rfl, -⟩ := hleast
      simp [positions, Except.toOption]

/-- A hit that differs from the target, where the two say different things of it, and a pair. -/
theorem search_and_pairSum_agree_tagged :
    (#[5, -2147483648, 3, 0, -2147483648] : Array Int32).size < UInt64.size ∧
    Search.position (#[⟨1, "a"⟩, ⟨2, "b"⟩, ⟨3, "c"⟩] : Array Tagged) ⟨2, "d"⟩ =
      .error (.hitDiffers 1) ∧
    (∃ fault, (search (#[⟨1, "a"⟩, ⟨2, "b"⟩, ⟨3, "c"⟩] : Array Tagged) ⟨2, "d"⟩).outcome =
      .error fault) ∧
    pairSum #[5, -2147483648, 3, 0, -2147483648] (-2147483648) = .ok (some (1, 3)) := by
  have fits : (#[5, -2147483648, 3, 0, -2147483648] : Array Int32).size < UInt64.size := by decide
  have hposition : Search.position (#[⟨1, "a"⟩, ⟨2, "b"⟩, ⟨3, "c"⟩] : Array Tagged) ⟨2, "d"⟩ =
      .error (.hitDiffers 1) := by
    decide +kernel
  have hfind : PairSum.find #[5, -2147483648, 3, 0, -2147483648] (-2147483648) = .ok (.ok ⟨1, 3⟩) :=
    by decide
  obtain ⟨⟨-, -, hfault⟩, -, hpair, -⟩ := search_and_pairSum_agree
    (#[⟨1, "a"⟩, ⟨2, "b"⟩, ⟨3, "c"⟩] : Array Tagged) ⟨2, "d"⟩ _ (-2147483648) fits
  exact ⟨fits, hposition, hfault.2 ⟨_, hposition⟩, (hpair 1 3).2 hfind⟩

end Bounded

end Seek
