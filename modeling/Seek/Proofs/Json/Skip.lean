import Seek.Json.Skip
import Seek.Proofs.Json.Numeral
import Seek.Proofs.Json.Quoted

/-!
Values, passed over. Between two moves the reader stands at a place within open brackets, and what
it still has to pass is a text that completes that place and closes those brackets (`Completes`).
Every move takes a token that leads from one such text to another, and so whatever is passed is a
value (`exists_of_value`). The other way round, each phrase of the grammar is passed from the place
that it belongs to, at any depth and before any text that does not go it on (`passed`). Main
statement: `value_append`.
-/

namespace Seek.Json.Skip

/-! ### What is passed is a value -/

/-- The text closes the open brackets, the innermost first, from behind a value. -/
inductive Closes : List Bracket → List Char → Prop
  | nil : Closes [] []
  | list {gap rest : List Char} {outer : List Bracket} : Blank gap → Closes outer rest →
    Closes (.list :: outer) (gap ++ ']' :: rest)
  | items {gap cs rest : List Char} {items : List (List Char)} {outer : List Bracket} : Blank gap →
    Written (.items items) cs → Closes outer rest →
    Closes (.list :: outer) (gap ++ ',' :: (cs ++ ']' :: rest))
  | object {gap rest : List Char} {outer : List Bracket} : Blank gap → Closes outer rest →
    Closes (.object :: outer) (gap ++ '}' :: rest)
  | members {gap cs rest : List Char} {members : List Member} {outer : List Bracket} : Blank gap →
    Written (.members members) cs → Closes outer rest →
    Closes (.object :: outer) (gap ++ ',' :: (cs ++ '}' :: rest))

/-- The text has what is expected at the place, and then closes the open brackets. -/
inductive Completes : Place → List Bracket → List Char → Prop
  | value {gap value rest : List Char} {brackets : List Bracket} : Blank gap →
    Written .value value → Closes brackets rest →
    Completes .value brackets (gap ++ (value ++ rest))
  | emptyList {gap rest : List Char} {outer : List Bracket} : Blank gap → Closes outer rest →
    Completes .firstItem (.list :: outer) (gap ++ ']' :: rest)
  | items {cs rest : List Char} {items : List (List Char)} {outer : List Bracket} :
    Written (.items items) cs → Closes outer rest →
    Completes .firstItem (.list :: outer) (cs ++ ']' :: rest)
  | emptyObject {gap rest : List Char} {outer : List Bracket} : Blank gap → Closes outer rest →
    Completes .firstKey (.object :: outer) (gap ++ '}' :: rest)
  | firstMembers {cs rest : List Char} {members : List Member} {outer : List Bracket} :
    Written (.members members) cs → Closes outer rest →
    Completes .firstKey (.object :: outer) (cs ++ '}' :: rest)
  | members {cs rest : List Char} {members : List Member} {outer : List Bracket} :
    Written (.members members) cs → Closes outer rest →
    Completes .key (.object :: outer) (cs ++ '}' :: rest)
  | after {rest : List Char} {brackets : List Bracket} : Closes brackets rest →
    Completes .after brackets rest

/-- Where the innermost bracket is of the kind that the place is in. -/
def WellPlaced : Place → List Bracket → Prop
  | .firstItem, brackets => ∃ outer, brackets = .list :: outer
  | .firstKey, brackets | .key, brackets => ∃ outer, brackets = .object :: outer
  | .value, _ | .after, _ => True

theorem exists_of_scalar {cs rest : List Char} (h : scalar cs = some rest) :
    ∃ front, Written .value front ∧ cs = front ++ rest := by
  unfold scalar at h
  split at h
  · obtain ⟨body, hbody, rfl⟩ := Text.skip_eq_some_iff.1 h
    exact ⟨_, .text hbody, by simp⟩
  · cases h
    exact ⟨_, .null, rfl⟩
  · cases h
    exact ⟨_, .yes, rfl⟩
  · cases h
    exact ⟨_, .no, rfl⟩
  · obtain ⟨⟨numeral, _⟩, hread, rfl⟩ := Option.map_eq_some_iff.1 h
    obtain ⟨front, hwritten, rfl⟩ := Numeral.exists_of_read hread
    exact ⟨front, .numeral hwritten, rfl⟩

theorem exists_of_colon {cs rest : List Char} (h : colon cs = some rest) :
    ∃ gap, Blank gap ∧ cs = gap ++ ':' :: rest := by
  unfold colon at h
  obtain ⟨gap, hgap, heq⟩ := exists_of_skipSpace cs
  split at h
  · rename_i hskip
    cases h
    exact ⟨gap, hgap, hskip ▸ heq⟩
  · cases h

theorem exists_of_key {cs rest : List Char} (h : key cs = some rest) :
    ∃ key label, Label key label ∧ cs = label ++ rest := by
  unfold key at h
  split at h
  · obtain ⟨behind, hskip, hcolon⟩ := Option.bind_eq_some_iff.1 h
    obtain ⟨body, hbody, rfl⟩ := Text.skip_eq_some_iff.1 hskip
    obtain ⟨gap, hgap, rfl⟩ := exists_of_colon hcolon
    exact ⟨body, _, .mk blank_nil hbody hgap, by simp⟩
  · cases h

/-- A value and what closes a list behind it are items and the end of the list. -/
theorem exists_items_of_closes {gap value rest : List Char} {outer : List Bracket}
    (hgap : Blank gap) (hvalue : Written .value value) (h : Closes (.list :: outer) rest) :
    ∃ items cs behind, Written (.items items) cs ∧ Closes outer behind ∧
      gap ++ (value ++ rest) = cs ++ ']' :: behind := by
  cases h with
  | list hbehind hrest =>
    exact ⟨_, _, _, .lastItem (.spaced hgap hvalue hbehind), hrest, by simp⟩
  | items hbehind hitems hrest =>
    exact ⟨_, _, _, .item (.spaced hgap hvalue hbehind) hitems, hrest, by simp⟩

/-- A key, a value and what closes an object behind it are members and the end of the object. -/
theorem exists_members_of_closes {key label gap value rest : List Char} {outer : List Bracket}
    (hlabel : Label key label) (hgap : Blank gap) (hvalue : Written .value value)
    (h : Closes (.object :: outer) rest) :
    ∃ members cs behind, Written (.members members) cs ∧ Closes outer behind ∧
      label ++ (gap ++ (value ++ rest)) = cs ++ '}' :: behind := by
  have hspaced := fun {behind} => @Written.spaced gap value behind hgap hvalue
  cases h with
  | object hbehind hrest =>
    have hmember : Written (.members [⟨key, value⟩]) _ := .lastMember hlabel (hspaced hbehind)
    exact ⟨_, _, _, hmember, hrest, by simp⟩
  | members hbehind hmembers hrest =>
    have hmember : Written (.members (⟨key, value⟩ :: _)) _ :=
      .member hlabel (hspaced hbehind) hmembers
    exact ⟨_, _, _, hmember, hrest, by simp⟩

/-- Where a value and what closes a list are expected, items and the end of the list stand. -/
theorem completes_firstItem {outer : List Bracket} {cs : List Char}
    (h : Completes .value (.list :: outer) cs) : Completes .firstItem (.list :: outer) cs := by
  cases h with
  | value hgap hvalue hrest =>
    obtain ⟨_, _, _, hitems, hbehind, heq⟩ := exists_items_of_closes hgap hvalue hrest
    rw [heq]
    exact .items hitems hbehind

theorem completes_firstKey {outer : List Bracket} {cs : List Char}
    (h : Completes .key (.object :: outer) cs) : Completes .firstKey (.object :: outer) cs := by
  cases h with
  | members hmembers hrest => exact .firstMembers hmembers hrest

/-- A token leads from a text that completes the position to one that completes a place. -/
structure LeadsTo (token : List Char) (q : Position) (place : Place) (brackets : List Bracket) :
    Prop where
  placed : WellPlaced q.place q.brackets
  completes : ∀ front, Completes q.place q.brackets front →
    Completes place brackets (token ++ front)

theorem exists_of_enter {brackets : List Bracket} {gap cs : List Char} {q : Position}
    (hgap : Blank gap) (h : enter brackets cs = some q) :
    ∃ token, gap ++ cs = token ++ q.text ∧ LeadsTo token q .value brackets := by
  unfold enter at h
  split at h
  · cases h
    refine ⟨gap ++ ['['], by simp, ⟨_, rfl⟩, fun front hfront => ?_⟩
    cases hfront with
    | emptyList hspace hrest => simpa using Completes.value hgap (.emptyList hspace) hrest
    | items hitems hrest => simpa using Completes.value hgap (.list hitems) hrest
  · cases h
    refine ⟨gap ++ ['{'], by simp, ⟨_, rfl⟩, fun front hfront => ?_⟩
    cases hfront with
    | emptyObject hspace hrest => simpa using Completes.value hgap (.emptyObject hspace) hrest
    | firstMembers hmembers hrest => simpa using Completes.value hgap (.object hmembers) hrest
  · obtain ⟨rest, hscalar, rfl⟩ := Option.map_eq_some_iff.1 h
    obtain ⟨token, hvalue, rfl⟩ := exists_of_scalar hscalar
    refine ⟨gap ++ token, by simp, trivial, fun front hfront => ?_⟩
    cases hfront with
    | after hrest => simpa using Completes.value hgap hvalue hrest

theorem exists_of_leave {brackets : List Bracket} {gap cs : List Char} {q : Position}
    (hgap : Blank gap) (h : leave brackets cs = some q) :
    ∃ token, gap ++ cs = token ++ q.text ∧ LeadsTo token q .after brackets := by
  unfold leave at h
  split at h
  · cases h
    refine ⟨gap ++ [','], by simp, trivial, fun front hfront => ?_⟩
    cases hfront with
    | value hspace hvalue hrest =>
      obtain ⟨_, _, _, hitems, hbehind, heq⟩ := exists_items_of_closes hspace hvalue hrest
      rw [heq]
      simpa using Completes.after (.items hgap hitems hbehind)
  · cases h
    refine ⟨gap ++ [']'], by simp, trivial, fun front hfront => ?_⟩
    cases hfront with
    | after hrest => simpa using Completes.after (.list hgap hrest)
  · cases h
    refine ⟨gap ++ [','], by simp, ⟨_, rfl⟩, fun front hfront => ?_⟩
    cases hfront with
    | members hmembers hrest => simpa using Completes.after (.members hgap hmembers hrest)
  · cases h
    refine ⟨gap ++ ['}'], by simp, trivial, fun front hfront => ?_⟩
    cases hfront with
    | after hrest => simpa using Completes.after (.object hgap hrest)
  · cases h

theorem completes_of_key {outer : List Bracket} {gap cs rest : List Char} (hgap : Blank gap)
    (h : key cs = some rest) :
    ∃ token, gap ++ cs = token ++ rest ∧ ∀ front, Completes .value (.object :: outer) front →
      Completes .key (.object :: outer) (token ++ front) := by
  obtain ⟨key, label, hlabel, rfl⟩ := exists_of_key h
  refine ⟨gap ++ label, by simp, fun front hfront => ?_⟩
  cases hfront with
  | value hspace hvalue hrest =>
    obtain ⟨_, _, _, hmembers, hbehind, heq⟩ :=
      exists_members_of_closes (label_append hgap hlabel) hspace hvalue hrest
    rw [heq]
    exact .members hmembers hbehind

/-- Every move takes a token that leads to the next position. -/
theorem exists_of_move {p q : Position} (placed : WellPlaced p.place p.brackets)
    (h : move p = some q) :
    ∃ token, p.text = token ++ q.text ∧ LeadsTo token q p.place p.brackets := by
  obtain ⟨place, brackets, text⟩ := p
  obtain ⟨gap, hgap, heq⟩ := exists_of_skipSpace text
  unfold move at h
  dsimp only at h placed heq ⊢
  generalize skipSpace text = cs at h heq
  subst heq
  split at h
  · exact exists_of_enter hgap h
  · obtain ⟨outer, rfl⟩ := placed
    cases h
    refine ⟨gap ++ [']'], by simp, trivial, fun front hfront => ?_⟩
    cases hfront with
    | after hrest => simpa using Completes.emptyList hgap hrest
  · obtain ⟨outer, rfl⟩ := placed
    obtain ⟨token, heq, leads⟩ := exists_of_enter hgap h
    exact ⟨token, heq, leads.placed, fun front hfront =>
      completes_firstItem (leads.completes front hfront)⟩
  · obtain ⟨outer, rfl⟩ := placed
    cases h
    refine ⟨gap ++ ['}'], by simp, trivial, fun front hfront => ?_⟩
    cases hfront with
    | after hrest => simpa using Completes.emptyObject hgap hrest
  · obtain ⟨outer, rfl⟩ := placed
    obtain ⟨rest, hkey, rfl⟩ := Option.map_eq_some_iff.1 h
    obtain ⟨token, heq, hcompletes⟩ := completes_of_key hgap hkey
    exact ⟨token, heq, trivial, fun front hfront => completes_firstKey (hcompletes front hfront)⟩
  · obtain ⟨outer, rfl⟩ := placed
    obtain ⟨rest, hkey, rfl⟩ := Option.map_eq_some_iff.1 h
    obtain ⟨token, heq, hcompletes⟩ := completes_of_key hgap hkey
    exact ⟨token, heq, trivial, hcompletes⟩
  · exact exists_of_leave hgap h

/-- What is passed over completes the place and closes the open brackets. -/
theorem exists_of_finish {p : Position} {rest : List Char} (placed : WellPlaced p.place p.brackets)
    (h : finish p = some rest) :
    ∃ front, Completes p.place p.brackets front ∧ p.text = front ++ rest := by
  -- The moves are made from the front, and what they took is put together from the end.
  fun_induction finish p with
  | case1 p hdone =>
    cases h
    rw [hdone.1, hdone.2]
    exact ⟨[], .after .nil, rfl⟩
  | case2 => cases h
  | case3 p _ q hmove ih =>
    obtain ⟨token, heq, leads⟩ := exists_of_move placed hmove
    obtain ⟨front, hfront, heq'⟩ := ih leads.placed h
    exact ⟨token ++ front, leads.completes front hfront, by rw [heq, heq', List.append_assoc]⟩

/-- What is passed over is a value. -/
theorem exists_of_value {cs rest : List Char} (h : value cs = some rest) :
    ∃ gap value, Blank gap ∧ Written .value value ∧ cs = gap ++ (value ++ rest) := by
  obtain ⟨front, hfront, rfl⟩ := exists_of_finish (p := ⟨.value, [], cs⟩) trivial h
  cases hfront with
  | value hgap hvalue hrest =>
    cases hrest
    exact ⟨_, _, hgap, hvalue, by simp⟩

/-! ### Values are passed over -/

/-- Whatever is found from the second position is found from the first. -/
def Passes (p q : Position) : Prop := ∀ rest, finish q = some rest → finish p = some rest

theorem Passes.trans {p q r : Position} (h : Passes p q) (h' : Passes q r) : Passes p r :=
  fun rest hrest => h rest (h' rest hrest)

theorem passes_of_move {p q : Position} (h : move p = some q) : Passes p q := by
  intro rest hrest
  obtain ⟨place, brackets, text⟩ := p
  rw [finish]
  split
  · rename_i hdone
    obtain ⟨rfl, rfl⟩ := hdone
    simp [move, leave] at h
  · split
    · rename_i hnone
      cases hnone.symm.trans h
    · rename_i hmove
      cases hmove.symm.trans h
      exact hrest

theorem exists_move_of_finish {p : Position} {rest : List Char}
    (hgoes : ¬(p.place = .after ∧ p.brackets = [])) (h : finish p = some rest) :
    ∃ q, move p = some q ∧ finish q = some rest := by
  rw [finish, if_neg hgoes] at h
  split at h
  · cases h
  · exact ⟨_, ‹_›, h⟩

/-- A first item is passed over like any other. -/
theorem passes_firstItem (brackets : List Bracket) (text : List Char) :
    Passes ⟨.firstItem, brackets, text⟩ ⟨.value, brackets, text⟩ := by
  intro rest hrest
  obtain ⟨q, hmove, hq⟩ := exists_move_of_finish (by simp) hrest
  have henter : enter brackets (skipSpace text) = some q := hmove
  -- Where a value begins, the list does not end.
  have hne : ∀ behind, skipSpace text ≠ ']' :: behind := by
    intro behind heq
    simp [heq, enter, scalar, Numeral.read_cons_eq_none] at henter
  exact passes_of_move (by simp [move, henter]) rest hq

/-- A first key is passed over like any other. -/
theorem passes_firstKey (brackets : List Bracket) (text : List Char) :
    Passes ⟨.firstKey, brackets, text⟩ ⟨.key, brackets, text⟩ := by
  intro rest hrest
  obtain ⟨q, hmove, hq⟩ := exists_move_of_finish (by simp) hrest
  have hkey : (key (skipSpace text)).map (fun behind => ⟨.value, brackets, behind⟩) = some q :=
    hmove
  have hne : ∀ behind, skipSpace text ≠ '}' :: behind := by
    intro behind heq
    simp [heq, key] at hkey
  exact passes_of_move (by simp [move, hkey]) rest hq

/-- Space behind a value is passed over. -/
theorem passes_gap {gap : List Char} (hgap : Blank gap) (bracket : Bracket)
    (outer : List Bracket) (text : List Char) :
    Passes ⟨.after, bracket :: outer, gap ++ text⟩ ⟨.after, bracket :: outer, text⟩ := by
  intro rest hrest
  obtain ⟨q, hmove, hq⟩ := exists_move_of_finish (by simp) hrest
  refine passes_of_move ?_ rest hq
  simpa only [move, skipSpace_append hgap] using hmove

/-- A value without parts does not begin with space. -/
theorem skipSpace_of_scalar {cs rest : List Char} (h : scalar cs = some rest) :
    skipSpace cs = cs := by
  cases cs with
  | nil => rfl
  | cons c cs =>
    by_cases hspace : isSpace c
    · simp only [isSpace, Bool.or_eq_true, beq_iff_eq] at hspace
      rcases hspace with ((rfl | rfl) | rfl) | rfl <;>
        simp [scalar, Numeral.read_cons_eq_none] at h
    · exact skipSpace_cons (by simpa using hspace) cs

theorem enter_of_scalar {cs rest : List Char} (h : scalar cs = some rest)
    (brackets : List Bracket) : enter brackets cs = some ⟨.after, brackets, rest⟩ := by
  unfold enter
  split
  · simp [scalar, Numeral.read_cons_eq_none] at h
  · simp [scalar, Numeral.read_cons_eq_none] at h
  · simp [h]

theorem scalar_of_read {cs rest : List Char} {numeral : Numeral}
    (h : Numeral.read cs = some (numeral, rest)) : scalar cs = some rest := by
  unfold scalar
  split
  · simp [Numeral.read_cons_eq_none] at h
  · simp [Numeral.read_cons_eq_none] at h
  · simp [Numeral.read_cons_eq_none] at h
  · simp [Numeral.read_cons_eq_none] at h
  · simp [h]

theorem passes_scalar {gap cs rest : List Char} (hgap : Blank gap) (h : scalar cs = some rest)
    (brackets : List Bracket) :
    Passes ⟨.value, brackets, gap ++ cs⟩ ⟨.after, brackets, rest⟩ := by
  apply passes_of_move
  have hskip : skipSpace (gap ++ cs) = cs := by rw [skipSpace_append hgap, skipSpace_of_scalar h]
  simp [move, hskip, enter_of_scalar h]

theorem colon_gap {gap : List Char} (hgap : Blank gap) (rest : List Char) :
    colon (gap ++ ':' :: rest) = some rest := by
  simp [colon, skipSpace_gap hgap (c := ':') rfl]

theorem passes_label {key label : List Char} (h : Label key label) (outer : List Bracket)
    (rest : List Char) :
    Passes ⟨.key, .object :: outer, label ++ rest⟩ ⟨.value, .object :: outer, rest⟩ := by
  obtain ⟨front, behind, hfront, hbehind, hkey, heq⟩ := h.exists_append
  rw [heq]
  apply passes_of_move
  have hskip : Text.skip (key ++ '"' :: (behind ++ ':' :: rest)) = some (behind ++ ':' :: rest) :=
    Text.skip_eq_some_iff.2 ⟨key, hkey, rfl⟩
  simp [move, skipSpace_gap hfront (c := '"') rfl, Skip.key, hskip, colon_gap hbehind]

/-- A phrase is passed over from the place where it belongs, at any depth. -/
def Passed : Phrase → List Char → Prop
  | .value, cs => ∀ brackets gap rest, Blank gap → Stops rest →
    Passes ⟨.value, brackets, gap ++ (cs ++ rest)⟩ ⟨.after, brackets, rest⟩
  | .spaced _, cs => ∀ bracket outer rest, Stops rest →
    Passes ⟨.value, bracket :: outer, cs ++ rest⟩ ⟨.after, bracket :: outer, rest⟩
  | .items _, cs => ∀ outer rest,
    Passes ⟨.value, .list :: outer, cs ++ ']' :: rest⟩ ⟨.after, outer, rest⟩
  | .members _, cs => ∀ outer rest,
    Passes ⟨.key, .object :: outer, cs ++ '}' :: rest⟩ ⟨.after, outer, rest⟩

theorem passed_scalar {cs : List Char} (h : ∀ rest, Stops rest → scalar (cs ++ rest) = some rest) :
    Passed .value cs :=
  fun brackets _ rest hgap stops => passes_scalar hgap (h rest stops) brackets

theorem passes_openList {gap : List Char} (hgap : Blank gap) (brackets : List Bracket)
    (rest : List Char) :
    Passes ⟨.value, brackets, gap ++ '[' :: rest⟩ ⟨.firstItem, .list :: brackets, rest⟩ :=
  passes_of_move (by simp [move, skipSpace_gap hgap (c := '[') rfl, enter])

theorem passes_openObject {gap : List Char} (hgap : Blank gap) (brackets : List Bracket)
    (rest : List Char) :
    Passes ⟨.value, brackets, gap ++ '{' :: rest⟩ ⟨.firstKey, .object :: brackets, rest⟩ :=
  passes_of_move (by simp [move, skipSpace_gap hgap (c := '{') rfl, enter])

/-- The induction is on how the phrase is written, so that values may nest to any depth. -/
theorem passed {phrase : Phrase} {cs : List Char} (h : Written phrase cs) : Passed phrase cs := by
  induction h with
  | null => exact passed_scalar fun _ _ => rfl
  | yes => exact passed_scalar fun _ _ => rfl
  | no => exact passed_scalar fun _ _ => rfl
  | numeral hwritten =>
    exact passed_scalar fun _ stops => scalar_of_read (Numeral.read_append hwritten stops)
  | text hinside =>
    exact passed_scalar fun rest _ => Text.skip_eq_some_iff.2 ⟨_, hinside, by simp⟩
  | emptyList hspace =>
    intro brackets gap rest hgap _
    simp only [List.cons_append, List.append_assoc, List.nil_append]
    refine (passes_openList hgap brackets _).trans (passes_of_move ?_)
    simp [move, skipSpace_gap hspace (c := ']') rfl]
  | list _ ih =>
    intro brackets gap rest hgap _
    simp only [List.cons_append, List.append_assoc, List.nil_append]
    exact ((passes_openList hgap brackets _).trans (passes_firstItem _ _)).trans (ih brackets rest)
  | emptyObject hspace =>
    intro brackets gap rest hgap _
    simp only [List.cons_append, List.append_assoc, List.nil_append]
    refine (passes_openObject hgap brackets _).trans (passes_of_move ?_)
    simp [move, skipSpace_gap hspace (c := '}') rfl]
  | object _ ih =>
    intro brackets gap rest hgap _
    simp only [List.cons_append, List.append_assoc, List.nil_append]
    exact ((passes_openObject hgap brackets _).trans (passes_firstKey _ _)).trans (ih brackets rest)
  | spaced hfront _ hbehind ih =>
    intro bracket outer rest stops
    simp only [List.append_assoc]
    exact (ih _ _ _ hfront (stops_append hbehind stops)).trans (passes_gap hbehind _ _ _)
  | lastItem _ ih =>
    intro outer rest
    exact (ih _ _ _ (stops_cons rfl _)).trans (passes_of_move rfl)
  | item _ _ ih ihRest =>
    intro outer rest
    simp only [List.append_assoc, List.cons_append]
    exact ((ih _ _ _ (stops_cons rfl _)).trans (passes_of_move rfl)).trans (ihRest outer rest)
  | lastMember hlabel _ ih =>
    intro outer rest
    simp only [List.append_assoc]
    exact ((passes_label hlabel _ _).trans (ih _ _ _ (stops_cons rfl _))).trans (passes_of_move rfl)
  | member hlabel _ _ ih ihRest =>
    intro outer rest
    simp only [List.append_assoc, List.cons_append]
    refine ((passes_label hlabel _ _).trans (ih _ _ _ (stops_cons rfl _))).trans ?_
    exact (passes_of_move rfl).trans (ihRest outer rest)

/-- A value is passed over, in front of any text that does not go it on. -/
theorem value_append {gap value rest : List Char} (hgap : Blank gap)
    (hvalue : Written .value value) (stops : Stops rest) :
    Skip.value (gap ++ (value ++ rest)) = some rest :=
  passed hvalue [] gap rest hgap stops rest (by simp [finish])

end Seek.Json.Skip
