import Seek.IndexPair.Reader
import Seek.Proofs.Bind
import Seek.Proofs.Json.Skip

/-!
Positions and the members that tell them. The reader takes the members of an object one by one, and
keeps the positions that were told so far (`TakesAll`). What it takes are members of the grammar
(`exists_of_readMembers`), and where it takes them all, it reads them (`exists_readMembers`); what
it keeps in the end is what the members tell, each position by one of them (`exists_takesAll_iff`).
-/

namespace Seek

namespace IndexPair

open Json

/-! ### Positions -/

theorem found_number_iff {cs rest : List Char} {number : Number} :
    Found.read cs = some (.number number, rest) ↔
      ∃ numeral, Numeral.read cs = some (numeral, rest) ∧ numeral.value = some number := by
  constructor
  · intro h
    unfold Found.read at h
    split at h
    case h_7 =>
      simp only [bind, Option.bind_eq_some_iff, Option.some.injEq, Prod.mk.injEq,
        Found.number.injEq] at h
      obtain ⟨⟨numeral, _⟩, hread, _, hvalue, rfl, rfl⟩ := h
      exact ⟨numeral, hread, hvalue⟩
    all_goals simp at h
  · rintro ⟨numeral, hread, hvalue⟩
    -- Anything else that stands at the front begins as no numeral does.
    unfold Found.read
    split
    all_goals simp_all [Numeral.read_cons_eq_none]

theorem exists_of_readPosition {cs rest : List Char} {position : UInt64}
    (h : readPosition cs = .ok (position, rest)) :
    ∃ gap digits, Blank gap ∧ Natural digits position.toNat ∧ cs = gap ++ (digits ++ rest) := by
  obtain ⟨gap, hgap, heq⟩ := exists_of_skipSpace cs
  unfold readPosition at h
  split at h
  case h_2 hfound =>
    cases h
    obtain ⟨numeral, hread, hvalue⟩ := found_number_iff.1 hfound
    obtain ⟨front, hwritten, heq'⟩ := Numeral.exists_of_read hread
    exact ⟨gap, front, hgap, Numeral.natural_of_written hwritten hvalue, by rw [← heq', ← heq]⟩
  all_goals cases h

theorem readPosition_skipSpace (cs : List Char) :
    readPosition (skipSpace cs) = readPosition cs := by
  unfold readPosition
  rw [skipSpace_skipSpace]

theorem readPosition_append {gap digits rest : List Char} {position : UInt64} (hgap : Blank gap)
    (hdigits : Natural digits position.toNat) (stops : Stops rest) :
    readPosition (gap ++ (digits ++ rest)) = .ok (position, rest) := by
  have hread := Numeral.read_append (Numeral.written_natural hdigits.1) stops
  have hvalue : Numeral.value ⟨false, digits, none, none⟩ = some (.natural position) :=
    Numeral.value_eq_natural_iff.2 ⟨rfl, rfl, rfl, hdigits.2⟩
  have hskip : skipSpace (gap ++ (digits ++ rest)) = digits ++ rest := by
    rw [skipSpace_append hgap, Skip.skipSpace_of_scalar (Skip.scalar_of_read hread)]
  simp [readPosition, hskip, found_number_iff.2 ⟨_, hread, hvalue⟩]

/-! ### Members -/

/-- The member tells the position that has its key, where none was told before, or any other
value. -/
inductive Takes (before : Members) (member : Member) : Members → Prop
  | position {field : Field} {position : UInt64} : Text.Spells member.key field.key.toList →
    before.get? field = none → Natural member.value position.toNat →
    Takes before member (before.insert position field)
  | other {key : List Char} : Text.Spells member.key key → Field.ofKey? key = none →
    Takes before member before

/-- The members tell positions one after the other. -/
inductive TakesAll : Members → List Member → Members → Prop
  | nil {before : Members} : TakesAll before [] before
  | cons {before between after : Members} {member : Member} {members : List Member} :
    Takes before member between → TakesAll between members after →
    TakesAll before (member :: members) after

theorem ofKey?_eq_some_iff {key : List Char} {field : Field} :
    Field.ofKey? key = some field ↔ key = field.key.toList := by
  unfold Field.ofKey?
  cases field
  · split
    · simp_all
    · split <;> simp_all
  · split
    · rename_i hfirst
      subst hfirst
      decide
    · split <;> simp_all

theorem wellFormed_eq_ok_iff {α : Type} {found : Option α} {a : α} :
    wellFormed found = .ok a ↔ found = some a := by
  cases found <;> simp [wellFormed]

theorem exists_of_readMember {before after : Members} {cs rest : List Char}
    (h : readMember before cs = .ok (after, rest)) :
    ∃ member gap gap', Blank gap ∧ Blank gap' ∧ Json.Written .value member.value ∧
      Takes before member after ∧
      cs = member.key ++ '"' :: (gap ++ ':' :: (gap' ++ (member.value ++ rest))) := by
  obtain ⟨⟨key, behindKey⟩, hkey, hmember⟩ := bind_eq_ok_iff.1 h
  obtain ⟨body, hspells, rfl⟩ := Text.read_eq_some_iff.1 (wellFormed_eq_ok_iff.1 hkey)
  dsimp only at hmember
  split at hmember
  · rename_i field hfield
    obtain rfl := ofKey?_eq_some_iff.1 hfield
    split at hmember
    · cases hmember
    · rename_i hnone
      obtain ⟨behindColon, hcolon, hvalue⟩ := bind_eq_ok_iff.1 hmember
      obtain ⟨gap, hgap, rfl⟩ := Skip.exists_of_colon (wellFormed_eq_ok_iff.1 hcolon)
      obtain ⟨⟨position, _⟩, hposition, hend⟩ := bind_eq_ok_iff.1 hvalue
      obtain ⟨gap', value, hgap', hnatural, rfl⟩ := exists_of_readPosition hposition
      cases hend
      exact ⟨⟨body, value⟩, gap, gap', hgap, hgap', .numeral (Numeral.written_natural hnatural.1),
        .position hspells (by simpa using hnone) hnatural, rfl⟩
  · rename_i hother
    obtain ⟨behindColon, hcolon, hvalue⟩ := bind_eq_ok_iff.1 hmember
    obtain ⟨gap, hgap, rfl⟩ := Skip.exists_of_colon (wellFormed_eq_ok_iff.1 hcolon)
    obtain ⟨_, hskip, hend⟩ := bind_eq_ok_iff.1 hvalue
    obtain ⟨gap', value, hgap', hwritten, rfl⟩ :=
      Skip.exists_of_value (wellFormed_eq_ok_iff.1 hskip)
    cases hend
    exact ⟨⟨body, value⟩, gap, gap', hgap, hgap', hwritten, .other hspells hother, rfl⟩

theorem readMember_append {before after : Members} {member : Member} {gap gap' rest : List Char}
    (hgap : Blank gap) (hgap' : Blank gap') (hvalue : Json.Written .value member.value)
    (htakes : Takes before member after) (stops : Stops rest) :
    readMember before (member.key ++ '"' :: (gap ++ ':' :: (gap' ++ (member.value ++ rest)))) =
      .ok (after, rest) := by
  have hread : ∀ {key : List Char}, Text.Spells member.key key → ∀ behind,
      Text.read (member.key ++ '"' :: behind) = some (key, behind) :=
    fun hspells behind => Text.read_eq_some_iff.2 ⟨_, hspells, rfl⟩
  cases htakes with
  | position hspells hnone hnatural =>
    simp [readMember, hread hspells, wellFormed, ofKey?_eq_some_iff.2 rfl, hnone,
      Skip.colon_gap hgap, readPosition_append hgap' hnatural stops, bind, Except.bind]
  | other hspells hother =>
    simp [readMember, hread hspells, wellFormed, hother, Skip.colon_gap hgap,
      Skip.value_append hgap' hvalue stops, bind, Except.bind]

/-! ### Whole objects -/

theorem exists_of_readSequel_ended {cs rest : List Char}
    (h : readSequel cs = some (.ended rest)) : ∃ gap, Blank gap ∧ cs = gap ++ '}' :: rest := by
  obtain ⟨gap, hgap, heq⟩ := exists_of_skipSpace cs
  unfold readSequel at h
  split at h
  · rename_i hskip
    cases h
    exact ⟨gap, hgap, hskip ▸ heq⟩
  · split at h <;> cases h
  · cases h

theorem exists_of_readSequel_member {cs rest : List Char}
    (h : readSequel cs = some (.member rest)) :
    ∃ gap gap', Blank gap ∧ Blank gap' ∧ cs = gap ++ ',' :: (gap' ++ '"' :: rest) := by
  obtain ⟨gap, hgap, heq⟩ := exists_of_skipSpace cs
  unfold readSequel at h
  split at h
  · cases h
  · rename_i behind hskip
    obtain ⟨gap', hgap', heq'⟩ := exists_of_skipSpace behind
    split at h
    · rename_i hskip'
      cases h
      rw [hskip'] at heq'
      rw [hskip, heq'] at heq
      exact ⟨gap, gap', hgap, hgap', heq⟩
    · cases h
  · cases h

theorem Takes.exists_spells {before after : Members} {member : Member}
    (h : Takes before member after) : ∃ key, Text.Spells member.key key := by
  cases h with
  | position hspells => exact ⟨_, hspells⟩
  | other hspells => exact ⟨_, hspells⟩

theorem Takes.inside {before after : Members} {member : Member} (h : Takes before member after) :
    Text.Inside member.key := h.exists_spells.elim fun _ hspells => hspells.inside

/-- What is read as members, from behind the mark that opens the first key, is members. -/
theorem exists_of_readMembers {before : Members} {cs rest : List Char} {pair : IndexPair}
    (h : readMembers before cs = .ok (pair, rest)) :
    ∃ members after body, TakesAll before members after ∧ after.pair = .ok pair ∧
      Json.Written (.members members) ('"' :: body) ∧ cs = body ++ '}' :: rest := by
  -- The text behind a comma may begin with space, which the members that follow take in.
  fun_induction readMembers before cs with
  | case1 => cases h
  | case2 => cases h
  | case3 before cs after behind hmember behind' hsequel =>
    obtain ⟨member, gap, gap', hgap, hgap', hvalue, htakes, rfl⟩ := exists_of_readMember hmember
    obtain ⟨gap'', hgap'', rfl⟩ := exists_of_readSequel_ended hsequel
    cases hpair : after.pair with
    | error => rw [hpair] at h; cases h
    | ok =>
      rw [hpair] at h
      cases h
      have hwritten : Json.Written (.members [member]) _ :=
        .lastMember (.mk blank_nil htakes.inside hgap) (.spaced hgap' hvalue hgap'')
      exact ⟨_, _, _, .cons htakes .nil, hpair, hwritten, by simp⟩
  | case4 before cs between behind hmember behind' hsequel ih =>
    obtain ⟨member, gap, gap', hgap, hgap', hvalue, htakes, rfl⟩ := exists_of_readMember hmember
    obtain ⟨gap'', space, hgap'', hspace, rfl⟩ := exists_of_readSequel_member hsequel
    obtain ⟨members, after, body, htakesAll, hpair, hmembers, rfl⟩ := ih h
    have hwritten : Json.Written (.members (member :: members)) _ :=
      .member (.mk blank_nil htakes.inside hgap) (.spaced hgap' hvalue hgap'')
        (members_append hspace hmembers)
    exact ⟨_, _, _, .cons htakes htakesAll, hpair, hwritten, by simp⟩

theorem readMembers_of_readMember {before after : Members} {cs behind : List Char}
    (hmember : readMember before cs = .ok (after, behind)) :
    readMembers before cs =
      match readSequel behind with
      | none => .error .malformed
      | some (.ended rest) => after.pair.map fun pair => (pair, rest)
      | some (.member rest) => readMembers after rest := by
  rw [readMembers]
  split
  · rename_i herror
    cases herror.symm.trans hmember
  · rename_i hmember'
    cases hmember.symm.trans hmember'
    split <;> rename_i hsequel <;> rw [hsequel]

/-- Members are read, from behind the mark that opens the first key. -/
theorem exists_readMembers {members : List Member} {before after : Members} {cs : List Char}
    {pair : IndexPair} (h : Json.Written (.members members) cs)
    (htakes : TakesAll before members after) (hpair : after.pair = .ok pair) (rest : List Char) :
    ∃ gap body, Blank gap ∧ cs = gap ++ '"' :: body ∧
      readMembers before (body ++ '}' :: rest) = .ok (pair, rest) := by
  induction htakes generalizing cs with
  | nil => cases h
  | cons htakes htakesAll ih =>
    cases h with
    | lastMember hlabel hspaced =>
      obtain ⟨front, behind, hfront, hbehind, -, heq⟩ := hlabel.exists_append
      cases hspaced with
      | spaced hgap hvalue hgap' =>
      cases htakesAll
      have hmember := readMember_append hbehind hgap hvalue htakes
        (stops_gap hgap' (c := '}') rfl rest)
      refine ⟨front, _, hfront, heq _, ?_⟩
      simp only [List.append_assoc, List.cons_append]
      rw [readMembers_of_readMember hmember]
      simp [readSequel, skipSpace_gap hgap' (c := '}') rfl, hpair, Except.map]
    | member hlabel hspaced hmembers =>
      obtain ⟨front, behind, hfront, hbehind, -, heq⟩ := hlabel.exists_append
      cases hspaced with
      | spaced hgap hvalue hgap' =>
      obtain ⟨space, body, hspace, rfl, hread⟩ := ih hmembers hpair
      have hmember := readMember_append hbehind hgap hvalue htakes
        (stops_gap hgap' (c := ',') rfl (space ++ '"' :: (body ++ '}' :: rest)))
      refine ⟨front, _, hfront, heq _, ?_⟩
      simp only [List.append_assoc, List.cons_append]
      rw [readMembers_of_readMember hmember]
      simp [readSequel, skipSpace_gap hgap' (c := ',') rfl, skipSpace_gap hspace (c := '"') rfl,
        hread]

/-! ### What members tell -/

@[simp] theorem get?_insert_self (members : Members) (position : UInt64) (field : Field) :
    (members.insert position field).get? field = some position := by
  cases field <;> rfl

theorem get?_insert_of_ne (members : Members) (position : UInt64) {field other : Field}
    (h : other ≠ field) : (members.insert position field).get? other = members.get? other := by
  cases field <;> cases other <;> first | rfl | exact absurd rfl h

theorem members_ext {members members' : Members}
    (h : ∀ field, members.get? field = members'.get? field) : members = members' := by
  obtain ⟨first, second⟩ := members
  obtain ⟨first', second'⟩ := members'
  congr
  · exact h .first
  · exact h .second

/-- The position of this name. -/
def get (pair : IndexPair) : Field → UInt64
  | .first => pair.first
  | .second => pair.second

theorem pair_eq_ok_iff {members : Members} {pair : IndexPair} :
    members.pair = .ok pair ↔ ∀ field, members.get? field = some (pair.get field) := by
  obtain ⟨first?, second?⟩ := members
  constructor
  · intro h field
    cases first? with
    | none => cases h
    | some first =>
      cases second? with
      | none => cases h
      | some second =>
        cases h
        cases field <;> rfl
  · intro h
    have hfirst : first? = some pair.first := h .first
    have hsecond : second? = some pair.second := h .second
    rw [hfirst, hsecond]
    rfl

/-- What is known of a position before and after the members: nothing new, where none of them has
its key, or what the one tells that does. -/
def Tells (members : List Member) (field : Field) (before? after? : Option UInt64) : Prop :=
  after? = before? ∧ Absent field.key.toList members ∨
    before? = none ∧ ∃ position, after? = some position ∧
      Once field.key.toList position.toNat members

theorem tells_nil_iff {field : Field} {before? after? : Option UInt64} :
    Tells [] field before? after? ↔ after? = before? := by
  simp [Tells, absent_nil, not_once_nil]

theorem tells_cons_iff {member : Member} {members : List Member} {field : Field}
    {before? after? : Option UInt64} (h : Text.Spells member.key field.key.toList) :
    Tells (member :: members) field before? after? ↔ before? = none ∧ ∃ position,
      Natural member.value position.toNat ∧ Tells members field (some position) after? := by
  constructor
  · rintro (⟨-, habsent⟩ | ⟨hnone, position, rfl, honce⟩)
    · exact absurd h (absent_cons_iff.1 habsent).1
    · rcases once_cons_iff.1 honce with ⟨-, hvalue, habsent⟩ | ⟨hnot, -⟩
      · exact ⟨hnone, position, hvalue, .inl ⟨rfl, habsent⟩⟩
      · exact absurd h hnot
  · rintro ⟨rfl, position, hvalue, ⟨rfl, habsent⟩ | ⟨hnone, -⟩⟩
    · exact .inr ⟨rfl, position, rfl, once_cons_iff.2 (.inl ⟨h, hvalue, habsent⟩)⟩
    · cases hnone

theorem tells_cons_iff_of_not {member : Member} {members : List Member} {field : Field}
    {before? after? : Option UInt64} (h : ¬Text.Spells member.key field.key.toList) :
    Tells (member :: members) field before? after? ↔ Tells members field before? after? := by
  simp [Tells, absent_cons_iff, once_cons_iff, h]

/-- A member that tells a position has no other key. -/
theorem eq_of_spells {key : List Char} {field other : Field}
    (h : Text.Spells key field.key.toList) (h' : Text.Spells key other.key.toList) :
    field = other := by
  have hkey := ofKey?_eq_some_iff.2 (h.unique h')
  rw [ofKey?_eq_some_iff.2 rfl] at hkey
  exact Option.some.inj hkey

/-- A member that is taken moves what it tells from the text to what is known, and so leaves the end
as it was. -/
theorem tells_cons_iff_of_takes {before between : Members} {member : Member}
    (h : Takes before member between) (members : List Member) (field : Field)
    (after? : Option UInt64) :
    Tells (member :: members) field (before.get? field) after? ↔
      Tells members field (between.get? field) after? := by
  cases h with
  | @position told position hspells hnone hnatural =>
    by_cases hfield : field = told
    · subst hfield
      rw [tells_cons_iff hspells, get?_insert_self]
      constructor
      · rintro ⟨-, position', hnatural', htells⟩
        rwa [UInt64.toNat_inj.1 (hnatural.2.symm.trans hnatural'.2)]
      · exact fun htells => ⟨hnone, position, hnatural, htells⟩
    · have hnot : ¬Text.Spells member.key field.key.toList :=
        fun h => hfield (eq_of_spells h hspells)
      rw [tells_cons_iff_of_not hnot, get?_insert_of_ne _ _ hfield]
  | other hspells hother =>
    refine tells_cons_iff_of_not fun h => ?_
    rw [ofKey?_eq_some_iff.2 (hspells.unique h)] at hother
    cases hother

theorem exists_takes {before : Members} {member : Member} {members : List Member} {key : List Char}
    {after? : Field → Option UInt64} (hkey : Text.Spells member.key key)
    (htells : ∀ field, Tells (member :: members) field (before.get? field) (after? field)) :
    ∃ between, Takes before member between := by
  cases hfield : Field.ofKey? key with
  | none => exact ⟨before, .other hkey hfield⟩
  | some field =>
    rw [ofKey?_eq_some_iff.1 hfield] at hkey
    obtain ⟨hnone, position, hnatural, -⟩ := (tells_cons_iff hkey).1 (htells field)
    exact ⟨_, .position hkey hnone hnatural⟩

/-- The members can be taken from what is known before to what is known after them if every key
spells a text, and each position is told at most once. -/
theorem takesAll_iff {members : List Member} {before after : Members} :
    TakesAll before members after ↔ (∀ member ∈ members, ∃ key, Text.Spells member.key key) ∧
      ∀ field, Tells members field (before.get? field) (after.get? field) := by
  constructor
  · intro h
    induction h with
    | nil => exact ⟨by simp, fun field => tells_nil_iff.2 rfl⟩
    | cons htakes _ ih =>
      obtain ⟨hkeys, htells⟩ := ih
      exact ⟨List.forall_mem_cons.2 ⟨htakes.exists_spells, hkeys⟩,
        fun field => (tells_cons_iff_of_takes htakes _ field _).2 (htells field)⟩
  · rintro ⟨hkeys, htells⟩
    -- A first member that can be taken leaves the other members as much to tell as there was.
    induction members generalizing before with
    | nil =>
      obtain rfl := members_ext fun field => tells_nil_iff.1 (htells field)
      exact .nil
    | cons member members ih =>
      obtain ⟨⟨key, hkey⟩, hkeys⟩ := List.forall_mem_cons.1 hkeys
      obtain ⟨between, htakes⟩ := exists_takes hkey htells
      exact .cons htakes (ih hkeys fun field =>
        (tells_cons_iff_of_takes htakes _ field _).1 (htells field))

/-- Nothing is known before the first member, so each position has to be told. -/
theorem exists_takesAll_iff {members : List Member} {pair : IndexPair} :
    (∃ after, TakesAll ⟨none, none⟩ members after ∧ after.pair = .ok pair) ↔
      (∀ member ∈ members, ∃ key, Text.Spells member.key key) ∧
        ∀ field, Once field.key.toList (pair.get field).toNat members := by
  have hnone : ∀ field, (⟨none, none⟩ : Members).get? field = none := by
    rintro ⟨⟩ <;> rfl
  simp only [takesAll_iff, pair_eq_ok_iff, hnone]
  constructor
  · rintro ⟨after, ⟨hkeys, htells⟩, hpair⟩
    refine ⟨hkeys, fun field => ?_⟩
    rcases htells field with ⟨hafter, -⟩ | ⟨-, position, hafter, honce⟩
    · cases hafter.symm.trans (hpair field)
    · cases hafter.symm.trans (hpair field)
      exact honce
  · rintro ⟨hkeys, honce⟩
    have hpair : ∀ field, (⟨some pair.first, some pair.second⟩ : Members).get? field =
        some (pair.get field) := by
      rintro ⟨⟩ <;> rfl
    exact ⟨⟨some pair.first, some pair.second⟩,
      ⟨hkeys, fun field => .inr ⟨rfl, _, hpair field, honce field⟩⟩, hpair⟩

end IndexPair

end Seek
