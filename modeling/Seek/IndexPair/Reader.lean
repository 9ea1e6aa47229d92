import Seek.IndexPair
import Seek.Json.Found
import Seek.Json.Skip

/-!
Reading pairs of positions from JSON. A pair is a list of two natural numbers, or an object with a
member for each position, in any order and among any others. The text is read once from the front,
and the first thing wrong with it is reported: a text that is not well formed, a value of the wrong
kind, a member that is there twice or not at all.
-/

namespace Seek.IndexPair

open Json (Found skipSpace)

/-- A position of a pair, by name. -/
inductive Field where
  | first
  | second
  deriving DecidableEq, Repr

/-- The key of the member. -/
def Field.key : Field → String
  | .first => "first"
  | .second => "second"

/-- The position whose member has this key. -/
def Field.ofKey? (key : List Char) : Option Field :=
  if key = Field.first.key.toList then some .first
  else if key = Field.second.key.toList then some .second
  else none

/-- What a reader is looking for. -/
inductive Wanted where
  | pair
  | position
  deriving DecidableEq, Repr

/-- What is looked for, in words. -/
def Wanted.describe : Wanted → String
  | .pair => "struct IndexPair"
  | .position => "usize"

/-- Why a text is not a pair. -/
inductive ReadError where
  /-- The text is not JSON up to here. -/
  | malformed
  /-- The value is of another kind. -/
  | wrongKind (found : Found) (wanted : Wanted)
  /-- The position is a whole number below zero. -/
  | belowZero (magnitude : Nat)
  /-- The list ends after fewer than two positions. -/
  | tooShort (length : Nat)
  /-- The object has the member once already. -/
  | repeated (field : Field)
  /-- The object does not have the member. -/
  | missing (field : Field)
  deriving Repr

/-- The error in words. -/
def ReadError.message : ReadError → String
  | .malformed => "syntax error"
  | .wrongKind found wanted => s!"invalid type: {found.describe}, expected {wanted.describe}"
  | .belowZero magnitude =>
    s!"invalid value: integer \x60-{magnitude}\x60, expected {Wanted.position.describe}"
  | .tooShort length =>
    s!"invalid length {length}, expected {Wanted.pair.describe} with 2 elements"
  | .repeated field => s!"duplicate field \x60{field.key}\x60"
  | .missing field => s!"missing field \x60{field.key}\x60"

/-- The answer, or that the text is malformed. -/
def wellFormed {α : Type} : Option α → Except ReadError α
  | some a => .ok a
  | none => .error .malformed

/-- The position at the front. -/
def readPosition (cs : List Char) : Except ReadError (UInt64 × List Char) :=
  match Found.read (skipSpace cs) with
  | none => .error .malformed
  | some (.number (.natural position), rest) => .ok (position, rest)
  | some (.number (.negative magnitude), _) => .error (.belowZero magnitude)
  | some (found, _) => .error (.wrongKind found .position)

/-! ### Lists -/

/-- A list of two positions, from behind its bracket. -/
def readList (cs : List Char) : Except ReadError (IndexPair × List Char) :=
  match skipSpace cs with
  | ']' :: _ => .error (.tooShort 0)
  | cs => do
    let (first, rest) ← readPosition cs
    match skipSpace rest with
    | ']' :: _ => .error (.tooShort 1)
    | ',' :: rest => do
      let (second, rest) ← readPosition rest
      match skipSpace rest with
      | ']' :: rest => .ok (⟨first, second⟩, rest)
      | _ => .error .malformed
    | _ => .error .malformed

/-! ### Objects -/

/-- The positions that were read so far. -/
structure Members where
  first : Option UInt64
  second : Option UInt64
  deriving DecidableEq, Repr

namespace Members

/-- The position of this name, if it was read. -/
def get? (members : Members) : Field → Option UInt64
  | .first => members.first
  | .second => members.second

/-- The members with one more position. -/
def insert (members : Members) (position : UInt64) : Field → Members
  | .first => { members with first := some position }
  | .second => { members with second := some position }

/-- The pair, once both positions were read. -/
def pair (members : Members) : Except ReadError IndexPair :=
  match members.first, members.second with
  | none, _ => .error (.missing .first)
  | _, none => .error (.missing .second)
  | some first, some second => .ok ⟨first, second⟩

end Members

/-- A member, from behind the mark that opens its key. -/
def readMember (members : Members) (cs : List Char) : Except ReadError (Members × List Char) := do
  let (key, rest) ← wellFormed (Json.Text.read cs)
  match Field.ofKey? key with
  | some field =>
    if (members.get? field).isSome then .error (.repeated field)
    else do
      let rest ← wellFormed (Json.Skip.colon rest)
      let (position, rest) ← readPosition rest
      .ok (members.insert position field, rest)
  | none => do
    let rest ← wellFormed (Json.Skip.colon rest)
    let rest ← wellFormed (Json.Skip.value rest)
    .ok (members, rest)

/-- What follows a member: another one, from behind the mark that opens its key, or the end of the
object. -/
inductive Sequel where
  | member (rest : List Char)
  | ended (rest : List Char)

/-- What follows a member. -/
def readSequel (cs : List Char) : Option Sequel :=
  match skipSpace cs with
  | '}' :: rest => some (.ended rest)
  | ',' :: rest =>
    match skipSpace rest with
    | '"' :: rest => some (.member rest)
    | _ => none
  | _ => none

/-! ### Every member takes something -/

theorem length_of_readPosition {cs rest : List Char} {position : UInt64}
    (h : readPosition cs = .ok (position, rest)) : rest.length < cs.length := by
  unfold readPosition at h
  split at h
  all_goals cases h
  rename_i hread
  exact Nat.lt_of_lt_of_le (Found.length_of_read hread) (Json.length_skipSpace_le cs)

theorem length_of_readMember {members next : Members} {cs rest : List Char}
    (h : readMember members cs = .ok (next, rest)) : rest.length < cs.length := by
  unfold readMember at h
  cases hkey : Json.Text.read cs with
  | none => rw [hkey] at h; cases h
  | some found =>
    obtain ⟨key, afterKey⟩ := found
    have := Json.Text.length_of_read hkey
    rw [hkey] at h
    simp only [wellFormed, bind, Except.bind] at h
    split at h
    · split at h
      · cases h
      · cases hcolon : Json.Skip.colon afterKey with
        | none => rw [hcolon] at h; cases h
        | some afterColon =>
          have := Json.Skip.length_of_colon hcolon
          rw [hcolon] at h
          dsimp only at h
          cases hposition : readPosition afterColon with
          | error => rw [hposition] at h; cases h
          | ok found =>
            obtain ⟨position, rest'⟩ := found
            have := length_of_readPosition hposition
            rw [hposition] at h
            cases h
            dsimp only
            omega
    · cases hcolon : Json.Skip.colon afterKey with
      | none => rw [hcolon] at h; cases h
      | some afterColon =>
        have := Json.Skip.length_of_colon hcolon
        rw [hcolon] at h
        dsimp only at h
        cases hvalue : Json.Skip.value afterColon with
        | none => rw [hvalue] at h; cases h
        | some rest' =>
          have := Json.Skip.length_of_value hvalue
          rw [hvalue] at h
          cases h
          omega

theorem length_of_readSequel {cs rest : List Char} (h : readSequel cs = some (.member rest)) :
    rest.length < cs.length := by
  unfold readSequel at h
  have hskip := Json.length_skipSpace_le cs
  split at h
  · cases h
  · rename_i heq
    rw [heq] at hskip
    rename_i middle
    have hskip' := Json.length_skipSpace_le middle
    split at h
    · rename_i heq'
      rw [heq'] at hskip'
      cases h
      simp only [List.length_cons] at hskip hskip'
      omega
    · cases h
  · cases h

/-! ### Whole pairs -/

/-- The members of an object, from behind the mark that opens the first key. -/
def readMembers (members : Members) (cs : List Char) : Except ReadError (IndexPair × List Char) :=
  match _hmember : readMember members cs with
  | .error error => .error error
  | .ok (members, rest) =>
    match _hsequel : readSequel rest with
    | none => .error .malformed
    | some (.ended rest) => members.pair.map fun pair => (pair, rest)
    | some (.member rest) => readMembers members rest
termination_by cs.length
decreasing_by
  have := length_of_readMember _hmember
  have := length_of_readSequel _hsequel
  omega

/-- An object with both positions, from behind its bracket. -/
def readObject (cs : List Char) : Except ReadError (IndexPair × List Char) :=
  let members : Members := ⟨none, none⟩
  match skipSpace cs with
  | '}' :: rest => members.pair.map fun pair => (pair, rest)
  | '"' :: rest => readMembers members rest
  | _ => .error .malformed

/-- The pair at the front. -/
def readFront (cs : List Char) : Except ReadError (IndexPair × List Char) :=
  match skipSpace cs with
  | '[' :: rest => readList rest
  | '{' :: rest => readObject rest
  | cs =>
    match Found.read cs with
    | none => .error .malformed
    | some (found, _) => .error (.wrongKind found .pair)

/-- The pair that is all of the text, space apart. -/
def read (text : List Char) : Except ReadError IndexPair := do
  let (pair, rest) ← readFront text
  if (skipSpace rest).isEmpty then .ok pair else .error .malformed

/-- The pair that the text is. -/
def ofJson (text : String) : Except ReadError IndexPair := read text.toList

end Seek.IndexPair
