import Seek.Json.Numeral
import Seek.Json.Text

/-!
Passing over JSON values. A value that nobody asks for still has to be well formed. Lists and
objects nest to any depth, so the open brackets are kept in a list, innermost first, and the reader
moves between a handful of places in the innermost one. Every move takes a token off the text.
-/

namespace Seek.Json

/-! ### Space between tokens -/

/-- The character may stand between two tokens. -/
def isSpace (c : Char) : Bool := c == ' ' || c == '\t' || c == '\r' || c == '\n'

/-- The text from its next token on. -/
def skipSpace (cs : List Char) : List Char := cs.dropWhile isSpace

theorem length_skipSpace_le (cs : List Char) : (skipSpace cs).length ≤ cs.length :=
  (List.dropWhile_sublist isSpace).length_le

namespace Skip

/-! ### Places -/

/-- An open bracket. -/
inductive Bracket where
  | list
  | object
  deriving DecidableEq, Repr

/-- Where in the innermost bracket the reader stands. -/
inductive Place where
  /-- Before a value. -/
  | value
  /-- Behind the bracket of a list. -/
  | firstItem
  /-- Behind the bracket of an object. -/
  | firstKey
  /-- Before a key. -/
  | key
  /-- Behind a value. -/
  | after
  deriving DecidableEq, Repr

/-- A reader within a text: its place, the open brackets with the
innermost first, and the text that is left. -/
structure Position where
  place : Place
  brackets : List Bracket
  text : List Char
  deriving DecidableEq, Repr

/-- What follows the value at the front, which has no parts. -/
def scalar : List Char → Option (List Char)
  | '"' :: rest => Text.skip rest
  | 'n' :: 'u' :: 'l' :: 'l' :: rest => some rest
  | 't' :: 'r' :: 'u' :: 'e' :: rest => some rest
  | 'f' :: 'a' :: 'l' :: 's' :: 'e' :: rest => some rest
  | cs => (Numeral.read cs).map fun found => found.2

/-- What follows the colon at the front. -/
def colon (cs : List Char) : Option (List Char) :=
  match skipSpace cs with
  | ':' :: rest => some rest
  | _ => none

/-- What follows the key, from its mark on, and its colon. -/
def key : List Char → Option (List Char)
  | '"' :: rest => (Text.skip rest).bind colon
  | _ => none

/-- Takes the front of a value: all of it if it has no parts, and else its bracket. -/
def enter (brackets : List Bracket) : List Char → Option Position
  | '[' :: rest => some ⟨.firstItem, .list :: brackets, rest⟩
  | '{' :: rest => some ⟨.firstKey, .object :: brackets, rest⟩
  | cs => (scalar cs).map fun rest => ⟨.after, brackets, rest⟩

/-- Takes what may follow a value in the innermost bracket: a comma, or the end of the bracket. -/
def leave : List Bracket → List Char → Option Position
  | .list :: outer, ',' :: rest => some ⟨.value, .list :: outer, rest⟩
  | .list :: outer, ']' :: rest => some ⟨.after, outer, rest⟩
  | .object :: outer, ',' :: rest => some ⟨.key, .object :: outer, rest⟩
  | .object :: outer, '}' :: rest => some ⟨.after, outer, rest⟩
  | _, _ => none

/-- Takes one token, or a key with its colon. -/
def move (p : Position) : Option Position :=
  match p.place, skipSpace p.text with
  | .value, cs => enter p.brackets cs
  | .firstItem, ']' :: rest => some ⟨.after, p.brackets.tail, rest⟩
  | .firstItem, cs => enter p.brackets cs
  | .firstKey, '}' :: rest => some ⟨.after, p.brackets.tail, rest⟩
  | .firstKey, cs => (key cs).map fun rest => ⟨.value, p.brackets, rest⟩
  | .key, cs => (key cs).map fun rest => ⟨.value, p.brackets, rest⟩
  | .after, cs => leave p.brackets cs

/-! ### Every move takes something -/

theorem length_of_scalar {cs rest : List Char} (h : scalar cs = some rest) :
    rest.length < cs.length := by
  unfold scalar at h
  split at h
  · have := Text.length_of_skip h
    simp only [List.length_cons]
    omega
  · cases h; simp only [List.length_cons]; omega
  · cases h; simp only [List.length_cons]; omega
  · cases h; simp only [List.length_cons]; omega
  · obtain ⟨⟨numeral, rest'⟩, hread, rfl⟩ := Option.map_eq_some_iff.1 h
    exact Numeral.length_of_read hread

theorem length_of_colon {cs rest : List Char} (h : colon cs = some rest) :
    rest.length < cs.length := by
  unfold colon at h
  split at h
  · rename_i hskip
    have := length_skipSpace_le cs
    rw [hskip] at this
    cases h
    simp only [List.length_cons] at this
    omega
  · cases h

theorem length_of_key {cs rest : List Char} (h : key cs = some rest) :
    rest.length < cs.length := by
  unfold key at h
  split at h
  · obtain ⟨middle, hskip, hcolon⟩ := Option.bind_eq_some_iff.1 h
    have := Text.length_of_skip hskip
    have := length_of_colon hcolon
    simp only [List.length_cons]
    omega
  · cases h

theorem length_of_enter {brackets : List Bracket} {cs : List Char} {q : Position}
    (h : enter brackets cs = some q) : q.text.length < cs.length := by
  unfold enter at h
  split at h
  · cases h; simp
  · cases h; simp
  · obtain ⟨rest, hscalar, rfl⟩ := Option.map_eq_some_iff.1 h
    exact length_of_scalar hscalar

theorem length_of_leave {brackets : List Bracket} {cs : List Char} {q : Position}
    (h : leave brackets cs = some q) : q.text.length < cs.length := by
  unfold leave at h
  split at h
  all_goals cases h
  all_goals simp

theorem length_of_move {p q : Position} (h : move p = some q) :
    q.text.length < p.text.length := by
  refine Nat.lt_of_lt_of_le ?_ (length_skipSpace_le p.text)
  unfold move at h
  split at h
  · exact length_of_enter h
  · rename_i heq
    cases h
    simp [heq]
  · exact length_of_enter h
  · rename_i heq
    cases h
    simp [heq]
  · obtain ⟨rest, hkey, rfl⟩ := Option.map_eq_some_iff.1 h
    exact length_of_key hkey
  · obtain ⟨rest, hkey, rfl⟩ := Option.map_eq_some_iff.1 h
    exact length_of_key hkey
  · exact length_of_leave h

/-! ### Whole values -/

/-- What follows the value that the reader is in. -/
def finish (p : Position) : Option (List Char) :=
  if p.place = .after ∧ p.brackets = [] then some p.text
  else
    match _h : move p with
    | none => none
    | some q => finish q
termination_by p.text.length
decreasing_by exact length_of_move _h

/-- What follows the value at the front. -/
def value (cs : List Char) : Option (List Char) := finish ⟨.value, [], cs⟩

theorem length_of_finish {p : Position} {rest : List Char} (h : finish p = some rest) :
    rest.length ≤ p.text.length := by
  fun_induction finish p with
  | case1 => cases h; simp
  | case2 => cases h
  | case3 p _ q hmove ih =>
    have := ih h
    have := length_of_move hmove
    omega

theorem length_of_value {cs rest : List Char} (h : value cs = some rest) :
    rest.length < cs.length := by
  unfold value at h
  rw [finish, if_neg (by simp)] at h
  split at h
  · cases h
  · rename_i q hmove
    have := length_of_finish h
    have := length_of_move hmove
    dsimp only at this ⊢
    omega

end Skip

end Seek.Json
