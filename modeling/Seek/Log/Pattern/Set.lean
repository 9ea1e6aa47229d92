import Seek.Log.Pattern.Atom

/-!
Sets: characters in brackets, of which one is to stand in a text. A set holds characters, ranges,
kinds and further sets, and operators between two such rows. A set of bytes must not be one of all
other bytes, since those stand for no text.
-/

namespace Seek.Log.Pattern

/-- A set that is still open. -/
structure OpenSet where
  /-- Nothing but hyphens was read, which stand for themselves. -/
  isNew : Bool
  /-- The depth of what is on the left of an operator. -/
  left? : Option Nat
  /-- The depths of the members, from the last to the first. -/
  members : List Nat
  deriving DecidableEq, Repr

namespace OpenSet

/-- Nothing was read of the set. -/
def start : OpenSet := ⟨true, none, []⟩

/-- Behind a member of this depth. -/
def add (set : OpenSet) (depth : Nat) : OpenSet :=
  { set with isNew := false, members := depth :: set.members }

/-- The depth of what was read. -/
def depth (set : OpenSet) : Nat :=
  match set.left? with
  | none => depthOf set.members
  | some left => max left (depthOf set.members) + 1

/-- Behind an operator. -/
def operate (set : OpenSet) : OpenSet := ⟨false, some set.depth, []⟩

/-- Behind a hyphen or a bracket at the front, where they stand for themselves. -/
def addFront (set : OpenSet) (c : Char) : OpenSet := { set.add 0 with isNew := c = '-' }

end OpenSet

/-- A set of this kind, or of all that is not in it, is allowed. -/
def Flags.allowSet (flags : Flags) (isNegated : Bool) : Bool := flags.isUnicode || !isNegated

/-- Reads the front of a set from behind its bracket, where it can be negated. -/
def readSetFront (flags : Flags) (text : List Char) : Option (List Char) :=
  match flags.skip text with
  | '^' :: rest => if flags.allowSet true then some rest else none
  | rest => some rest

/-! ### Sets with a name -/

/-- The names of the sets that have one. -/
def setNames : List String :=
  ["alnum", "alpha", "ascii", "blank", "cntrl", "digit", "graph", "lower", "print", "punct",
   "space", "upper", "word", "xdigit"]

/-- Whether all others are meant by the set with a name at the front, from behind its bracket, and
the text behind it. -/
def readNamedSet : List Char → Option (Bool × List Char)
  | ':' :: text =>
    let isNegated := text.head? = some '^'
    let text := if isNegated then text.tail else text
    match text.dropWhile (· != ':') with
    | ':' :: ']' :: rest =>
      if setNames.any fun name => name.toList = text.takeWhile (· != ':') then
        some (isNegated, rest)
      else none
    | _ => none
  | _ => none

/-- A set with a name is allowed, or that of all others. Its characters are members like any. -/
def Flags.allowNamedSet (flags : Flags) (isNegated : Bool) : Bool :=
  flags.allowSet isNegated && (Atom.character 'a').isMember flags

/-! ### Members -/

/-- The atom at the front of a text in a set. -/
def readMember (flags : Flags) : List Char → Option (Atom × List Char)
  | [] => none
  | '\\' :: text => readEscaped flags text
  | c :: text => some (.character c, text)

/-- A hyphen makes a range with the text behind it. It does not if a bracket or another hyphen
follows, where only blanks and the sign of one comment are passed over. -/
def makesRange (flags : Flags) (text : List Char) : Bool :=
  let next? : Option Char :=
    if flags.isSpaced then
      match text.dropWhile Text.isBlank with
      | '#' :: comment => (comment.dropWhile Text.isBlank).head?
      | rest => rest.head?
    else text.head?
  next? != some ']' && next? != some '-'

/-- The text behind the atom or the range at the front. -/
def readRange (flags : Flags) (text : List Char) : Option (List Char) := do
  let (first, rest) ← readMember flags text
  if !first.isMember flags then none
  else
    match flags.skip rest with
    | '-' :: behind =>
      if makesRange flags behind then
        let (last, rest) ← readMember flags (flags.skip behind)
        if last.isMember flags && (← first.character?) ≤ (← last.character?) then some rest
        else none
      else some ('-' :: behind)
    | rest => some rest

end Seek.Log.Pattern
