import Seek.Log.Pattern.Atom

/-!
Groups: parts of a pattern in parentheses, and the whole pattern. A group holds alternatives, each a
row of parts, and may have flags or a name of its own.
-/

namespace Seek.Log.Pattern

/-! ### Names -/

/-- The text is the name of a group. -/
def isGroupName : List Char → Bool
  | [] => false
  | c :: rest =>
    (c = '_' || Text.isLetter c) &&
      rest.all fun c => ['_', '.', '[', ']'].contains c || Text.isLetterOrNumber c

/-- The name at the front, from behind its bracket, and the text behind it. -/
def readGroupName (text : List Char) : Option (List Char × List Char) :=
  match text.dropWhile (· != '>') with
  | '>' :: rest =>
    let name := text.takeWhile (· != '>')
    if isGroupName name then some (name, rest) else none
  | _ => none

/-! ### Open groups -/

/-- A part of a row. -/
structure Part where
  depth : Nat
  /-- The part can be repeated; flags cannot. -/
  isRepeatable : Bool
  deriving DecidableEq, Repr

/-- A group that is still open. -/
structure OpenGroup where
  /-- The flags at the end of what was read. -/
  flags : Flags
  /-- The depths of the alternatives that are complete. -/
  alternatives : List Nat
  /-- The parts of the last alternative, from the last to the first. -/
  parts : List Part
  deriving DecidableEq, Repr

namespace OpenGroup

/-- Nothing was read of the group. -/
def start (flags : Flags) : OpenGroup := ⟨flags, [], []⟩

/-- Behind a part of this depth. -/
def add (group : OpenGroup) (depth : Nat) : OpenGroup :=
  { group with parts := ⟨depth, true⟩ :: group.parts }

/-- Behind letters that set flags for the rest of the group. -/
def addFlags (group : OpenGroup) (letters : List Char) : OpenGroup :=
  { group with flags := group.flags.set letters, parts := ⟨0, false⟩ :: group.parts }

/-- Behind an atom. -/
def addAtom (group : OpenGroup) (atom : Atom) : Option OpenGroup :=
  if atom.isAllowed group.flags then some (group.add 0) else none

/-- Behind a sign that repeats the last part. -/
def repeatLast (group : OpenGroup) : Option OpenGroup :=
  match group.parts with
  | ⟨depth, true⟩ :: parts => some { group with parts := ⟨depth + 1, true⟩ :: parts }
  | _ => none

/-- The depths of all alternatives. -/
def allAlternatives (group : OpenGroup) : List Nat :=
  depthOf (group.parts.map Part.depth) :: group.alternatives

/-- Behind the sign of an alternative. -/
def alternate (group : OpenGroup) : OpenGroup :=
  { group with alternatives := group.allAlternatives, parts := [] }

/-- The depth of what was read. -/
def depth (group : OpenGroup) : Nat := depthOf group.allAlternatives

end OpenGroup

end Seek.Log.Pattern
