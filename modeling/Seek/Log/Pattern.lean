import Seek.Log.Pattern.Group
import Seek.Log.Pattern.Set

/-!
Patterns: regular expressions, as far as it matters whether a text is one. A filter may ask for the
value of a field by a pattern. No value is ever compared with it, but a text that is no pattern
spoils the filter. A reader takes the text part by part and keeps the groups and sets that are open,
and what of them bears on the depth of the pattern.

Values: what a filter may ask of a field. A value is a number or a pattern. Most numbers are
patterns too; those with a plus sign are not.
-/

namespace Seek.Log

namespace Pattern

/-- A reader of a pattern. -/
structure Reader where
  /-- The innermost open group, or the whole pattern. -/
  group : OpenGroup
  /-- The groups around it, from the inside to the outside. -/
  outer : List OpenGroup
  /-- The open sets, from the inside to the outside. -/
  sets : List OpenSet
  /-- The names of groups. -/
  names : List (List Char)
  deriving DecidableEq, Repr

namespace Reader

/-- Nothing was read. -/
def start : Reader := ⟨.start .start, [], [], []⟩

/-- The flags at the end of what was read. -/
def flags (reader : Reader) : Flags := reader.group.flags

/-- Behind a part in the innermost group. -/
def inGroup (reader : Reader) (group : OpenGroup) : Reader := { reader with group }

/-- Behind the front of a group with these flags. -/
def openGroup (reader : Reader) (flags : Flags) : Reader :=
  { reader with group := .start flags, outer := reader.group :: reader.outer }

/-- Behind the parenthesis that closes the innermost group. -/
def closeGroup (reader : Reader) : Option Reader :=
  match reader.outer with
  | [] => none
  | group :: outer => some { reader with group := group.add (reader.group.depth + 1), outer }

/-- Behind the bracket that closes the innermost set, which is in the others or in a group. -/
def closeSet (reader : Reader) (set : OpenSet) : List OpenSet → Reader
  | [] => { reader with group := reader.group.add (set.depth + 1), sets := [] }
  | next :: sets => { reader with sets := next.add (set.depth + 1) :: sets }

/-- Takes the front of a group from behind its parenthesis: a name, flags or neither. -/
def takeGroup (reader : Reader) (text : List Char) : Option (Reader × List Char) :=
  match reader.flags.skip text with
  | '?' :: 'P' :: '<' :: text | '?' :: '<' :: text => do
    let (name, rest) ← readGroupName text
    if reader.names.contains name then none
    else some ({ reader.openGroup reader.flags with names := name :: reader.names }, rest)
  | '?' :: text =>
    let isInside (c : Char) : Bool := c != ':' && c != ')'
    let letters := text.takeWhile isInside
    if Flags.areLetters letters then
      match text.dropWhile isInside with
      | ':' :: rest => some (reader.openGroup (reader.flags.set letters), rest)
      | ')' :: rest =>
        if letters.isEmpty then none
        else some (reader.inGroup (reader.group.addFlags letters), rest)
      | _ => none
    else none
  | text => some (reader.openGroup reader.flags, text)

/-- Takes the front of a set from behind its bracket. -/
def takeSet (reader : Reader) (text : List Char) : Option (Reader × List Char) :=
  (readSetFront reader.flags text).map fun rest =>
    ({ reader with sets := .start :: reader.sets }, rest)

/-- Takes a sign of repetition, which a question mark directly behind it makes a reluctant one. -/
def takeRepetition (reader : Reader) (text : List Char) : Option (Reader × List Char) :=
  reader.group.repeatLast.map fun group =>
    (reader.inGroup group, if text.head? = some '?' then text.tail else text)

/-- Takes a part of a group, which begins with this character. -/
def takePart (reader : Reader) (c : Char) (text : List Char) : Option (Reader × List Char) :=
  let takeAtom (atom : Atom) (rest : List Char) : Option (Reader × List Char) :=
    (reader.group.addAtom atom).map fun group => (reader.inGroup group, rest)
  match c with
  | '(' => reader.takeGroup text
  | ')' => reader.closeGroup.map fun reader => (reader, text)
  | '|' => some (reader.inGroup reader.group.alternate, text)
  | '[' => reader.takeSet text
  | '?' | '*' | '+' => reader.takeRepetition text
  | '{' => none
  | '.' => takeAtom .any text
  | '^' | '$' => takeAtom .place text
  | '\\' => do
    let (atom, rest) ← readEscaped reader.flags text
    takeAtom atom rest
  | c => takeAtom (.character c) text

/-- Takes a part of the innermost set, which begins with this character. The others are around
it. -/
def takeMember (reader : Reader) (set : OpenSet) (sets : List OpenSet) (c : Char)
    (text : List Char) : Option (Reader × List Char) :=
  let behind (set : OpenSet) : Reader := { reader with sets := set :: sets }
  if set.isNew ∧ (c = '-' ∨ c = ']' ∧ set.members.isEmpty) then
    if (Atom.character c).isMember reader.flags then some (behind (set.addFront c), text) else none
  else
    match c, text with
    | ']', _ => some (reader.closeSet set sets, text)
    | '[', _ =>
      match readNamedSet text with
      | some (isNegated, rest) =>
        if reader.flags.allowNamedSet isNegated then some (behind (set.add 0), rest) else none
      | none => reader.takeSet text
    | '&', '&' :: rest => some (behind set.operate, rest)
    | '-', '-' :: rest => some (behind set.operate, rest)
    | '~', '~' :: rest => some (behind set.operate, rest)
    | _, _ => (readRange reader.flags (c :: text)).map fun rest => (behind (set.add 0), rest)

/-- Takes what begins with this character. -/
def take (reader : Reader) (c : Char) (text : List Char) : Option (Reader × List Char) :=
  match reader.sets with
  | [] => reader.takePart c text
  | set :: sets => reader.takeMember set sets c text

/-- Takes a text to its end. Each part has a character at least, so a text has no more parts than
characters. -/
def takeAll : Nat → Reader → List Char → Option Reader
  | parts, reader, text =>
    match reader.flags.skip text, parts with
    | [], _ => some reader
    | _ :: _, 0 => none
    | c :: rest, parts + 1 => do
      let (reader, rest) ← reader.take c rest
      takeAll parts reader rest

/-- All groups and sets are closed, and none lies too deep. -/
def isComplete (reader : Reader) : Bool :=
  reader.outer.isEmpty && reader.sets.isEmpty && reader.group.depth ≤ maxDepth

end Reader

/-- The text is a pattern. -/
def isPattern (text : List Char) : Bool :=
  (Reader.start.takeAll text.length text).any Reader.isComplete

end Pattern

/-! ### Values -/

namespace Value

/-- The text is empty or the exponent of a number. -/
def isExponent : List Char → Bool
  | [] => true
  | 'e' :: '+' :: digits | 'e' :: '-' :: digits | 'e' :: digits =>
    !digits.isEmpty && digits.all Char.isDigit
  | _ => false

/-- The text is a number in lower case, with a point or an exponent or neither. -/
def isNumber (text : List Char) : Bool :=
  let whole := text.takeWhile Char.isDigit
  match text.dropWhile Char.isDigit with
  | '.' :: rest =>
    let fraction := rest.takeWhile Char.isDigit
    !(whole.isEmpty && fraction.isEmpty) && isExponent (rest.dropWhile Char.isDigit)
  | rest => !whole.isEmpty && isExponent rest

/-- The text is a plus sign and a number. -/
def isSignedNumber : List Char → Bool
  | '+' :: text =>
    let text := text.map Char.toLower
    isNumber text || ["inf", "infinity", "nan"].any fun word => word.toList = text
  | _ => false

/-- The text can be asked for as a value. -/
def isValue (text : List Char) : Bool := isSignedNumber text || Pattern.isPattern text

end Value

end Seek.Log
