import Seek.Text.Character

/-!
Atoms: the smallest parts of a pattern, which stand for a character, for several or for a place in a
text. Flags say how they are meant, and so which of them a pattern may hold: there are no tables of
the kinds and cases of characters beyond ASCII, and what is written as bytes may only stand for
texts. Parts lie in each other to a depth: a whole of several parts is one deeper than the deepest
of them, and a whole of one part is that part.
-/

namespace Seek.Log.Pattern

/-! ### Flags -/

/-- How the parts of a pattern are meant. -/
structure Flags where
  /-- A letter stands for both of its cases. -/
  ignoresCase : Bool
  /-- Characters are those of all scripts; otherwise they are bytes. -/
  isUnicode : Bool
  /-- Blanks and comments stand for nothing. -/
  isSpaced : Bool
  deriving DecidableEq, Repr

namespace Flags

/-- The flags at the front of a pattern. -/
def start : Flags := ⟨false, true, false⟩

/-- The flags behind these letters. Those before the hyphen are set, those behind it are not. -/
def set (flags : Flags) (letters : List Char) : Flags :=
  let isSet (letter : Char) (old : Bool) : Bool :=
    if letters.contains letter then (letters.takeWhile (· != '-')).contains letter else old
  ⟨isSet 'i' flags.ignoresCase, isSet 'u' flags.isUnicode, isSet 'x' flags.isSpaced⟩

/-- The letters make up flags: each is one of a flag or a hyphen, none is repeated, and no hyphen is
the last. -/
def areLetters (letters : List Char) : Bool :=
  letters.all ['i', 'm', 's', 'U', 'u', 'R', 'x', '-'].contains && decide letters.Nodup &&
    letters.getLast? != some '-'

end Flags

/-! ### Blanks and comments -/

/-- The text behind the blanks and comments at its front. A comment goes from a number sign to the
end of its line. -/
def skipSpace (isInComment : Bool) : List Char → List Char
  | [] => []
  | c :: text =>
    if isInComment then skipSpace (c != '\n') text
    else if Text.isBlank c then skipSpace false text
    else if c = '#' then skipSpace true text
    else c :: text

/-- The text from where it stands for something. -/
def Flags.skip (flags : Flags) (text : List Char) : List Char :=
  if flags.isSpaced then skipSpace false text else text

theorem length_skipSpace_le (isInComment : Bool) (text : List Char) :
    (skipSpace isInComment text).length ≤ text.length := by
  fun_induction skipSpace isInComment text <;> grind

/-! ### Atoms -/

/-- A smallest part of a pattern. -/
inductive Atom where
  /-- A character. -/
  | character (c : Char)
  /-- A character that is written as the two digits of a byte. -/
  | byte (c : Char)
  /-- Any character, but for ends of lines. -/
  | any
  /-- The digits, the blanks, or the characters of words, or all others. -/
  | kind (isNegated : Bool)
  /-- An end of the text or of a line. -/
  | place
  /-- An end of a word, or no such. -/
  | wordPlace
  deriving DecidableEq, Repr

namespace Atom

/-- The character that a range can begin or end with. -/
def character? : Atom → Option Char
  | .character c => some c
  | .byte c => some c
  | _ => none

/-- A pattern with these flags may hold the atom. -/
def isAllowed (flags : Flags) : Atom → Bool
  | .character _ => !(flags.isUnicode && flags.ignoresCase)
  | .byte c => if flags.isUnicode then !flags.ignoresCase else c.toNat < 0x80
  | .any => flags.isUnicode
  | .kind isNegated => !flags.isUnicode && !isNegated
  | .place => true
  | .wordPlace => !flags.isUnicode

/-- A set in a pattern with these flags may hold the atom. -/
def isMember (flags : Flags) (atom : Atom) : Bool :=
  match atom with
  | .character c => atom.isAllowed flags && (flags.isUnicode || c.toNat < 0x80)
  | .byte _ => atom.isAllowed flags
  | .kind _ => atom.isAllowed flags
  | _ => false

end Atom

/-! ### Escaped atoms -/

/-- The value of a hexadecimal digit. -/
def hexDigit? (c : Char) : Option Nat :=
  if c.isDigit then some (c.toNat - '0'.toNat)
  else if 'a' ≤ c.toLower ∧ c.toLower ≤ 'f' then some (c.toLower.toNat - 'a'.toNat + 10)
  else none

/-- Goes on reading a number, of which some digits are left. -/
def readDigits (flags : Flags) : Nat → Nat → List Char → Option (Nat × List Char)
  | 0, value, text => some (value, text)
  | left + 1, value, text =>
    match flags.skip text with
    | [] => none
    | c :: rest => do readDigits flags left (16 * value + (← hexDigit? c)) rest

/-- The character of a number with as many hexadecimal digits, and the text behind it. -/
def readNumber (flags : Flags) (digits : Nat) (text : List Char) : Option (Char × List Char) := do
  let (value, rest) ← readDigits flags digits 0 text
  if value.isValidChar then some (.ofNat value, rest) else none

/-- The atom of a letter behind a backslash, if it is the whole of it. -/
def ofLetter? : Char → Option Atom
  | 'd' | 's' | 'w' => some (.kind false)
  | 'D' | 'S' | 'W' => some (.kind true)
  | 'A' | 'z' => some .place
  | 'b' | 'B' | '<' | '>' => some .wordPlace
  | 'a' => some (.character '\x07')
  | 'f' => some (.character '\x0c')
  | 'n' => some (.character '\n')
  | 'r' => some (.character '\r')
  | 't' => some (.character '\t')
  | 'v' => some (.character '\x0b')
  | c => if c.toNat < 0x80 ∧ ¬c.isAlphanum then some (.character c) else none

/-- The atom at the front, from behind its backslash, and the text behind it. Categories of
characters are not among them, since there is no table of any. -/
def readEscaped (flags : Flags) : List Char → Option (Atom × List Char)
  | [] => none
  | 'x' :: text => (readNumber flags 2 text).map fun (c, rest) => (.byte c, rest)
  | 'u' :: text => (readNumber flags 4 text).map fun (c, rest) => (.character c, rest)
  | 'U' :: text => (readNumber flags 8 text).map fun (c, rest) => (.character c, rest)
  | c :: text => (ofLetter? c).map fun atom => (atom, text)

/-! ### Depth -/

/-- The depth of a whole with parts of these depths. -/
def depthOf : List Nat → Nat
  | [] => 0
  | [depth] => depth
  | depths => depths.foldr max 0 + 1

/-- The greatest depth of a pattern. -/
def maxDepth : Nat := 250

end Seek.Log.Pattern
