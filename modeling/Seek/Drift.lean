import Seek.Text.Character

/-!
Drift between a source and a copy of parts of it. The functions that proofs are about are carried
twice; a copy has drifted when the normal form of a function differs from that of the source. The
functions are compared in order, and the first difference is reported.

A function begins where its name follows the keyword and is itself followed by the bracket of its
arguments or of its type parameters. From there it reaches to the brace that closes the first one
opened. Nothing else of the text is understood: a brace counts wherever it stands, and so does a
mention of the name. The normal form of code is what is left of it without line comments and blanks.
A comment reaches from the first two slashes of a line to its end, wherever in the line they stand.
-/

namespace Seek.Drift

/-! ### Finding a function -/

/-- The words that begin the function of this name. -/
def heading (name : List Char) : List Char := 'f' :: 'n' :: ' ' :: name

/-- What may follow the name where a function begins. -/
def opensSignature : List Char → Bool
  | c :: _ => c == '(' || c == '<'
  | [] => false

/-- The text from the beginning of the function on. Where a mention does not begin it, the search
goes on behind the mention. -/
def beginning (name : List Char) (text : List Char) : Option (List Char) :=
  match text with
  | [] => none
  | c :: cs =>
    if (heading name).isPrefixOf (c :: cs) then
      let after := cs.drop (name.length + 2)
      if opensSignature after then some (c :: cs) else beginning name after
    else beginning name cs
termination_by text.length
decreasing_by
  · simp only [List.length_drop, List.length_cons]
    omega
  · simp

/-- The length of the text up to the brace that closes the last open one, where `depth` braces are
open and `taken` characters are behind. There is none if a brace closes that was never opened. -/
def extent (depth taken : Nat) : List Char → Option Nat
  | [] => none
  | c :: cs =>
    if c = '{' then extent (depth + 1) (taken + 1) cs
    else if c = '}' then
      match depth with
      | 0 => none
      | 1 => some (taken + 1)
      | others + 2 => extent (others + 1) (taken + 1) cs
    else extent depth (taken + 1) cs

/-- The function of this name, from its keyword to its last brace. -/
def body (source name : List Char) : Option (List Char) := do
  let text ← beginning name source
  let length ← extent 0 0 text
  some (text.take length)

/-! ### Normal form -/

/-- The code without its line comments, every line end kept. -/
def withoutComments (isInComment : Bool) : List Char → List Char
  | [] => []
  | c :: cs =>
    if c = '\n' then c :: withoutComments false cs
    else if isInComment ∨ c = '/' ∧ cs.head? = some '/' then withoutComments true cs
    else c :: withoutComments false cs

/-- The code without line comments and blanks. -/
def normalForm (code : List Char) : List Char :=
  (withoutComments false code).filter fun c => !Text.isBlank c

/-! ### Comparing -/

/-- The functions that are carried twice. -/
def carried : List String := ["midpoint", "search_position"]

/-- How a copy parts from its source. -/
inductive Difference where
  /-- The source does not have the function. -/
  | notInSource (name : String)
  /-- The copy does not have the function. -/
  | notInCopy (name : String)
  /-- The function differs. -/
  | differs (name : String)
  deriving DecidableEq, Repr

/-- Compares one function. -/
def compareOne (source copy : List Char) (name : String) : Except Difference Unit :=
  match body source name.toList with
  | none => .error (.notInSource name)
  | some here =>
    match body copy name.toList with
    | none => .error (.notInCopy name)
    | some there =>
      if normalForm here = normalForm there then .ok () else .error (.differs name)

/-- Compares all functions that are carried twice. -/
def compareAll (source copy : List Char) : Except Difference Unit :=
  carried.forM (compareOne source copy)

end Seek.Drift
