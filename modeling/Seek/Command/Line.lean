import Seek.Command.Help
import Seek.Command.Usage

/-!
Command lines, read from left to right into what they ask for; the first thing wrong is reported.
The value of a target that stands by itself, and a run of values, are not looked at when they are
come across: they are *pending* until the next known option, the next value of the other kind or the
end of the line, so an option that is not known, right behind a bad value, is reported before it.
-/

namespace Seek.Command

/-! ### The shape of a word -/

/-- What a word on the command line looks like. -/
inductive Shape where
  /-- Two hyphens alone: nothing behind them is an option. -/
  | escape
  /-- A name behind two hyphens, and what is attached to it by a sign of equality. -/
  | long (name : List Char) (value : Option (List Char))
  /-- Letters behind one hyphen. -/
  | short (letters : List Char)
  /-- Anything else. -/
  | word
  deriving DecidableEq, Repr

/-- The rest of a number behind its first digit: more digits, one point at most, and an exponent of
at least one digit at the end. -/
def isNumberTail (hasPoint : Bool) : List Char → Bool
  | [] => true
  | c :: cs =>
    if c.isDigit then isNumberTail hasPoint cs
    else if c = '.' then !hasPoint && isNumberTail true cs
    else (c == 'e' || c == 'E') && !cs.isEmpty && cs.all Char.isDigit

/-- The text looks like a number without sign. -/
def looksLikeNumber : List Char → Bool
  | [] => false
  | c :: cs => c.isDigit && isNumberTail false cs

/-- What is attached by a sign of equality. -/
def attached? (text : List Char) : Option (List Char) :=
  match text.dropWhile (· != '=') with
  | [] => none
  | _ :: value => some value

/-- The shape of a word. -/
def Shape.of (takesNumbers : Bool) : List Char → Shape
  | ['-', '-'] => .escape
  | '-' :: '-' :: text => .long (text.takeWhile (· != '=')) (attached? text)
  | '-' :: c :: cs =>
    if takesNumbers && looksLikeNumber (c :: cs) then .word else .short (c :: cs)
  | _ => .word

/-! ### Reading options and values -/

/-- What is not looked at yet. -/
inductive Pending where
  | nothing
  /-- A target, with its value once that was come across. -/
  | target (value : Option (List Char))
  /-- A run of values. -/
  | values (values : List (List Char))
  deriving DecidableEq, Repr

/-- What was read so far for the program or one of its commands. -/
structure Given where
  flags : List Argument
  target : Option Int32
  values : List Int32
  pending : Pending
  deriving DecidableEq, Repr

/-- Nothing was read. -/
def Given.nothing : Given := ⟨[], none, [], .nothing⟩

/-- Why the reading of a line ended early. -/
inductive Stop where
  | wrong (error : UsageError)
  | help (topic : Topic)
  | version
  deriving DecidableEq, Repr

/-- The integer that a text stands for. -/
def readValue (argument : Argument) (text : List Char) : Except Stop Int32 :=
  match readInteger text with
  | .ok value => .ok value
  | .error reason => .error (.wrong (.invalidValue argument (.ofList text) reason))

namespace Given

/-- Takes the value of a target. That there is one is looked at before anything else. -/
def takeTarget (given : Given) (value : Option (List Char)) : Except Stop Given :=
  match value with
  | none => .error (.wrong (.valueMissing .target))
  | some text =>
    if given.target.isSome then .error (.wrong (.repeated .target))
    else do
      let target ← readValue .target text
      .ok { given with target := some target }

/-- Looks at what is pending. -/
def settle (given : Given) : Except Stop Given :=
  let settled := { given with pending := .nothing }
  match given.pending with
  | .nothing => .ok settled
  | .target value => settled.takeTarget value
  | .values texts => do
    let values ← texts.mapM (readValue .values)
    .ok { settled with values := given.values ++ values }

/-- Takes a target whose value, if it has one, is attached to it. Only an attached value is looked
at right away. -/
def giveTarget (given : Given) (value : Option (List Char)) : Except Stop Given := do
  let given ← given.settle
  match value with
  | some _ => given.takeTarget value
  | none => .ok { given with pending := .target none }

/-- Takes a flag. -/
def giveFlag (given : Given) (flag : Argument) : Except Stop Given := do
  let given ← given.settle
  if flag ∈ given.flags then .error (.wrong (.repeated flag))
  else .ok { given with flags := given.flags ++ [flag] }

/-- Takes a word that is a value. Behind `--` it is no longer the value of a target. -/
def giveWord (given : Given) (isEscaped : Bool) (word : List Char) : Except Stop Given :=
  match given.pending, isEscaped with
  | .target none, false => .ok { given with pending := .target (some word) }
  | .values texts, _ => .ok { given with pending := .values (texts ++ [word]) }
  | _, _ => do
    let given ← given.settle
    .ok { given with pending := .values [word] }

end Given

namespace Scope

/-- The topic that explains the program or command. -/
def topic : Scope → Topic
  | .program => .program
  | .pairSum => .pairSum
  | .search => .search

/-- Takes a known option that takes no value. -/
def giveSwitch (scope : Scope) (given : Given) (option : Argument) : Except Stop Given :=
  match option with
  | .help => do
    let _ ← given.settle
    .error (.help scope.topic)
  | .version => do
    let _ ← given.settle
    .error .version
  | flag => given.giveFlag flag

/-- Takes an option by its name. -/
def giveLong (scope : Scope) (given : Given) (name : List Char) (value : Option (List Char)) :
    Except Stop Given :=
  match scope.long? name with
  | none => .error (.wrong (.unexpectedArgument ("--" ++ .ofList name)))
  | some .target => given.giveTarget value
  | some option =>
    match value with
    | some value => .error (.wrong (.unexpectedValue option (.ofList value)))
    | none => scope.giveSwitch given option

/-- What is attached to a letter: all that follows it, without one sign of equality at its front. -/
def behindLetter : List Char → Option (List Char)
  | [] => none
  | '=' :: value => some value
  | value => some value

/-- Takes options by their letters, the first of them first. -/
def giveShort (scope : Scope) (given : Given) : List Char → Except Stop Given
  | [] => .ok given
  | letter :: letters =>
    match scope.short? letter with
    | none => .error (.wrong (.unexpectedArgument (.ofList ['-', letter])))
    | some .target => given.giveTarget (behindLetter letters)
    | some option => do
      let given ← scope.giveSwitch given option
      scope.giveShort given letters

/-- Takes the words given to a command. -/
def giveAll (scope : Scope) (isEscaped : Bool) (given : Given) :
    List (List Char) → Except Stop Given
  | [] => given.settle
  | word :: words => do
    if isEscaped then
      let given ← given.giveWord true word
      scope.giveAll true given words
    else
      match Shape.of scope.takesNumbers word with
      | .escape => scope.giveAll true given words
      | .long name value =>
        let given ← scope.giveLong given name value
        scope.giveAll false given words
      | .short letters =>
        let given ← scope.giveShort given letters
        scope.giveAll false given words
      | .word =>
        let given ← given.giveWord false word
        scope.giveAll false given words

end Scope

/-! ### Whole lines -/

/-- The sequence and the target of a command. -/
structure Input where
  target : Int32
  values : List Int32
  deriving DecidableEq, Repr

/-- What the program is asked to do. -/
inductive Action where
  | demo
  | pairSum (input : Input)
  | search (input : Input) (isChecked : Bool)
  deriving DecidableEq, Repr

/-- What a command line asks for. -/
structure Request where
  action : Action
  isJson : Bool
  isVerbose : Bool
  deriving DecidableEq, Repr

/-- The words that name commands. -/
inductive Verb where
  | pairSum
  | search
  | help
  deriving DecidableEq, Repr

/-- The command of this name. -/
def Verb.ofWord? (word : List Char) : Option Verb :=
  if word = "two-sum".toList then some .pairSum
  else if word = "search".toList then some .search
  else if word = "help".toList then some .help
  else none

/-- The input of a command, once all was read. -/
def Given.input (given : Given) : Except Stop Input :=
  match given.target with
  | none => .error (.wrong .targetMissing)
  | some target => .ok ⟨target, given.values⟩

/-- The words behind a command are read, and what the program was given counts too. -/
def readCommand (scope : Scope) (action : Given → Input → Action) (outer : Given)
    (words : List (List Char)) : Except Stop Request := do
  let given ← scope.giveAll false .nothing words
  let input ← given.input
  let has (flag : Argument) : Bool := outer.flags.contains flag || given.flags.contains flag
  .ok ⟨action given input, has .json, has .verbose⟩

/-- The words behind the command that explains: at most one, the name of a command. -/
def readTopic : List (List Char) → Stop
  | [] => .help .program
  | word :: words =>
    match Verb.ofWord? word, words with
    | none, _ => .wrong (.unknownCommand (.ofList word))
    | some _, extra :: _ => .wrong (.unknownCommand (.ofList extra))
    | some .pairSum, [] => .help .pairSum
    | some .search, [] => .help .search
    | some .help, [] => .help .help

/-- What follows two hyphens before any command. No command is looked for there any more. -/
def readEscaped (outer : Given) : List (List Char) → Except Stop Request
  | [] => .ok ⟨.demo, outer.flags.contains .json, outer.flags.contains .verbose⟩
  | word :: _ =>
    if (Verb.ofWord? word).isSome then
      .error (.wrong (.unexpectedArgument (.ofList word)))
    else .error (.wrong (.unknownCommand (.ofList word)))

/-- Reads the words of a command line. -/
def readWords (outer : Given) : List (List Char) → Except Stop Request
  | [] => .ok ⟨.demo, outer.flags.contains .json, outer.flags.contains .verbose⟩
  | word :: words => do
    match Shape.of Scope.program.takesNumbers word with
    | .escape => readEscaped outer words
    | .long name value =>
      let outer ← Scope.program.giveLong outer name value
      readWords outer words
    | .short letters =>
      let outer ← Scope.program.giveShort outer letters
      readWords outer words
    | .word =>
      match Verb.ofWord? word with
      | none => .error (.wrong (.unknownCommand (.ofList word)))
      | some .help => .error (readTopic words)
      | some .pairSum => readCommand .pairSum (fun _ input => .pairSum input) outer words
      | some .search =>
        readCommand .search (fun given input => .search input (given.flags.contains .checkSorted))
          outer words

/-- Reads a command line. -/
def readLine (arguments : List String) : Except Stop Request :=
  readWords .nothing (arguments.map String.toList)

end Seek.Command
