import Seek.Command.Integer
import Seek.Text.Styled
import Seek.Text.Terminal

/-!
Usage: what can be given on the command line, and what can be wrong with it. Arguments are the
options and the values; each command knows some of them.
-/

namespace Seek.Command

open Text (Piece)

/-- What can be given to a command. -/
inductive Argument where
  | target
  | values
  | json
  | verbose
  | checkSorted
  | help
  | version
  deriving DecidableEq, Repr

namespace Argument

/-- The argument as it is shown in messages. -/
def display : Argument → String
  | .target => "--target <TARGET>"
  | .values => "[VALUES]..."
  | .json => "--json"
  | .verbose => "--verbose"
  | .checkSorted => "--check-sorted"
  | .help => "--help"
  | .version => "--version"

/-- The name behind two hyphens. -/
def long? : Argument → Option String
  | .target => some "target"
  | .values => none
  | .json => some "json"
  | .verbose => some "verbose"
  | .checkSorted => some "check-sorted"
  | .help => some "help"
  | .version => some "version"

/-- The letter behind one hyphen. -/
def short? : Argument → Option Char
  | .target => some 't'
  | .verbose => some 'v'
  | .help => some 'h'
  | .version => some 'V'
  | _ => none

end Argument

/-- What the arguments are given to: the program, or one of its commands. -/
inductive Scope where
  | program
  | pairSum
  | search
  deriving DecidableEq, Repr

namespace Scope

/-- The options that are known here. -/
def options : Scope → List Argument
  | .program => [.json, .verbose, .help, .version]
  | .pairSum => [.target, .json, .verbose, .help]
  | .search => [.target, .checkSorted, .json, .verbose, .help]

/-- The option with this name behind two hyphens. -/
def long? (scope : Scope) (name : List Char) : Option Argument :=
  scope.options.find? fun option => option.long?.any fun long => long.toList = name

/-- The option with this letter behind one hyphen. -/
def short? (scope : Scope) (letter : Char) : Option Argument :=
  scope.options.find? fun option => option.short? = some letter

/-- A negative number is a value here, and no group of options. -/
def takesNumbers : Scope → Bool
  | .program => false
  | .pairSum => true
  | .search => true

end Scope

/-- What is wrong with a command line. -/
inductive UsageError where
  /-- The option is not known, or stands where there are no options. -/
  | unexpectedArgument (shown : String)
  /-- The command is not known. -/
  | unknownCommand (word : String)
  /-- A value is attached to an option that takes none. -/
  | unexpectedValue (argument : Argument) (value : String)
  /-- The option is there already. -/
  | repeated (argument : Argument)
  /-- The option is there without its value. -/
  | valueMissing (argument : Argument)
  /-- The value cannot be read. -/
  | invalidValue (argument : Argument) (value : String) (reason : IntegerError)
  /-- The target is not there. -/
  | targetMissing
  deriving DecidableEq, Repr

namespace UsageError

/-- What is wrong, between apostrophes. -/
def cited (text : String) : List Piece := [.plain "'", .styled .yellow text, .plain "'"]

/-- An argument that something is wrong about, between apostrophes. -/
def about (argument : Argument) : List Piece :=
  [.plain "'", .styled .bold argument.display, .plain "'"]

/-- The error in words, with what it cites set off. -/
def pieces : UsageError → List Piece
  | .unexpectedArgument shown => .plain "unexpected argument " :: cited shown ++ [.plain " found"]
  | .unknownCommand word => .plain "unrecognized subcommand " :: cited word
  | .unexpectedValue argument value =>
    .plain "unexpected value " :: cited value ++ .plain " for " :: about argument ++
      [.plain " found; no more were expected"]
  | .repeated argument =>
    .plain "the argument " :: cited argument.display ++ [.plain " cannot be used multiple times"]
  | .valueMissing argument =>
    .plain "a value is required for " :: cited argument.display ++
      [.plain " but none was supplied"]
  | .invalidValue argument value reason =>
    .plain "invalid value " :: cited value ++ .plain " for " :: about argument ++
      [.plain (": " ++ reason.message)]
  | .targetMissing => [.plain "the following required arguments were not provided:"]

/-- The first line of a text, without the characters that end it. -/
def firstLine (text : List Char) : List Char :=
  let line := text.takeWhile (· != '\n')
  if line.length < text.length ∧ line.getLast? = some '\r' then line.dropLast else line

/-- The error on one line, without styles. The styles are written all the same and then passed over
with all else that is not for show: so the end of a style also ends a sequence that the cited text
leaves open. -/
def line (error : UsageError) : String :=
  let written := Text.render true (.styled .boldRed "error:" :: .plain " " :: error.pieces)
  .ofList (firstLine (Text.visible written.toList))

end UsageError

end Seek.Command
