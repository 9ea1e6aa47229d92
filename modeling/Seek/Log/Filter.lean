import Seek.Log.Pattern
import Seek.Text.Parts
import Seek.Text.Styled

/-!
Events: what a program reports about its own run. An event has a message and named values, and is
written on a line of its own.

Filters: which events are reported. A filter is a list of directives, each a level, the stem of the
names that it is for, and a condition on the events; a directive without stem is for all names. Of
the directives that are for an event the one with the longest stem decides, of several with that
stem one that asks for a field, and of several alike the last. Where none is for an event, it is not
reported.
-/

namespace Seek.Log

open Text (Piece)

/-! ### Events -/

/-- Something that happened in a run, of interest to its author only. -/
structure Event where
  message : String
  fields : List (String × String)
  deriving DecidableEq, Repr

/-- The names that can be asked for: those of the values, and one for the message. -/
def Event.fieldNames (event : Event) : List String := "message" :: event.fields.map Prod.fst

/-- A named value, after the blank that sets it off. -/
def fieldPieces (field : String × String) : List Piece :=
  [.plain " ", .styled .italic field.1, .styled .dim "=", .plain field.2]

/-- The line of an event. -/
def Event.pieces (event : Event) : List Piece :=
  [.styled .blue "DEBUG", .plain (" " ++ event.message)] ++
    event.fields.flatMap fieldPieces ++ [.plain "\n"]

/-! ### Levels -/

/-- How much is reported. -/
inductive Level where
  | off
  | error
  | warn
  | info
  | debug
  | trace
  deriving DecidableEq, Repr

namespace Level

/-- Levels from the least that is reported to the most. -/
def all : List Level := [.off, .error, .warn, .info, .debug, .trace]

/-- The word for the level. -/
def word : Level → String
  | .off => "off"
  | .error => "error"
  | .warn => "warn"
  | .info => "info"
  | .debug => "debug"
  | .trace => "trace"

/-- The level of a number, which may have a sign before its digits. -/
def ofNumber? (text : List Char) : Option Level :=
  let digits := match text with
    | '+' :: digits => digits
    | _ => text
  if digits.isEmpty || digits.any (!·.isDigit) then none
  else all[Nat.ofDigitChars 10 digits 0]?

/-- The level of a number, or of a word in letters of either case. -/
def ofText? (text : List Char) : Option Level :=
  ofNumber? text <|> all.find? fun level => level.word.toList = text.map Char.toLower

/-- Events meant for debugging are reported. -/
def showsDebug : Level → Bool
  | .debug => true
  | .trace => true
  | _ => false

end Level

/-! ### Directives -/

/-- What a directive asks of an event beside its name. -/
inductive Condition where
  /-- Nothing. -/
  | always
  /-- A field of this name. -/
  | hasField (name : List Char)
  /-- To happen within a span, or a field of a certain value. There are no spans, and values are
  known for spans only. -/
  | never
  deriving DecidableEq, Repr

namespace Condition

/-- The field that is asked for. -/
def field? : Condition → Option (List Char)
  | .hasField name => some name
  | _ => none

/-- The event is as the condition has it. -/
def holds (condition : Condition) (event : Event) : Bool :=
  match condition with
  | .always => true
  | .hasField name => event.fieldNames.any fun field => field.toList = name
  | .never => false

end Condition

/-- What stands between the brackets of a directive: the name of a span and a field in braces. -/
structure Inside where
  span : List Char
  field? : Option (List Char)
  deriving DecidableEq, Repr

namespace Inside

/-- What stands at the front, from behind the bracket, and the text behind the closing one. -/
def read (text : List Char) : Option (Inside × List Char) :=
  let isSpan (c : Char) : Bool := c != ']' && c != '{'
  let span := text.takeWhile isSpan
  match text.dropWhile isSpan with
  | ']' :: rest => some (⟨span, none⟩, rest)
  | '{' :: inner =>
    match inner.dropWhile (· != '}') with
    | '}' :: ']' :: rest => some (⟨span, some (inner.takeWhile (· != '}'))⟩, rest)
    | _ => none
  | _ => none

end Inside

/-- A directive as it is written: a stem, brackets, and a level behind a sign of equality. -/
structure Written where
  stem : List Char
  inside? : Option Inside
  level? : Option (List Char)
  deriving DecidableEq, Repr

namespace Written

/-- The level behind the brackets, if there is one. Behind them or in place of it only blanks may
follow. -/
def readLevel : List Char → Option (Option (List Char))
  | '=' :: level => some (some level)
  | rest => if rest.all Text.isBlank then some none else none

/-- The parts of a directive. -/
def ofText? (text : List Char) : Option Written :=
  let isStem (c : Char) : Bool := c != '=' && c != '['
  let stem := text.takeWhile isStem
  match text.dropWhile isStem with
  | '=' :: level => some ⟨stem, none, some level⟩
  | '[' :: text => do
    let (inside, rest) ← Inside.read text
    some ⟨stem, some inside, ← readLevel rest⟩
  | _ => some ⟨stem, none, none⟩

/-- The condition that a field makes, with the name of a span before it or not. -/
def ofField? (isInSpan : Bool) (text : List Char) : Option Condition :=
  if text.isEmpty then none
  else
    match text.dropWhile (· != '=') with
    | [] => some (if isInSpan then .never else .hasField text)
    | _ :: value => if Value.isValue (value.takeWhile (· != '=')) then some .never else none

/-- The condition of a directive that is written so in a text, perhaps with blanks before it. What
counts as its field is what stands in the text where the field would be without the blanks. -/
def condition? (written : Written) (text : List Char) : Option Condition :=
  match written.inside? with
  | none => some .always
  | some ⟨_, none⟩ => some .never
  | some ⟨span, some field⟩ =>
    let place := Text.byteCount written.stem + 1 + Text.byteCount span + 1
    let cut := Text.takeBytes (Text.byteCount field) (Text.dropBytes place text)
    ofField? (!span.isEmpty) cut

end Written

/-- The level of the events of the names with one stem, if they are as the condition has it. -/
structure Directive where
  stem : List Char
  condition : Condition
  level : Level
  deriving DecidableEq, Repr

namespace Directive

/-- The character may begin a directive. -/
def isOpening (c : Char) : Bool := Text.isLetterOrNumber c || ['_', '-', ':', '['].contains c

/-- The level behind the sign of equality; all is reported if it is left out. -/
def levelOf? (text : List Char) : Option Level :=
  if text.isEmpty then some .trace else Level.ofText? text

/-- The directive of its parts. A level alone is for all names, and without a level all is
reported. -/
def ofWritten? (written : Written) (condition : Condition) : Option Directive :=
  match written.level? with
  | some level => (levelOf? level).map fun level => ⟨written.stem, condition, level⟩
  | none =>
    match condition, Level.ofText? written.stem with
    | .always, some level => some ⟨[], .always, level⟩
    | condition, _ => some ⟨written.stem, condition, .trace⟩

/-- The directive of a text. Blanks before it belong to its stem, so no name begins with that, and
no level may follow. -/
def ofText? (text : List Char) : Option Directive :=
  let front := text.dropWhile Text.isBlank
  if front.head?.any isOpening then do
    let written ← Written.ofText? front
    let condition ← written.condition? text
    if front.length = text.length then ofWritten? written condition
    else if written.level?.isSome then none
    else some ⟨text, .always, .trace⟩
  else none

/-- The directive is for the events of this name that are like this one. -/
def isFor (directive : Directive) (name : List Char) (event : Event) : Bool :=
  directive.stem.isPrefixOf name && directive.condition.holds event

/-- The order of directives from the one that asks for least to the one that asks for most. -/
def rank (a b : Directive) : Ordering :=
  (compare a.stem.length b.stem.length).then (compare a.condition.field? b.condition.field?)

end Directive

/-! ### Filters -/

/-- The directives of a filter, in order. -/
abbrev Filter := List Directive

namespace Filter

/-- The filter of a text, if all of its directives can be read. Empty ones are passed over. -/
def ofText? (text : List Char) : Option Filter :=
  ((Text.parts ',' text).filter fun part => !part.isEmpty).mapM Directive.ofText?

/-- The later of two directives, unless the earlier asks for more. -/
def prefer (best : Option Directive) (next : Directive) : Option Directive :=
  match best with
  | none => some next
  | some best => if (best.rank next).isGT then some best else some next

/-- The directive that decides for an event under a name. -/
def deciding (filter : Filter) (name : List Char) (event : Event) : Option Directive :=
  (filter.filter fun directive => directive.isFor name event).foldl prefer none

/-- The level at which an event is reported under a name. -/
def level (filter : Filter) (name : List Char) (event : Event) : Level :=
  ((filter.deciding name event).map Directive.level).getD .off

end Filter

end Seek.Log
