/-!
What a terminal shows of a text. Some characters are not for show: control characters other than
blanks, and sequences that begin with the escape character and by which a terminal is told what to
do. The rest of the text is what it shows. A sequence has one of a few forms, told apart by its
second character, and each form ends in its own way.
-/

namespace Seek.Text

/-- What a terminal is in the middle of. -/
inductive Phase where
  /-- No sequence. -/
  | ground
  /-- Behind the escape character. -/
  | escape
  /-- In a sequence of several characters that is of no other form. -/
  | escapeTail
  /-- In a control sequence, which ends with a letter. -/
  | control
  /-- In the head of a sequence for a device, which ends with a letter. -/
  | deviceHead
  /-- In the text of a sequence for a device or a program. -/
  | string
  /-- In a command to the system, which ends with the bell. -/
  | command
  deriving DecidableEq, Repr

/-- The control characters that are blank. -/
def isBlankControl (c : Char) : Bool := ['\t', '\n', '\x0c', '\r'].contains c

/-- The number of the character lies in the range. -/
def liesIn (low high : Nat) (c : Char) : Bool := low ≤ c.toNat && c.toNat ≤ high

namespace Phase

/-- The character is shown. Within most sequences a blank control character is obeyed at once. -/
def shows (phase : Phase) (c : Char) : Bool :=
  match phase with
  | .ground => isBlankControl c || 0x20 ≤ c.toNat && c != '\x7f'
  | .escape | .escapeTail | .control => isBlankControl c
  | .deviceHead | .string | .command => false

/-- The phase behind the escape character and one more. -/
def ofSecond (c : Char) : Phase :=
  if c = '[' then .control
  else if c = ']' then .command
  else if c = 'P' then .deviceHead
  else if ['X', '^', '_'].contains c then .string
  else if liesIn 0x20 0x2f c then .escapeTail
  else if liesIn 0x30 0x7e c then .ground
  else .escape

/-- The phase behind a character that is not shown. An escape begins a sequence anew, and two
control characters give up any. A string also ends with the byte `9c`, be it a part of another
character. -/
def next (phase : Phase) (c : Char) : Phase :=
  if c = '\x1b' then .escape
  else if c = '\x18' ∨ c = '\x1a' then .ground
  else
    match phase with
    | .ground => .ground
    | .escape => ofSecond c
    | .escapeTail => if liesIn 0x30 0x7e c then .ground else .escapeTail
    | .control => if liesIn 0x40 0x7e c then .ground else .control
    | .deviceHead => if liesIn 0x40 0x7e c then .string else .deviceHead
    | .string => if (String.utf8EncodeChar c).contains 0x9c then .ground else .string
    | .command => if c = '\x07' then .ground else .command

end Phase

/-- What is shown of a text. Once a character was shown, so are the ones behind it up to the next
that is not for show, and a sequence in which a blank was obeyed goes on only there. -/
def visibleFrom (phase : Phase) (isShowing : Bool) : List Char → List Char
  | [] => []
  | c :: cs =>
    if (if isShowing then .ground else phase).shows c then
      c :: visibleFrom (if c.toNat < 0x80 then phase else .ground) true cs
    else visibleFrom (phase.next c) false cs

/-- What a terminal shows of a text. -/
def visible (text : List Char) : List Char := visibleFrom .ground false text

end Seek.Text
