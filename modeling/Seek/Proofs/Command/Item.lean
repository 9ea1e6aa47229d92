import Seek.Command.Line
import Seek.Proofs.Bind
import Seek.Proofs.Command.Numeral

/-!
Items of a command line: a target in one of its spellings, a value, a flag. Their words are read
late, since a target that stands by itself and a run of values stay pending until something else
comes. Main statement: the words of an item are read as that item, whatever it looks like and
whatever is behind it (`giveAll_item`).
-/

namespace Seek.Command

/-! ### Items and their words -/

/-- A flag that can stand with the items. -/
inductive Switch where
  | json
  | verbose
  | checkSorted
  deriving DecidableEq, Repr

namespace Switch

/-- The argument that the flag gives. -/
def argument : Switch → Argument
  | .json => .json
  | .verbose => .verbose
  | .checkSorted => .checkSorted

/-- The flag as written. -/
def word : Switch → List Char
  | .json => "--json".toList
  | .verbose => "-v".toList
  | .checkSorted => "--check-sorted".toList

end Switch

/-- How a target is spelled. -/
inductive Spelling where
  /-- A letter, and the value by itself. -/
  | short
  /-- The value right behind the letter. -/
  | shortJoined
  /-- The value behind the letter and a sign of equality. -/
  | shortEqual
  /-- A name, and the value by itself. -/
  | long
  /-- The value behind the name and a sign of equality. -/
  | longEqual
  deriving DecidableEq, Repr

/-- A target with this value as written. -/
def Spelling.words (text : List Char) : Spelling → List (List Char)
  | .short => ["-t".toList, text]
  | .shortJoined => ["-t".toList ++ text]
  | .shortEqual => ["-t=".toList ++ text]
  | .long => ["--target".toList, text]
  | .longEqual => ["--target=".toList ++ text]

/-- The value is a word by itself. -/
def Spelling.isApart : Spelling → Bool
  | .short | .long => true
  | .shortJoined | .shortEqual | .longEqual => false

/-- What can stand behind a command, one after the other in any order. -/
inductive Item where
  | target (spelling : Spelling) (numeral : Numeral)
  | value (numeral : Numeral)
  | flag (switch : Switch)

namespace Item

/-- The item as written. -/
def words : Item → List (List Char)
  | .target spelling numeral => spelling.words numeral.text
  | .value numeral => [numeral.text]
  | .flag switch => [switch.word]

/-- The numeral of a target. -/
def target? : Item → Option Numeral
  | .target _ numeral => some numeral
  | _ => none

/-- The numeral of a value. -/
def value? : Item → Option Numeral
  | .value numeral => some numeral
  | _ => none

/-- The flag. -/
def flag? : Item → Option Switch
  | .flag switch => some switch
  | _ => none

/-- The number of the item, if it has one, is a value of 32 bits. -/
def InRange : Item → Prop
  | .target _ numeral | .value numeral => numeral.InRange
  | .flag _ => True

end Item

/-! ### The shapes of words -/

theorem isNumberTail_of_digits {digits : List Char} (h : ∀ c ∈ digits, c.isDigit) :
    isNumberTail false digits := by
  induction digits with
  | nil => rfl
  | cons c digits ih =>
    rw [List.forall_mem_cons] at h
    rw [isNumberTail, if_pos h.1]
    exact ih h.2

/-- A numeral is a value, also when it begins as an option does. -/
theorem shape_text (numeral : Numeral) : Shape.of true numeral.text = .word := by
  obtain ⟨c, digits, hc, hdigits, htext⟩ := numeral.exists_text_eq
  have hminus : c ≠ '-' := Text.ne_of_isDigit hc rfl
  have hnumber : looksLikeNumber (c :: digits) := by
    rw [looksLikeNumber, hc, isNumberTail_of_digits hdigits]
    rfl
  rcases htext with htext | htext
  · rw [htext, Shape.of, hnumber] <;> simp [hminus]
  · rw [htext, Shape.of] <;> simp [hminus]

/-- Nothing of a numeral is lost when it stands right behind a letter. -/
theorem behindLetter_text (numeral : Numeral) :
    Scope.behindLetter numeral.text = some numeral.text := by
  obtain ⟨c, digits, hc, -, htext⟩ := numeral.exists_text_eq
  have hequal : c ≠ '=' := Text.ne_of_isDigit hc rfl
  rcases htext with htext | htext
  · rw [htext, Scope.behindLetter] <;> simp
  · rw [htext, Scope.behindLetter] <;> simp [hequal]

/-! ### Reading late -/

namespace Given

/-- Takes a target and its value behind it, and looks at neither yet. -/
def defer (given : Given) (text : List Char) : Except Stop Given := do
  let given ← given.settle
  .ok { given with pending := .target (some text) }

/-- Takes the words of an item, as they are come across. -/
def giveItem (given : Given) : Item → Except Stop Given
  | .target spelling numeral =>
    if spelling.isApart then given.defer numeral.text else given.giveTarget (some numeral.text)
  | .value numeral => given.giveWord false numeral.text
  | .flag switch => given.giveFlag switch.argument

end Given

namespace Scope

variable {scope : Scope} {given : Given} {word : List Char} {rest : List (List Char)}

/-! One word that comes next, by its shape. -/

theorem giveAll_of_long {name : List Char} {value : Option (List Char)}
    (h : Shape.of scope.takesNumbers word = .long name value) :
    scope.giveAll false given (word :: rest) =
      scope.giveLong given name value >>= fun given => scope.giveAll false given rest := by
  rw [giveAll, h]
  rfl

theorem giveAll_of_short {letters : List Char}
    (h : Shape.of scope.takesNumbers word = .short letters) :
    scope.giveAll false given (word :: rest) =
      scope.giveShort given letters >>= fun given => scope.giveAll false given rest := by
  rw [giveAll, h]
  rfl

theorem giveAll_of_word (h : Shape.of scope.takesNumbers word = .word) :
    scope.giveAll false given (word :: rest) =
      given.giveWord false word >>= fun given => scope.giveAll false given rest := by
  rw [giveAll, h]
  rfl

/-- The item is known here. -/
def Knows (scope : Scope) : Item → Prop
  | .flag switch => switch.argument ∈ scope.options
  | _ => .target ∈ scope.options

theorem giveLong_target (h : .target ∈ scope.options) (value : Option (List Char)) :
    scope.giveLong given "target".toList value = given.giveTarget value := by
  have hlong : scope.long? "target".toList = some .target := by
    cases scope <;> first | rfl | simp [options] at h
  rw [giveLong, hlong]

theorem giveShort_target (h : .target ∈ scope.options) (letters : List Char) :
    scope.giveShort given ('t' :: letters) = given.giveTarget (behindLetter letters) := by
  have hshort : scope.short? 't' = some .target := by
    cases scope <;> first | rfl | simp [options] at h
  rw [giveShort, hshort]

/-- A flag is written as a name or as a letter, and where it is known either gives it. -/
theorem shape_word (takesNumbers : Bool) (switch : Switch) :
    (∃ name, Shape.of takesNumbers switch.word = .long name none ∧
      ∀ scope given, switch.argument ∈ options scope →
        scope.giveLong given name none = given.giveFlag switch.argument) ∨
    ∃ letters, Shape.of takesNumbers switch.word = .short letters ∧
      ∀ scope given, switch.argument ∈ options scope →
        scope.giveShort given letters = given.giveFlag switch.argument := by
  cases switch with
  | json =>
    refine .inl ⟨"json".toList, by cases takesNumbers <;> rfl, fun scope given _ => ?_⟩
    have hlong : scope.long? "json".toList = some .json := by cases scope <;> rfl
    rw [giveLong, hlong]
    rfl
  | verbose =>
    refine .inr ⟨['v'], by cases takesNumbers <;> rfl, fun scope given _ => ?_⟩
    have hshort : scope.short? 'v' = some .verbose := by cases scope <;> rfl
    rw [giveShort, hshort]
    exact bind_pure _
  | checkSorted =>
    refine .inl ⟨"check-sorted".toList, by cases takesNumbers <;> rfl, fun scope given hmem => ?_⟩
    have hlong : scope.long? "check-sorted".toList = some .checkSorted := by
      cases scope <;> first | rfl | simp [Switch.argument, options] at hmem
    rw [giveLong, hlong]
    rfl

/-- The word behind a target that stands by itself is its value. -/
theorem giveAll_apart (hnumbers : scope.takesNumbers) (numeral : Numeral) :
    (given.giveTarget none >>= fun given => scope.giveAll false given (numeral.text :: rest)) =
      given.defer numeral.text >>= fun given => scope.giveAll false given rest := by
  have hword : Shape.of scope.takesNumbers numeral.text = .word := hnumbers ▸ shape_text numeral
  rw [Given.giveTarget, Given.defer, bind_assoc, bind_assoc]
  refine bind_congr_of_ok fun settled _ => ?_
  change scope.giveAll false { settled with pending := .target none } _ = _
  rw [giveAll_of_word hword]
  rfl

/-- The words of an item are read as the item, and then what is behind them is read. -/
theorem giveAll_item {item : Item} (hnumbers : scope.takesNumbers) (hknows : scope.Knows item) :
    scope.giveAll false given (item.words ++ rest) =
      given.giveItem item >>= fun given => scope.giveAll false given rest := by
  cases item with
  | value numeral =>
    rw [Item.words, List.singleton_append, giveAll_of_word (hnumbers ▸ shape_text numeral)]
    rfl
  | flag switch =>
    rw [Item.words, List.singleton_append]
    obtain ⟨name, hshape, hgive⟩ | ⟨letters, hshape, hgive⟩ := shape_word scope.takesNumbers switch
    · rw [giveAll_of_long hshape, hgive scope given hknows]
      rfl
    · rw [giveAll_of_short hshape, hgive scope given hknows]
      rfl
  | target spelling numeral =>
    cases spelling with
    | short =>
      have hshape : Shape.of scope.takesNumbers "-t".toList = .short ['t'] := hnumbers ▸ rfl
      change scope.giveAll false given ("-t".toList :: numeral.text :: rest) = _
      rw [giveAll_of_short hshape, giveShort_target hknows]
      exact giveAll_apart hnumbers numeral
    | shortJoined =>
      have hshape : Shape.of scope.takesNumbers ("-t".toList ++ numeral.text) =
          .short ('t' :: numeral.text) := hnumbers ▸ rfl
      change scope.giveAll false given (("-t".toList ++ numeral.text) :: rest) = _
      rw [giveAll_of_short hshape, giveShort_target hknows, behindLetter_text]
      rfl
    | shortEqual =>
      have hshape : Shape.of scope.takesNumbers ("-t=".toList ++ numeral.text) =
          .short ('t' :: '=' :: numeral.text) := hnumbers ▸ rfl
      change scope.giveAll false given (("-t=".toList ++ numeral.text) :: rest) = _
      rw [giveAll_of_short hshape, giveShort_target hknows]
      rfl
    | long =>
      have hshape : Shape.of scope.takesNumbers "--target".toList = .long "target".toList none :=
        hnumbers ▸ rfl
      change scope.giveAll false given ("--target".toList :: numeral.text :: rest) = _
      rw [giveAll_of_long hshape, giveLong_target hknows]
      exact giveAll_apart hnumbers numeral
    | longEqual =>
      have hshape : Shape.of scope.takesNumbers ("--target=".toList ++ numeral.text) =
          .long "target".toList (some numeral.text) := hnumbers ▸ rfl
      change scope.giveAll false given (("--target=".toList ++ numeral.text) :: rest) = _
      rw [giveAll_of_long hshape, giveLong_target hknows]
      rfl

end Scope

end Seek.Command
