import Seek.Json.Skip
import Mathlib.Data.List.DropRight

/-!
The grammar of JSON, as relations between texts and what they write. It says which texts are
numerals, quoted texts, lists and objects, and nothing of how they are read. A quoted text may hold
any escapes and be well formed (`Inside`); it spells characters where its escapes do (`Spells`), so
the two halves of a character beyond the first plane have to stand together only there. Main
definition: `Written`, by one rule for each form a value can have.
-/

namespace Seek.Json

/-- Nothing but space. -/
def Blank (cs : List Char) : Prop := ∀ c ∈ cs, isSpace c

theorem blank_nil : Blank [] := fun _ h => by cases h

theorem Blank.append {front behind : List Char} (hfront : Blank front) (hbehind : Blank behind) :
    Blank (front ++ behind) := List.forall_mem_append.2 ⟨hfront, hbehind⟩

theorem exists_of_skipSpace (cs : List Char) : ∃ gap, Blank gap ∧ cs = gap ++ skipSpace cs :=
  ⟨cs.takeWhile isSpace, fun _ => List.mem_takeWhile_imp, List.takeWhile_append_dropWhile.symm⟩

theorem skipSpace_append {gap : List Char} (h : Blank gap) (cs : List Char) :
    skipSpace (gap ++ cs) = skipSpace cs := List.dropWhile_append_of_pos h

theorem skipSpace_cons {c : Char} (h : isSpace c = false) (cs : List Char) :
    skipSpace (c :: cs) = c :: cs := List.dropWhile_cons_of_neg (by simp [h])

/-- Space is passed over up to the next token. -/
theorem skipSpace_gap {gap : List Char} (hgap : Blank gap) {c : Char} (h : isSpace c = false)
    (cs : List Char) : skipSpace (gap ++ c :: cs) = c :: cs := by
  rw [skipSpace_append hgap, skipSpace_cons h]

theorem skipSpace_skipSpace (cs : List Char) : skipSpace (skipSpace cs) = skipSpace cs :=
  List.dropWhile_idempotent isSpace cs

theorem isEmpty_skipSpace_iff {cs : List Char} : (skipSpace cs).isEmpty ↔ Blank cs := by
  rw [List.isEmpty_iff]
  exact List.dropWhile_eq_nil_iff

/-! ### Numerals -/

/-- Decimal digits, at least one. -/
def Digits (cs : List Char) : Prop := cs ≠ [] ∧ ∀ c ∈ cs, c.isDigit

/-- A whole number without sign: digits with a zero at the front only if it stands alone. -/
def Whole (cs : List Char) : Prop := Digits cs ∧ (cs.head? = some '0' → cs = ['0'])

/-- A whole number without sign, and its value. -/
def Natural (cs : List Char) (n : Nat) : Prop := Whole cs ∧ Nat.ofDigitChars 10 cs 0 = n

namespace Numeral

/-- The sign of a numeral. -/
inductive Minus : Bool → List Char → Prop
  | none : Minus false []
  | minus : Minus true ['-']

/-- The sign of an exponent, which may be written either way. -/
inductive Sign : Bool → List Char → Prop
  | plus : Sign false ['+']
  | minus {isNegative : Bool} {cs : List Char} : Minus isNegative cs → Sign isNegative cs

/-- The fraction of a numeral, if it has one. -/
inductive Fraction : Option (List Char) → List Char → Prop
  | none : Fraction none []
  | some {digits : List Char} : Digits digits → Fraction (some digits) ('.' :: digits)

/-- The exponent of a numeral, if it has one. -/
inductive Power : Option Exponent → List Char → Prop
  | none : Power none []
  | some {mark : Char} {sign : List Char} {exponent : Exponent} : mark = 'e' ∨ mark = 'E' →
    Sign exponent.isNegative sign → Digits exponent.digits →
    Power (some exponent) (mark :: (sign ++ exponent.digits))

/-- The text writes the numeral. -/
inductive Written : Numeral → List Char → Prop
  | mk {numeral : Numeral} {minus fraction power : List Char} : Minus numeral.isNegative minus →
    Whole numeral.whole → Fraction numeral.fraction fraction → Power numeral.exponent power →
    Written numeral (minus ++ (numeral.whole ++ (fraction ++ power)))

end Numeral

/-! ### Quoted texts -/

namespace Text

/-- Four hexadecimal digits, and the number they write. -/
inductive Hex : List Char → Nat → Prop
  | mk {a b c d : Char} {i j k l : Nat} : hexDigit a = some i → hexDigit b = some j →
    hexDigit c = some k → hexDigit d = some l → Hex [a, b, c, d] (((i * 16 + j) * 16 + k) * 16 + l)

/-- What may follow a backslash. -/
inductive Escape : List Char → Prop
  | letter {c d : Char} : ofLetter c = some d → Escape [c]
  | number {digits : List Char} {n : Nat} : Hex digits n → Escape ('u' :: digits)

/-- What may follow a backslash, and the character it names. -/
inductive Names : List Char → Char → Prop
  | letter {c d : Char} : ofLetter c = some d → Names [c] d
  | number {digits : List Char} {c : Char} : Hex digits c.toNat → Names ('u' :: digits) c
  /-- A character beyond the first plane, in two halves. -/
  | halves {digits digits' : List Char} {leading trailing : Nat} {c : Char} :
    Hex digits leading → isLeading leading → Hex digits' trailing → isTrailing trailing →
    c.toNat = 0x10000 + (leading - 0xd800) * 0x400 + (trailing - 0xdc00) →
    Names ('u' :: (digits ++ '\\' :: 'u' :: digits')) c

/-- The character stands for itself. -/
structure Plain (c : Char) : Prop where
  ne_mark : c ≠ '"'
  ne_backslash : c ≠ '\\'
  not_control : isControl c = false

/-- What may stand between the marks of a quoted text. -/
inductive Inside : List Char → Prop
  | nil : Inside []
  | plain {c : Char} {cs : List Char} : Plain c → Inside cs → Inside (c :: cs)
  | escape {escape cs : List Char} : Escape escape → Inside cs → Inside ('\\' :: (escape ++ cs))

/-- What stands between the marks of a quoted text, and the characters it stands for. -/
inductive Spells : List Char → List Char → Prop
  | nil : Spells [] []
  | plain {c : Char} {cs text : List Char} : Plain c → Spells cs text →
    Spells (c :: cs) (c :: text)
  | escape {escape cs text : List Char} {c : Char} : Names escape c → Spells cs text →
    Spells ('\\' :: (escape ++ cs)) (c :: text)

end Text

/-! ### Values -/

/-- The key of a member as it stands between its marks, and its value as it is written. -/
structure Member where
  key : List Char
  value : List Char
  deriving DecidableEq, Repr

/-- A key and its colon, with space around the key. -/
inductive Label : List Char → List Char → Prop
  | mk {front key behind : List Char} : Blank front → Text.Inside key → Blank behind →
    Label key (front ++ '"' :: (key ++ '"' :: (behind ++ [':'])))

/-- What a piece of JSON can be. -/
inductive Phrase where
  | value
  /-- The value with space around it. -/
  | spaced (value : List Char)
  /-- The values with commas between them, at least one. -/
  | items (items : List (List Char))
  /-- The members with commas between them, at least one. -/
  | members (members : List Member)

/-- The text is such a piece of JSON. -/
inductive Written : Phrase → List Char → Prop
  | null : Written .value ['n', 'u', 'l', 'l']
  | yes : Written .value ['t', 'r', 'u', 'e']
  | no : Written .value ['f', 'a', 'l', 's', 'e']
  | numeral {numeral : Numeral} {cs : List Char} : numeral.Written cs → Written .value cs
  | text {cs : List Char} : Text.Inside cs → Written .value ('"' :: (cs ++ ['"']))
  | emptyList {gap : List Char} : Blank gap → Written .value ('[' :: (gap ++ [']']))
  | list {items : List (List Char)} {cs : List Char} : Written (.items items) cs →
    Written .value ('[' :: (cs ++ [']']))
  | emptyObject {gap : List Char} : Blank gap → Written .value ('{' :: (gap ++ ['}']))
  | object {members : List Member} {cs : List Char} : Written (.members members) cs →
    Written .value ('{' :: (cs ++ ['}']))
  | spaced {front value behind : List Char} : Blank front → Written .value value → Blank behind →
    Written (.spaced value) (front ++ (value ++ behind))
  | lastItem {value cs : List Char} : Written (.spaced value) cs → Written (.items [value]) cs
  | item {value cs rest : List Char} {items : List (List Char)} : Written (.spaced value) cs →
    Written (.items items) rest → Written (.items (value :: items)) (cs ++ ',' :: rest)
  | lastMember {member : Member} {label cs : List Char} : Label member.key label →
    Written (.spaced member.value) cs → Written (.members [member]) (label ++ cs)
  | member {member : Member} {label cs rest : List Char} {members : List Member} :
    Label member.key label → Written (.spaced member.value) cs → Written (.members members) rest →
    Written (.members (member :: members)) (label ++ (cs ++ ',' :: rest))

/-- Space in front of a key belongs to it. -/
theorem label_append {key gap label : List Char} (hgap : Blank gap) (h : Label key label) :
    Label key (gap ++ label) := by
  obtain ⟨hfront, hkey, hbehind⟩ := h
  rw [← List.append_assoc]
  exact .mk (hgap.append hfront) hkey hbehind

/-- Space in front of members belongs to the first of them. -/
theorem members_append {gap cs : List Char} {members : List Member} (hgap : Blank gap)
    (h : Written (.members members) cs) : Written (.members members) (gap ++ cs) := by
  cases h with
  | lastMember hlabel hspaced =>
    rw [← List.append_assoc]
    exact .lastMember (label_append hgap hlabel) hspaced
  | member hlabel hspaced hmembers =>
    rw [← List.append_assoc]
    exact .member (label_append hgap hlabel) hspaced hmembers

/-- What a key and its colon are made of, in front of any text. -/
theorem Label.exists_append {key label : List Char} (h : Label key label) :
    ∃ front behind, Blank front ∧ Blank behind ∧ Text.Inside key ∧ ∀ rest,
      label ++ rest = front ++ '"' :: (key ++ '"' :: (behind ++ ':' :: rest)) := by
  obtain ⟨hfront, hkey, hbehind⟩ := h
  exact ⟨_, _, hfront, hbehind, hkey, by simp⟩

/-! ### Members by their keys -/

/-- No member has the key. -/
def Absent (key : List Char) (members : List Member) : Prop :=
  ∀ member ∈ members, ¬Text.Spells member.key key

/-- One member has the key, and its value is the natural number. -/
def Once (key : List Char) (n : Nat) (members : List Member) : Prop :=
  ∃ front member behind, members = front ++ member :: behind ∧ Text.Spells member.key key ∧
    Natural member.value n ∧ Absent key (front ++ behind)

theorem absent_nil (key : List Char) : Absent key [] := fun _ h => by cases h

theorem absent_cons_iff {key : List Char} {member : Member} {members : List Member} :
    Absent key (member :: members) ↔ ¬Text.Spells member.key key ∧ Absent key members :=
  List.forall_mem_cons

theorem not_once_nil (key : List Char) (n : Nat) : ¬Once key n [] := by
  rintro ⟨front, member, behind, heq, -⟩
  simp at heq

theorem once_cons_iff {key : List Char} {n : Nat} {member : Member} {members : List Member} :
    Once key n (member :: members) ↔
      Text.Spells member.key key ∧ Natural member.value n ∧ Absent key members ∨
      ¬Text.Spells member.key key ∧ Once key n members := by
  constructor
  · rintro ⟨front, found, behind, heq, hkey, hvalue, habsent⟩
    cases front with
    | nil =>
      cases heq
      exact .inl ⟨hkey, hvalue, habsent⟩
    | cons first front =>
      cases heq
      obtain ⟨hfirst, habsent⟩ := absent_cons_iff.1 habsent
      exact .inr ⟨hfirst, front, found, behind, rfl, hkey, hvalue, habsent⟩
  · rintro (⟨hkey, hvalue, habsent⟩ | ⟨hother, front, found, behind, rfl, hkey, hvalue, habsent⟩)
    · exact ⟨[], member, members, rfl, hkey, hvalue, habsent⟩
    · exact ⟨member :: front, found, behind, rfl, hkey, hvalue,
        absent_cons_iff.2 ⟨hother, habsent⟩⟩

end Seek.Json
