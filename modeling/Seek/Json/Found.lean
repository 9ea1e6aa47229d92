import Seek.Json.Number
import Seek.Json.Text
import Seek.Text.Quoted

/-!
What stands at the front of a JSON text, as far as a reader needs to look to know of what kind it
is: all of a value without parts, but only the bracket of a list or an object.
-/

namespace Seek.Json

/-- What stands at the front of a text. -/
inductive Found where
  | null
  | truth (value : Bool)
  | number (value : Number)
  | text (value : List Char)
  | list
  | object
  deriving Repr

namespace Found

/-- What stands at the front, and what follows it. -/
def read : List Char → Option (Found × List Char)
  | '[' :: rest => some (.list, rest)
  | '{' :: rest => some (.object, rest)
  | '"' :: rest => (Text.read rest).map fun found => (.text found.1, found.2)
  | 'n' :: 'u' :: 'l' :: 'l' :: rest => some (.null, rest)
  | 't' :: 'r' :: 'u' :: 'e' :: rest => some (.truth true, rest)
  | 'f' :: 'a' :: 'l' :: 's' :: 'e' :: rest => some (.truth false, rest)
  | cs => do
    let (numeral, rest) ← Numeral.read cs
    let number ← numeral.value
    some (.number number, rest)

/-- What was found, in words. -/
def describe : Found → String
  | .null => "null"
  | .truth value => s!"boolean \x60{value}\x60"
  | .number value => value.describe
  | .text value => "string " ++ Text.Quoted.quote (.ofList value)
  | .list => "sequence"
  | .object => "map"

theorem length_of_read {cs rest : List Char} {found : Found} (h : read cs = some (found, rest)) :
    rest.length < cs.length := by
  unfold read at h
  split at h
  · cases h; simp
  · cases h; simp
  · obtain ⟨⟨text, rest'⟩, hread, heq⟩ := Option.map_eq_some_iff.1 h
    cases heq
    have := Json.Text.length_of_read hread
    simp only [List.length_cons]
    omega
  · cases h; simp only [List.length_cons]; omega
  · cases h; simp only [List.length_cons]; omega
  · cases h; simp only [List.length_cons]; omega
  · simp only [bind, Option.bind_eq_some_iff, Option.some.injEq, Prod.mk.injEq] at h
    obtain ⟨⟨numeral, rest'⟩, hread, number, -, -, rfl⟩ := h
    exact Numeral.length_of_read hread

end Found

end Seek.Json
