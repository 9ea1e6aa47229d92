/-!
Texts cut at a separator, or at a number of bytes of their UTF-8 form. There is always one part more
than there are separators.
-/

namespace Seek.Text

/-! ### Separators -/

/-- The parts between the separators. -/
def parts (separator : Char) : List Char → List (List Char)
  | [] => [[]]
  | c :: cs =>
    if c = separator then [] :: parts separator cs
    else
      match parts separator cs with
      | [] => [[c]]
      | part :: others => (c :: part) :: others

/-- The parts of a text are made of its characters. -/
theorem mem_of_mem_parts {separator c : Char} {text part : List Char}
    (hpart : part ∈ parts separator text) (hc : c ∈ part) : c ∈ text := by
  induction text generalizing part with
  | nil =>
    rw [parts, List.mem_singleton] at hpart
    rwa [hpart] at hc
  | cons d text ih =>
    rw [parts] at hpart
    split at hpart
    · rcases List.mem_cons.1 hpart with rfl | hpart
      · cases hc
      · exact List.mem_cons_of_mem d (ih hpart hc)
    · split at hpart
      · rw [List.mem_singleton.1 hpart, List.mem_singleton] at hc
        rw [hc]
        exact List.mem_cons_self
      · rename_i first others hparts
        rcases List.mem_cons.1 hpart with rfl | hpart
        · rcases List.mem_cons.1 hc with rfl | hc
          · exact List.mem_cons_self
          · exact List.mem_cons_of_mem d (ih (hparts ▸ List.mem_cons_self) hc)
        · exact List.mem_cons_of_mem d (ih (hparts ▸ List.mem_cons_of_mem first hpart) hc)

/-! ### Bytes -/

/-- The number of bytes of a text. -/
def byteCount : List Char → Nat
  | [] => 0
  | c :: text => c.utf8Size + byteCount text

/-- The text behind its first bytes. A character that is cut goes with them. -/
def dropBytes : Nat → List Char → List Char
  | 0, text => text
  | _ + 1, [] => []
  | count + 1, c :: text => dropBytes (count + 1 - c.utf8Size) text

/-- The first bytes of a text, as far as they are whole characters. -/
def takeBytes : Nat → List Char → List Char
  | _, [] => []
  | count, c :: text =>
    if c.utf8Size ≤ count then c :: takeBytes (count - c.utf8Size) text else []

end Seek.Text
