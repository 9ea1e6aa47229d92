import Seek.Text.Styled

/-!
Styles taken off a text again. A style is written as an escape character, a bracket, and all up to
the next `m`, and whoever takes these off knows nothing of the pieces that the text was made of.
Main statement: where no piece has an escape character of its own, the text with styles is turned
into the text without them (`unstyled_render`), which has no escape character at all
(`unescaped_render`).
-/

namespace Seek.Text

/-! ### Texts without escape characters -/

/-- There is no escape character in the text. -/
def Unescaped (text : String) : Prop := '\x1b' ∉ text.toList

instance (text : String) : Decidable (Unescaped text) := inferInstanceAs (Decidable (¬ _))

theorem unescaped_append_iff {front behind : String} :
    Unescaped (front ++ behind) ↔ Unescaped front ∧ Unescaped behind := by
  simp [Unescaped]

theorem unescaped_toString_nat (n : Nat) : Unescaped (toString n) := by
  intro hmem
  rw [Nat.toString_eq_repr, Nat.toList_repr] at hmem
  have hdigit := Nat.isDigit_of_mem_toDigits (by decide) (by decide) hmem
  cases hdigit

theorem unescaped_toString_int (n : Int) : Unescaped (toString n) := by
  rw [Int.toString_eq_repr, Int.repr_eq_if]
  split
  · exact unescaped_toString_nat n.toNat
  · exact unescaped_append_iff.2 ⟨by decide, unescaped_toString_nat (-n).toNat⟩

/-! ### Taking styles off -/

/-- What is behind a style, from behind its escape character. -/
def behindStyle? : List Char → Option (List Char)
  | '[' :: cs =>
    match cs.dropWhile (· != 'm') with
    | [] => none
    | _ :: rest => some rest
  | _ => none

theorem length_of_behindStyle? {cs rest : List Char} (h : behindStyle? cs = some rest) :
    rest.length < cs.length := by
  unfold behindStyle? at h
  split at h
  · rename_i cs
    split at h
    · cases h
    · rename_i hdrop
      cases h
      have hle := (List.dropWhile_suffix (· != 'm') (l := cs)).length_le
      rw [hdrop, List.length_cons] at hle
      rw [List.length_cons]
      omega
  · cases h

/-- The text without its styles. -/
def unstyled : List Char → List Char
  | [] => []
  | c :: cs =>
    if c = '\x1b' then
      match h : behindStyle? cs with
      | some rest =>
        have := length_of_behindStyle? h
        unstyled rest
      | none => c :: unstyled cs
    else c :: unstyled cs
termination_by cs => cs.length

theorem unstyled_append {front : List Char} (h : '\x1b' ∉ front) (rest : List Char) :
    unstyled (front ++ rest) = front ++ unstyled rest := by
  induction front with
  | nil => rfl
  | cons c front ih =>
    obtain ⟨hne, hnot⟩ := List.ne_and_not_mem_of_not_mem_cons h
    rw [List.cons_append, unstyled, if_neg hne.symm, ih hnot, List.cons_append]

theorem behindStyle?_append {code : List Char} (h : 'm' ∉ code) (rest : List Char) :
    behindStyle? ('[' :: (code ++ 'm' :: rest)) = some rest := by
  have hcode : ∀ c ∈ code, (c != 'm') = true := fun c hmem => by
    rw [bne_iff_ne]
    rintro rfl
    exact h hmem
  have hdrop : (code ++ 'm' :: rest).dropWhile (· != 'm') = 'm' :: rest := by
    rw [List.dropWhile_append_of_pos hcode]
    rfl
  rw [behindStyle?, hdrop]

theorem unstyled_sequence {code : String} (h : 'm' ∉ code.toList) (rest : List Char) :
    unstyled ((Piece.sequence code).toList ++ rest) = unstyled rest := by
  have htext : (Piece.sequence code).toList ++ rest =
      '\x1b' :: '[' :: (code.toList ++ 'm' :: rest) := by
    simp [Piece.sequence]
  rw [htext, unstyled, if_pos rfl]
  split
  · rename_i hbehind
    rw [behindStyle?_append h] at hbehind
    cases hbehind
    rfl
  · rename_i hbehind
    rw [behindStyle?_append h] at hbehind
    cases hbehind

theorem unstyled_piece {piece : Piece} (h : Unescaped piece.text) (rest : List Char) :
    unstyled ((piece.render true).toList ++ rest) =
      (piece.render false).toList ++ unstyled rest := by
  obtain ⟨style | style, text⟩ := piece
  · exact unstyled_append h rest
  · have hcode : 'm' ∉ style.code.toList := by cases style <;> decide
    calc unstyled ((Piece.render true ⟨some style, text⟩).toList ++ rest)
      _ = unstyled ((Piece.sequence style.code).toList ++
            (text.toList ++ ((Piece.sequence "0").toList ++ rest))) := by
        simp [Piece.render]
      _ = text.toList ++ unstyled rest := by
        rw [unstyled_sequence hcode, unstyled_append h, unstyled_sequence (by decide)]

/-- Pieces without escape characters lose their styles and nothing else. -/
theorem unstyled_render {pieces : List Piece} (h : ∀ piece ∈ pieces, Unescaped piece.text) :
    unstyled (render true pieces).toList = (render false pieces).toList := by
  induction pieces with
  | nil => simp [render, unstyled]
  | cons piece pieces ih =>
    rw [List.forall_mem_cons] at h
    simp only [render, List.map_cons, String.join_cons, String.toList_append] at ih ⊢
    rw [unstyled_piece h.1, ih h.2]

theorem unescaped_render {pieces : List Piece} (h : ∀ piece ∈ pieces, Unescaped piece.text) :
    Unescaped (render false pieces) := by
  induction pieces with
  | nil => decide
  | cons piece pieces ih =>
    rw [List.forall_mem_cons] at h
    have hpiece : Unescaped (piece.render false) := by
      obtain ⟨style | style, text⟩ := piece <;> exact h.1
    rw [render, List.map_cons, String.join_cons]
    exact unescaped_append_iff.2 ⟨hpiece, ih h.2⟩

end Seek.Text
