import Seek.Proofs.Drift.Comment
import Mathlib

/-!
Layout. What decides whether the end of a text belongs to a comment is its last line alone
(`endsInComment_iff`). The normal form of a text put together of two is put together of theirs, if
no two slashes meet at the seam; the second part starts in a comment where the first one ends in one
(`normalFrom_append`). Main statement: blanks and line comments can be put anywhere behind code and
taken away there, and the normal form loses nothing else (`normalForm_layout`).
-/

namespace Seek.Drift

variable {b : Bool} {text line front rest : List Char}

/-! ### The end of a text -/

/-- What stands behind the last end of a line. -/
def lastLine (text : List Char) : List Char := text.rtakeWhile (· ≠ '\n')

/-- A text without ends of lines is its last line; of any other, the last one stands in front of
it. -/
theorem eq_lastLine_or (text : List Char) :
    '\n' ∉ text ∧ lastLine text = text ∨
      '\n' ∉ lastLine text ∧ ∃ front, front ++ '\n' :: lastLine text = text := by
  induction text using List.reverseRecOn with
  | nil => exact .inl ⟨by simp, rfl⟩
  | append_singleton text c ih =>
    by_cases hline : c = '\n'
    · subst hline
      have hnil : lastLine (text ++ ['\n']) = [] := List.rtakeWhile_concat_neg _ _ _ (by simp)
      exact .inr ⟨by simp [hnil], text, by rw [hnil]⟩
    · have hlast : lastLine (text ++ [c]) = lastLine text ++ [c] :=
        List.rtakeWhile_concat_pos _ _ _ (by simpa using hline)
      rw [hlast]
      rcases ih with ⟨hnone, hsame⟩ | ⟨hnone, front, hfront⟩
      · exact .inl ⟨by simp [hnone, Ne.symm hline], by rw [hsame]⟩
      · refine .inr ⟨by simp [hnone, Ne.symm hline], front, ?_⟩
        rw [← List.cons_append, ← List.append_assoc, hfront]

theorem slashes_prefix_iff {c : Char} {cs : List Char} :
    ['/', '/'] <+: c :: cs ↔ c = '/' ∧ cs.head? = some '/' := by
  rw [List.cons_prefix_cons, eq_comm]
  cases cs with
  | nil => simp
  | cons d cs => simp [eq_comm]

theorem endsInComment_line_iff (h : '\n' ∉ line) :
    endsInComment b line = true ↔ b = true ∨ ['/', '/'] <:+: line := by
  induction line generalizing b with
  | nil => simp [endsInComment]
  | cons c cs ih =>
    rw [List.mem_cons, not_or] at h
    rw [endsInComment, ih h.2, List.infix_cons_iff, slashes_prefix_iff, ← or_assoc]
    simp [isCommented, Ne.symm h.1]

theorem endsInComment_append_line (front line : List Char) :
    endsInComment b (front ++ '\n' :: line) = endsInComment false line := by
  induction front generalizing b with
  | nil => simp [endsInComment, isCommented]
  | cons c front ih => exact ih

/-- The end of a text belongs to a comment exactly if its last line has two slashes. -/
theorem endsInComment_iff : endsInComment false text = true ↔ ['/', '/'] <:+: lastLine text := by
  rcases eq_lastLine_or text with ⟨hnone, hsame⟩ | ⟨hnone, front, hfront⟩
  · rw [hsame, endsInComment_line_iff hnone]
    simp
  · rw [← hfront, endsInComment_append_line, hfront, endsInComment_line_iff hnone]
    simp

theorem endsInComment_eq_false (h : ¬ ['/', '/'] <:+: lastLine text) :
    endsInComment false text = false := by
  rwa [← endsInComment_iff, Bool.not_eq_true] at h

/-! ### Texts put together -/

/-- The second part of a text goes on where the first one ends, in a comment or not. -/
theorem withoutComments_append (h : ¬ (front.getLast? = some '/' ∧ rest.head? = some '/')) :
    withoutComments b (front ++ rest) =
      withoutComments b front ++ withoutComments (endsInComment b front) rest := by
  induction front generalizing b with
  | nil => rfl
  | cons c cs ih =>
    have hnext : isCommented b c (cs ++ rest).head? = isCommented b c cs.head? := by
      cases cs with
      | nil =>
        by_cases hslash : c = '/'
        · have hhead : rest.head? ≠ some '/' := fun hhead => h ⟨by simp [hslash], hhead⟩
          simp [isCommented, hhead]
        · simp [isCommented, hslash]
      | cons => rfl
    have hrest : ¬ (cs.getLast? = some '/' ∧ rest.head? = some '/') := by
      rintro ⟨hlast, hhead⟩
      exact h ⟨by rw [List.getLast?_cons, hlast]; rfl, hhead⟩
    rw [List.cons_append, withoutComments_cons, withoutComments_cons, hnext, endsInComment,
      ih hrest, ih hrest]
    cases isCommented b c cs.head? with
    | false => rfl
    | true => rfl

/-- The text without its blanks. -/
def withoutBlanks (text : List Char) : List Char := text.filter fun c => !Text.isBlank c

/-- The normal form of code that begins in a comment, or does not. -/
def normalFrom (isInComment : Bool) (code : List Char) : List Char :=
  withoutBlanks (withoutComments isInComment code)

theorem normalForm_eq (code : List Char) : normalForm code = normalFrom false code := rfl

theorem normalFrom_append (h : ¬ (front.getLast? = some '/' ∧ rest.head? = some '/')) :
    normalFrom b (front ++ rest) =
      normalFrom b front ++ normalFrom (endsInComment b front) rest := by
  rw [normalFrom, withoutComments_append h, withoutBlanks, List.filter_append]
  rfl

/-- The normal form is put together as the text is, where code follows and no slashes meet. -/
theorem normalForm_append (hline : ¬ ['/', '/'] <:+: lastLine front)
    (h : ¬ (front.getLast? = some '/' ∧ rest.head? = some '/')) :
    normalForm (front ++ rest) = normalForm front ++ normalForm rest := by
  simp only [normalForm_eq, normalFrom_append h, endsInComment_eq_false hline]

/-! ### Blanks and comments -/

theorem withoutComments_of_no_slashes (h : ¬ ['/', '/'] <:+: text) :
    withoutComments false text = text := by
  induction text with
  | nil => rfl
  | cons c cs ih =>
    rw [List.infix_cons_iff, not_or, slashes_prefix_iff] at h
    have hcode : isCommented false c cs.head? = false := by
      simpa [isCommented] using fun _ => h.1
    rw [withoutComments_cons, hcode, ih h.2]
    rfl

/-- Code without two slashes in a row loses its blanks only. -/
theorem normalForm_of_no_slashes (h : ¬ ['/', '/'] <:+: text) :
    normalForm text = withoutBlanks text := by
  rw [normalForm_eq, normalFrom, withoutComments_of_no_slashes h]

theorem slash_notMem_of_blank {blanks : List Char} (h : ∀ c ∈ blanks, Text.isBlank c = true) :
    '/' ∉ blanks := by
  intro hslash
  have hblank := h '/' hslash
  revert hblank
  decide

theorem normalForm_blanks_append {blanks : List Char}
    (h : ∀ c ∈ blanks, Text.isBlank c = true) (rest : List Char) :
    normalForm (blanks ++ rest) = normalForm rest := by
  have hslash := slash_notMem_of_blank h
  have hline : ¬ ['/', '/'] <:+: lastLine blanks := by
    intro hslashes
    exact hslash ((List.rtakeWhile_suffix _ _).subset (hslashes.subset (by simp)))
  have hnone : ¬ ['/', '/'] <:+: blanks := fun hslashes => hslash (hslashes.subset (by simp))
  have hblank : normalForm blanks = [] := by
    rw [normalForm_of_no_slashes hnone, withoutBlanks, List.filter_eq_nil_iff]
    intro c hc
    simp [h c hc]
  rw [normalForm_append hline fun hseam => hslash (List.mem_of_getLast? hseam.1), hblank]
  rfl

/-- Of the rest of a line that begins in a comment nothing is left. -/
theorem withoutComments_line (h : '\n' ∉ line) : withoutComments true line = [] := by
  induction line with
  | nil => rfl
  | cons c cs ih =>
    rw [List.mem_cons, not_or] at h
    have hin : isCommented true c cs.head? = true := by simp [isCommented, Ne.symm h.1]
    rw [withoutComments_cons, hin, if_pos rfl, ih h.2]

/-- A comment ends with its line. -/
theorem withoutComments_true_of_line (h : rest = [] ∨ rest.head? = some '\n') :
    withoutComments true rest = withoutComments false rest := by
  rcases h with rfl | hhead
  · rfl
  · obtain ⟨cs, rfl⟩ := List.head?_eq_some_iff.1 hhead
    rfl

theorem normalForm_comment {comment : List Char} (hcomment : '\n' ∉ comment)
    (hrest : rest = [] ∨ rest.head? = some '\n') :
    normalForm ('/' :: '/' :: comment ++ rest) = normalForm rest := by
  have hseam : ¬ (comment.getLast? = some '/' ∧ rest.head? = some '/') := by
    rintro ⟨-, hslash⟩
    rcases hrest with rfl | hhead
    · cases hslash
    · rw [hhead] at hslash
      exact absurd hslash (by decide)
  have hends : endsInComment true comment = true := (endsInComment_line_iff hcomment).2 (.inl rfl)
  calc normalForm ('/' :: '/' :: comment ++ rest)
      = normalFrom true (comment ++ rest) := by simp [normalForm_eq, normalFrom, withoutComments]
    _ = normalFrom true comment ++ normalFrom true rest := by rw [normalFrom_append hseam, hends]
    _ = normalForm rest := by
      rw [normalFrom, withoutComments_line hcomment, normalFrom, withoutComments_true_of_line hrest]
      rfl

/-- Behind code, blanks can be put in anywhere, ends of lines too, unless they part two slashes, and
a comment at the end of every line, unless it follows a slash: the normal form is the same. Of code
without comments nothing but blanks is lost. -/
theorem normalForm_layout (front rest : List Char) (hline : ¬ ['/', '/'] <:+: lastLine front) :
    (∀ blanks, (∀ c ∈ blanks, Text.isBlank c = true) →
      ¬ (front.getLast? = some '/' ∧ rest.head? = some '/') →
      normalForm (front ++ blanks ++ rest) = normalForm (front ++ rest)) ∧
    (∀ comment, '\n' ∉ comment → front.getLast? ≠ some '/' →
      (rest = [] ∨ rest.head? = some '\n') →
      normalForm (front ++ '/' :: '/' :: comment ++ rest) = normalForm (front ++ rest)) ∧
    (¬ ['/', '/'] <:+: front → normalForm front = withoutBlanks front) := by
  refine ⟨fun blanks hblanks hseam => ?_, fun comment hcomment hlast hrest => ?_,
    normalForm_of_no_slashes⟩
  · have hbefore : ¬ (front.getLast? = some '/' ∧ (blanks ++ rest).head? = some '/') := by
      rintro ⟨hlast, hhead⟩
      cases blanks with
      | nil => exact hseam ⟨hlast, hhead⟩
      | cons c blanks =>
        obtain rfl : c = '/' := Option.some.inj hhead
        exact slash_notMem_of_blank hblanks List.mem_cons_self
    calc normalForm (front ++ blanks ++ rest)
        = normalForm front ++ normalForm (blanks ++ rest) := by
          rw [List.append_assoc, normalForm_append hline hbefore]
      _ = normalForm front ++ normalForm rest := by rw [normalForm_blanks_append hblanks]
      _ = normalForm (front ++ rest) := (normalForm_append hline hseam).symm
  · calc normalForm (front ++ '/' :: '/' :: comment ++ rest)
        = normalForm front ++ normalForm ('/' :: '/' :: comment ++ rest) := by
          rw [List.append_assoc, normalForm_append hline fun hseam => hlast hseam.1]
      _ = normalForm front ++ normalForm rest := by rw [normalForm_comment hcomment hrest]
      _ = normalForm (front ++ rest) := (normalForm_append hline fun hseam => hlast hseam.1).symm

/-- The code stands behind a comment. The blanks end a line, and the comment that is put in holds
another one. -/
theorem normalForm_layout_lines :
    (¬ ['/', '/'] <:+: lastLine "a // b\nc = d".toList ∧
      (∀ c ∈ "\t\u2028\r\n".toList, Text.isBlank c = true) ∧ '\n' ∉ " e // \r".toList) ∧
    normalForm ("a // b\nc = d".toList ++ "\t\u2028\r\n".toList ++ "\n/ f".toList) =
      normalForm ("a // b\nc = d".toList ++ "\n/ f".toList) ∧
    normalForm ("a // b\nc = d".toList ++ '/' :: '/' :: " e // \r".toList ++ "\n/ f".toList) =
      normalForm ("a // b\nc = d".toList ++ "\n/ f".toList) := by
  have hline : ¬ ['/', '/'] <:+: lastLine "a // b\nc = d".toList := by decide
  have hblanks : ∀ c ∈ "\t\u2028\r\n".toList, Text.isBlank c = true := by
    simp [Text.isBlank, Text.blankRanges]
  have hcomment : '\n' ∉ " e // \r".toList := by decide
  obtain ⟨hlayout, hcomments, -⟩ := normalForm_layout "a // b\nc = d".toList "\n/ f".toList hline
  exact ⟨⟨hline, hblanks, hcomment⟩, hlayout _ hblanks (by decide),
    hcomments _ hcomment (by decide) (.inr rfl)⟩

/-- A blank that parts two slashes makes code of a comment. -/
example : normalForm "a / / b".toList = "a//b".toList ∧
    normalForm "a // b".toList = "a".toList := by
  decide

end Seek.Drift
