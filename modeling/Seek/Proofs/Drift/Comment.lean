import Seek.Drift

/-!
Line comments. Whether a character belongs to a comment is decided from what stands before it and
the one character behind it (`isCommented`). Cutting comments keeps the lines of a text, so a word
that fits into a line stands where it stood (`prefix_cutLines_iff`). Main statement: the normal form
does not see whether comments were cut before it was taken (`normalForm_cutLines`).
-/

namespace Seek.Drift

/-! ### Comments -/

/-- The character belongs to a comment: the one before it does and it does not end the line, or it
is a slash with another one behind it. -/
def isCommented (isInComment : Bool) (c : Char) (next : Option Char) : Bool :=
  c ≠ '\n' ∧ (isInComment ∨ c = '/' ∧ next = some '/')

/-- The end of the text belongs to a comment. -/
def endsInComment (isInComment : Bool) : List Char → Bool
  | [] => isInComment
  | c :: cs => endsInComment (isCommented isInComment c cs.head?) cs

/-- What is left of a character: itself, unless it belongs to a comment. A carriage return is kept
before a line feed, since the two end the line together. -/
def kept (isInComment : Bool) (c : Char) (next : Option Char) : List Char :=
  if isCommented isInComment c next ∧ ¬ (c = '\r' ∧ next = some '\n') then [] else [c]

/-- Every line cut at its first two slashes, what ends the line kept. -/
def cutLines (isInComment : Bool) : List Char → List Char
  | [] => []
  | c :: cs =>
    kept isInComment c cs.head? ++ cutLines (isCommented isInComment c cs.head?) cs

/-- The text with its line comments cut. -/
def cutComments (text : List Char) : List Char := cutLines false text

example : cutComments "a // b /\r\nc / d///\n".toList = "a \r\nc / d\n".toList := by decide

theorem isCommented_of_ne {b : Bool} {c : Char} {next : Option Char} (hslash : c ≠ '/')
    (hline : c ≠ '\n') : isCommented b c next = b := by
  simp [isCommented, hslash, hline]

/-- Only a slash behind a character can make it belong to a comment. -/
theorem isCommented_append {b : Bool} {c d : Char} (hd : d ≠ '/') (p q : List Char) :
    isCommented b c (p ++ d :: q).head? = isCommented b c p.head? := by
  cases p with
  | nil => simp [isCommented, hd]
  | cons => rfl

theorem isCommented_take {b : Bool} {c : Char} {cs : List Char} {k : Nat} (hk : k < cs.length)
    (hslash : cs[k] ≠ '/') : isCommented b c (cs.take k).head? = isCommented b c cs.head? := by
  have hsplit : cs.take k ++ cs[k] :: cs.drop (k + 1) = cs := by simp
  rw [← isCommented_append hslash _ (cs.drop (k + 1)), hsplit]

theorem eq_slash_of_isCommented {c : Char} {next : Option Char}
    (h : isCommented false c next = true) : c = '/' ∧ next = some '/' := by
  simpa [isCommented] using (of_decide_eq_true h).2

theorem kept_of_not_isCommented {b : Bool} {c : Char} {next : Option Char}
    (h : isCommented b c next = false) : kept b c next = [c] := by
  simp [kept, h]

theorem eq_of_mem_kept {b : Bool} {c d : Char} {next : Option Char} (h : d ∈ kept b c next) :
    d = c := by
  unfold kept at h
  split at h
  · cases h
  · exact List.mem_singleton.1 h

theorem withoutComments_cons (b : Bool) (c : Char) (cs : List Char) :
    withoutComments b (c :: cs) =
      if isCommented b c cs.head? then withoutComments true cs
      else c :: withoutComments false cs := by
  by_cases hline : c = '\n'
  · simp [withoutComments, isCommented, hline]
  · simp [withoutComments, isCommented, hline]

/-! ### Words -/

/-- What is left behind the beginning of a comment is empty or begins with the end of a line. -/
theorem head?_cutLines_true {cs : List Char} {d : Char} (h : (cutLines true cs).head? = some d) :
    d = '\n' ∨ d = '\r' := by
  induction cs with
  | nil => cases h
  | cons c cs ih =>
    rw [cutLines] at h
    by_cases hline : c = '\n'
    · subst hline
      exact .inl (Option.some.inj h).symm
    · have hin : isCommented true c cs.head? = true := by simp [isCommented, hline]
      rw [hin] at h
      by_cases hkept : c = '\r' ∧ cs.head? = some '\n'
      · obtain ⟨rfl, hnext⟩ := hkept
        simp only [kept, hnext] at h
        exact .inr (Option.some.inj h).symm
      · rw [kept, if_pos ⟨hin, hkept⟩] at h
        exact ih h

/-- A word without slashes and ends of lines stands at the front of a text exactly if it stands
there once the comments are cut. -/
theorem prefix_cutLines_iff {word : List Char} (h : ∀ c ∈ word, c ≠ '/' ∧ c ≠ '\n' ∧ c ≠ '\r')
    (text : List Char) : word <+: cutLines false text ↔ word <+: text := by
  induction text generalizing word with
  | nil => rfl
  | cons c cs ih =>
    cases word with
    | nil => simp
    | cons w word =>
      obtain ⟨hslash, hline, hreturn⟩ := h w List.mem_cons_self
      rw [cutLines]
      cases hin : isCommented false c cs.head? with
      | false =>
        rw [kept_of_not_isCommented hin, List.singleton_append, List.cons_prefix_cons,
          List.cons_prefix_cons, ih fun d hd => h d (List.mem_cons_of_mem w hd)]
      | true =>
        -- A comment begins here: the word is neither at its slashes nor at the end of its line.
        obtain ⟨rfl, hnext⟩ := eq_slash_of_isCommented hin
        have hkept : kept false '/' cs.head? = [] := by simp [kept, hin]
        rw [hkept, List.nil_append, List.cons_prefix_cons]
        constructor
        · rintro ⟨rest, hrest⟩
          have hhead : (cutLines true cs).head? = some w := by rw [← hrest]; rfl
          rcases head?_cutLines_true hhead with rfl | rfl
          · exact absurd rfl hline
          · exact absurd rfl hreturn
        · rintro ⟨rfl, -⟩
          exact absurd rfl hslash

/-! ### Normal forms -/

theorem head?_cutLines_of_ne {cs : List Char} (h : cs.head? ≠ some '/') :
    (cutLines false cs).head? = cs.head? := by
  cases cs with
  | nil => rfl
  | cons c cs =>
    have hin : isCommented false c cs.head? = false := by
      rw [← Bool.not_eq_true]
      intro hin
      exact h (congrArg some (eq_slash_of_isCommented hin).1)
    rw [cutLines, kept_of_not_isCommented hin]
    rfl

/-- Cutting comments makes no new ones. -/
theorem isCommented_cutLines {b : Bool} {c : Char} {cs : List Char}
    (h : isCommented b c cs.head? = false) :
    isCommented false c (cutLines false cs).head? = false := by
  rw [← Bool.not_eq_true]
  intro hin
  obtain ⟨rfl, hnext⟩ := eq_slash_of_isCommented hin
  have hne : cs.head? ≠ some '/' := by
    intro hslash
    simp [isCommented, hslash] at h
  rw [head?_cutLines_of_ne hne] at hnext
  exact hne hnext

/-- The normal form does not see whether comments are cut. -/
theorem normalForm_cutLines (b : Bool) (text : List Char) :
    normalForm (cutLines b text) = (withoutComments b text).filter fun c => !Text.isBlank c := by
  unfold normalForm
  induction text generalizing b with
  | nil => rfl
  | cons c cs ih =>
    rw [cutLines, withoutComments_cons]
    cases hin : isCommented b c cs.head? with
    | false =>
      rw [kept_of_not_isCommented hin, List.singleton_append, withoutComments_cons,
        isCommented_cutLines hin]
      simp only [Bool.false_eq_true, if_false, List.filter_cons, ih]
    | true =>
      rw [if_pos rfl, ← ih true]
      by_cases hkept : c = '\r' ∧ cs.head? = some '\n'
      · -- The carriage return that is kept is blank.
        obtain ⟨rfl, hnext⟩ := hkept
        have hleft : kept b '\r' cs.head? = ['\r'] := by simp [kept, hnext]
        have hreturn (next : Option Char) : isCommented false '\r' next = false :=
          isCommented_of_ne (by decide) (by decide)
        rw [hleft, List.singleton_append, withoutComments_cons, hreturn]
        rfl
      · rw [kept, if_pos ⟨hin, hkept⟩, List.nil_append]

end Seek.Drift
