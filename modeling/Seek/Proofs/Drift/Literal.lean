import Seek.Drift
import Seek.Proofs.Drift.Layout
import Mathlib

/-!
String literals. Two slashes in a literal are taken for a comment, and the rest of the literal and
of its line goes with it. Main statement: which changes of a literal the normal form tells, and
which it hides (`normalForm_literal`). It hides a change only if it is one of blanks, or stands
behind two slashes that both contents have (`normalForm_withLiteral_eq_iff`); so the comparison of a
source and a copy can pass over a difference between them (`normalForm_literal_hidden`).
-/

namespace Seek.Drift

variable {b : Bool} {text front rest content first second : List Char}

/-- Code with a string literal of this content in it. -/
def withLiteral (front content rest : List Char) : List Char :=
  front ++ '"' :: content ++ '"' :: rest

/-! ### What is left of a literal -/

theorem withoutComments_sublist (b : Bool) (text : List Char) :
    List.Sublist (withoutComments b text) text := by
  induction text generalizing b with
  | nil => exact List.Sublist.slnil
  | cons c cs ih =>
    rw [withoutComments_cons]
    split
    · exact (ih true).cons c
    · exact (ih false).cons_cons c

/-- What is left of a text that begins in a comment is left of it as code too, at its end. -/
theorem withoutComments_true_suffix (text : List Char) :
    withoutComments true text <:+ withoutComments false text := by
  induction text with
  | nil => exact List.suffix_rfl
  | cons c cs ih =>
    by_cases hline : c = '\n'
    · subst hline
      exact List.suffix_rfl
    · have hin : isCommented true c cs.head? = true := by simp [isCommented, hline]
      rw [withoutComments_cons, withoutComments_cons, hin, if_pos rfl]
      split
      · exact List.suffix_rfl
      · exact ih.trans (List.suffix_cons c _)

theorem count_normalFrom_true_le (c : Char) (text : List Char) :
    (normalFrom true text).count c ≤ (normalFrom false text).count c :=
  ((withoutComments_true_suffix text).sublist.filter _).count_le c

theorem quote_notMem_normalForm (h : '"' ∉ content) : '"' ∉ normalForm content := by
  intro hquote
  exact h ((withoutComments_sublist false content).subset (List.mem_filter.1 hquote).1)

theorem normalFrom_quote (text : List Char) :
    normalFrom false ('"' :: text) = '"' :: normalFrom false text := by
  rw [normalFrom, withoutComments_cons, isCommented_of_ne (by decide) (by decide)]
  rfl

/-- What is left of a closing quote and of what stands behind it, where the content of the literal
ends in a comment, or does not. -/
def behind (isInComment : Bool) (rest : List Char) : List Char :=
  normalFrom isInComment ('"' :: rest)

theorem behind_false (rest : List Char) : behind false rest = '"' :: normalFrom false rest :=
  normalFrom_quote rest

theorem behind_true (rest : List Char) : behind true rest = normalFrom true rest := rfl

theorem normalForm_withLiteral (hline : ¬ ['/', '/'] <:+: lastLine front)
    (content rest : List Char) :
    normalForm (withLiteral front content rest) = normalForm front ++
      '"' :: (normalForm content ++ behind (endsInComment false content) rest) := by
  calc normalForm (withLiteral front content rest)
      = normalForm front ++ normalForm ('"' :: (content ++ '"' :: rest)) := by
        rw [withLiteral, List.append_assoc, List.cons_append, normalForm_append hline (by simp)]
    _ = normalForm front ++ '"' :: normalFrom false (content ++ '"' :: rest) := by
        rw [normalForm_eq ('"' :: _), normalFrom_quote]
    _ = normalForm front ++
          '"' :: (normalForm content ++ behind (endsInComment false content) rest) := by
        rw [normalFrom_append (by simp)]
        rfl

/-! ### Two literals -/

/-- The closing quote of a literal tells whether it ends in a comment: there is one quote more. -/
theorem append_behind_ne (hfirst : '"' ∉ first) (hsecond : '"' ∉ second) (rest : List Char) :
    first ++ behind false rest ≠ second ++ behind true rest := by
  intro heq
  have hcount := congrArg (List.count '"') heq
  have hle := count_normalFrom_true_le '"' rest
  rw [behind_false, behind_true, List.count_append, List.count_append, List.count_cons_self,
    List.count_eq_zero_of_not_mem hfirst, List.count_eq_zero_of_not_mem hsecond] at hcount
  omega

theorem append_behind_inj {b' : Bool} (hfirst : '"' ∉ first) (hsecond : '"' ∉ second)
    (rest : List Char) :
    first ++ behind b rest = second ++ behind b' rest ↔ first = second ∧ b = b' := by
  constructor
  · intro heq
    cases b with
    | false =>
      cases b' with
      | false => exact ⟨List.append_cancel_right heq, rfl⟩
      | true => exact absurd heq (append_behind_ne hfirst hsecond rest)
    | true =>
      cases b' with
      | false => exact absurd heq.symm (append_behind_ne hsecond hfirst rest)
      | true => exact ⟨List.append_cancel_right heq, rfl⟩
  · rintro ⟨rfl, rfl⟩
    rfl

/-- A change of a literal is hidden exactly if the contents have the same normal form, and two
slashes both or none of them. -/
theorem normalForm_withLiteral_eq_iff (hline : ¬ ['/', '/'] <:+: lastLine front)
    (hfirst : '"' ∉ first ∧ '\n' ∉ first) (hsecond : '"' ∉ second ∧ '\n' ∉ second)
    (rest : List Char) :
    normalForm (withLiteral front first rest) = normalForm (withLiteral front second rest) ↔
      normalForm first = normalForm second ∧ (['/', '/'] <:+: first ↔ ['/', '/'] <:+: second) := by
  have hends {content : List Char} (h : '\n' ∉ content) :
      endsInComment false content = true ↔ ['/', '/'] <:+: content := by
    rw [endsInComment_line_iff h]
    simp
  rw [normalForm_withLiteral hline, normalForm_withLiteral hline, List.append_cancel_left_eq,
    List.cons.injEq, eq_self, true_and,
    append_behind_inj (quote_notMem_normalForm hfirst.1) (quote_notMem_normalForm hsecond.1),
    Bool.eq_iff_iff, hends hfirst.2, hends hsecond.2]

/-- Behind code, the normal form tells every change of a literal but one of blanks, unless both
contents have two slashes. Where both have, it tells the change exactly if it stands in front of
them. -/
theorem normalForm_literal (front rest first second : List Char)
    (hline : ¬ ['/', '/'] <:+: lastLine front)
    (hfirst : '"' ∉ first ∧ '\n' ∉ first) (hsecond : '"' ∉ second ∧ '\n' ∉ second) :
    (withoutBlanks first ≠ withoutBlanks second →
      ¬ (['/', '/'] <:+: first ∧ ['/', '/'] <:+: second) →
      normalForm (withLiteral front first rest) ≠ normalForm (withLiteral front second rest)) ∧
    (['/', '/'] <:+: first → ['/', '/'] <:+: second →
      (normalForm (withLiteral front first rest) ≠ normalForm (withLiteral front second rest) ↔
        normalForm first ≠ normalForm second)) := by
  have hiff := normalForm_withLiteral_eq_iff hline hfirst hsecond rest
  constructor
  · intro hne hboth heq
    obtain ⟨hsame, hslashes⟩ := hiff.1 heq
    by_cases hin : ['/', '/'] <:+: first
    · exact hboth ⟨hin, hslashes.1 hin⟩
    · rw [normalForm_of_no_slashes hin, normalForm_of_no_slashes (mt hslashes.2 hin)] at hsame
      exact hne hsame
  · intro hin hin'
    simp [hiff, hin, hin']

/-- What stands in front of a literal in the first function that is compared. -/
def beforeLiteral : List Char := "fn midpoint() \x7b\n    trace(".toList

/-- The rest of the functions that are compared. -/
def afterLiteral : List Char := ");\n\x7d\nfn search_position<T>() \x7b\x7d\n".toList

/-- Of the two contents one has two slashes in a row, and the rest of its line is lost. -/
theorem normalForm_literal_slash :
    (¬ ['/', '/'] <:+: lastLine beforeLiteral ∧
      ('"' ∉ "http://a".toList ∧ '\n' ∉ "http://a".toList) ∧
      ('"' ∉ "http:/b".toList ∧ '\n' ∉ "http:/b".toList) ∧
      withoutBlanks "http://a".toList ≠ withoutBlanks "http:/b".toList) ∧
    normalForm (withLiteral beforeLiteral "http://a".toList afterLiteral) ≠
      normalForm (withLiteral beforeLiteral "http:/b".toList afterLiteral) := by
  have hline : ¬ ['/', '/'] <:+: lastLine beforeLiteral := by decide
  have hfirst : '"' ∉ "http://a".toList ∧ '\n' ∉ "http://a".toList := by decide
  have hsecond : '"' ∉ "http:/b".toList ∧ '\n' ∉ "http:/b".toList := by decide
  have hne : withoutBlanks "http://a".toList ≠ withoutBlanks "http:/b".toList := by decide
  obtain ⟨htold, -⟩ := normalForm_literal beforeLiteral afterLiteral _ _ hline hfirst hsecond
  exact ⟨⟨hline, hfirst, hsecond, hne⟩, htold hne (by decide)⟩

/-- Both contents have two slashes, and the change behind them is hidden: the comparison finds no
difference between the two texts. -/
theorem normalForm_literal_hidden :
    (¬ ['/', '/'] <:+: lastLine beforeLiteral ∧ '"' ∉ lastLine beforeLiteral) ∧
    (∀ content ∈ ["http://a".toList, "http://b".toList],
      '"' ∉ content ∧ '\\' ∉ content ∧ '\n' ∉ content) ∧
    withoutBlanks "http://a".toList ≠ withoutBlanks "http://b".toList ∧
    normalForm (withLiteral beforeLiteral "http://a".toList afterLiteral) =
      normalForm (withLiteral beforeLiteral "http://b".toList afterLiteral) ∧
    compareAll (withLiteral beforeLiteral "http://a".toList afterLiteral)
      (withLiteral beforeLiteral "http://b".toList afterLiteral) = .ok () := by
  refine ⟨by decide, by decide, by decide, ?_, ?_⟩ <;> cbv

end Seek.Drift
