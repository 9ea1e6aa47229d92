import Seek.Drift
import Seek.Proofs.Drift.Comment
import Seek.Proofs.Drift.Function
import Mathlib

/-!
When comments do not count. The comparison of a source and a copy drops comments only after it has
found a function by its heading and its braces, and a heading or a brace counts in a comment too: a
brace there can hide a difference, or make one (`compareAll_cutComments_ne`). Main statement: where
the functions do not begin in comments, and no comment in them holds a brace, the comparison comes
to the same with and without comments (`compareAll_cutComments`).
-/

namespace Seek.Drift

/-! ### The beginning of a function -/

/-- A name that does not spoil its heading: it holds no letter that begins one, no slash and no end
of a line. -/
def IsPlain (name : List Char) : Prop := ∀ c ∈ name, c ≠ 'f' ∧ c ≠ '/' ∧ c ≠ '\n' ∧ c ≠ '\r'

theorem begins_cutLines_iff {name : List Char} (plain : IsPlain name) (text : List Char) :
    Begins name (cutLines false text) ↔ Begins name text := by
  have hword (bracket : Char) (hbracket : bracket ∈ ['(', '<']) :
      ∀ c ∈ heading name ++ [bracket], c ≠ '/' ∧ c ≠ '\n' ∧ c ≠ '\r' := by
    intro c hc
    simp only [heading, List.cons_append, List.mem_cons, List.mem_append, List.not_mem_nil,
      or_false] at hc
    rcases hc with rfl | rfl | rfl | hname | rfl
    · decide
    · decide
    · decide
    · exact (plain c hname).2
    · simp only [List.mem_cons, List.not_mem_nil, or_false] at hbracket
      rcases hbracket with rfl | rfl <;> decide
  rw [Begins, Begins, prefix_cutLines_iff (hword '(' (by simp)),
    prefix_cutLines_iff (hword '<' (by simp))]

/-- What is left of a character at which no function begins does not count. -/
theorem beginning_kept_append {name : List Char} (plain : IsPlain name) {b : Bool} {c : Char}
    {cs : List Char} (h : ¬ Begins name (c :: cs)) :
    beginning name (kept b c cs.head? ++ cutLines (isCommented b c cs.head?) cs) =
      beginning name (cutLines (isCommented b c cs.head?) cs) := by
  have hf : 'f' ∉ name := fun hmem => (plain 'f' hmem).1 rfl
  by_cases hcode : b = false ∧ isCommented b c cs.head? = false
  · obtain ⟨rfl, hin⟩ := hcode
    have hcut := begins_cutLines_iff plain (c :: cs)
    rw [cutLines, kept_of_not_isCommented hin, hin, List.singleton_append] at hcut
    rw [kept_of_not_isCommented hin, hin, List.singleton_append, beginning_cons hf,
      if_neg (mt hcut.1 h)]
  · refine beginning_append (fun hmem => ?_) _
    obtain rfl := eq_of_mem_kept hmem
    have hsame : isCommented b 'f' cs.head? = b := isCommented_of_ne (by decide) (by decide)
    rw [hsame, and_self, Bool.not_eq_false] at hcode
    subst hcode
    rw [kept, if_pos ⟨hsame, by simp⟩] at hmem
    cases hmem

/-- The function does not begin in a comment. -/
def Outside (name : List Char) (isInComment : Bool) (text : List Char) : Prop :=
  ∀ k < text.length, beginning name text = some (text.drop k) →
    endsInComment isInComment (text.take k) = false

instance (name : List Char) (isInComment : Bool) (text : List Char) :
    Decidable (Outside name isInComment text) := inferInstanceAs (Decidable (∀ k < _, _))

theorem Outside.tail {name : List Char} (hf : 'f' ∉ name) {b : Bool} {c : Char} {cs : List Char}
    (h : Outside name b (c :: cs)) (hbegins : ¬ Begins name (c :: cs)) :
    Outside name (isCommented b c cs.head?) cs := by
  intro k hk hbeginning
  have hslash : cs[k] ≠ '/' := by
    have hhead := (begins_of_beginning hf hbeginning).head?_eq
    rw [List.head?_drop, List.getElem?_eq_getElem hk, Option.some.injEq] at hhead
    rw [hhead]
    decide
  have hends := h (k + 1) (Nat.succ_lt_succ hk)
    (by rwa [beginning_cons hf, if_neg hbegins, List.drop_succ_cons])
  rwa [List.take_succ_cons, endsInComment, isCommented_take hk hslash] at hends

/-- Where a function does not begin in a comment, it begins there once the comments are cut. -/
theorem beginning_cutLines {name : List Char} (plain : IsPlain name) {b : Bool} {text : List Char}
    (h : Outside name b text) :
    beginning name (cutLines b text) = (beginning name text).map (cutLines false) := by
  have hf : 'f' ∉ name := fun hmem => (plain 'f' hmem).1 rfl
  induction text generalizing b with
  | nil => simp [cutLines, beginning]
  | cons c cs ih =>
    by_cases hbegins : Begins name (c :: cs)
    · have hbeginning : beginning name (c :: cs) = some (c :: cs) := by
        rw [beginning_cons hf, if_pos hbegins]
      obtain rfl : b = false := h 0 (Nat.zero_lt_succ _) hbeginning
      have hcut := (begins_cutLines_iff plain (c :: cs)).2 hbegins
      rw [hbeginning, Option.map_some]
      cases hcode : cutLines false (c :: cs) with
      | nil => simp [hcode, Begins] at hcut
      | cons d ds => rw [beginning_cons hf, if_pos (hcode ▸ hcut)]
    · rw [cutLines, beginning_kept_append plain hbegins, ih (h.tail hf hbegins), beginning_cons hf,
        if_neg hbegins]

/-! ### The end of a function -/

/-- A brace in a comment stands behind the end of the function that the text begins with. -/
def Unbraced (isInComment : Bool) (depth : Nat) (text : List Char) : Prop :=
  ∀ k < text.length, endsInComment isInComment (text.take k) →
    text[k]? = some '{' ∨ text[k]? = some '}' → (closing depth (text.take k)).isSome

instance (isInComment : Bool) (depth : Nat) (text : List Char) :
    Decidable (Unbraced isInComment depth text) := inferInstanceAs (Decidable (∀ k < _, _))

theorem Unbraced.eq_false {b : Bool} {depth : Nat} {c : Char} {cs : List Char}
    (h : Unbraced b depth (c :: cs)) (hbrace : c = '{' ∨ c = '}') : b = false := by
  cases b with
  | false => rfl
  | true =>
    have hsome := h 0 (Nat.zero_lt_succ _) rfl (by simpa using hbrace)
    cases hsome

/-- What is left behind the first character is again without braces in comments. -/
theorem Unbraced.tail {b : Bool} {depth depth' : Nat} {c : Char} {cs : List Char}
    (h : Unbraced b depth (c :: cs))
    (hclosing : ∀ front, closing depth (c :: front) = (closing depth' front).map (c :: ·)) :
    Unbraced (isCommented b c cs.head?) depth' cs := by
  intro k hk hends hbrace
  have hslash : cs[k] ≠ '/' := by
    intro heq
    simp [List.getElem?_eq_getElem hk, heq] at hbrace
  have hsome := h (k + 1) (Nat.succ_lt_succ hk)
    (by rwa [List.take_succ_cons, endsInComment, isCommented_take hk hslash])
    (by simpa using hbrace)
  rwa [List.take_succ_cons, hclosing, Option.isSome_map] at hsome

/-- Where no comment in a function holds a brace, the function ends at the same brace once its
comments are cut. -/
theorem closing_cutLines {b : Bool} {depth : Nat} {text : List Char} (h : Unbraced b depth text) :
    closing depth (cutLines b text) = (closing depth text).map (cutLines b) := by
  induction text generalizing b depth with
  | nil => rfl
  | cons c cs ih =>
    -- A front of the text is cut as the text is: what is behind a character stays behind it.
    have hfront : ∀ d, (closing d cs).map (fun front => cutLines b (c :: front)) =
        (closing d cs).map fun front =>
          kept b c cs.head? ++ cutLines (isCommented b c cs.head?) front := by
      intro d
      cases hclosing : closing d cs with
      | none => rfl
      | some front => rw [Option.map_some, Option.map_some, cutLines, head?_of_closing hclosing]
    have step : ∀ d, (∀ front, closing depth (c :: front) = (closing d front).map (c :: ·)) →
        closing depth (kept b c cs.head? ++ cutLines (isCommented b c cs.head?) cs) =
          (closing d (cutLines (isCommented b c cs.head?) cs)).map (kept b c cs.head? ++ ·) →
        closing depth (cutLines b (c :: cs)) = (closing depth (c :: cs)).map (cutLines b) := by
      intro d hclosing hkept
      rw [cutLines, hkept, ih (h.tail hclosing), hclosing, Option.map_map, Option.map_map]
      exact (hfront d).symm
    by_cases hbrace : c = '{' ∨ c = '}'
    · obtain rfl := h.eq_false hbrace
      have hcode : isCommented false c cs.head? = false := by
        rcases hbrace with rfl | rfl <;> rfl
      rw [kept_of_not_isCommented hcode, hcode] at step
      rcases hbrace with rfl | rfl
      · exact step (depth + 1) (fun _ => rfl) rfl
      · rcases depth with _ | _ | others
        · rfl
        · rfl
        · exact step (others + 1) (fun _ => rfl) rfl
    · obtain ⟨hopen, hclose⟩ := not_or.1 hbrace
      refine step depth (closing_of_ne hopen hclose) (closing_append (fun d hd => ?_) depth _)
      rw [eq_of_mem_kept hd]
      exact ⟨hopen, hclose⟩

/-! ### Whole texts -/

/-- The function of this name can be read whether comments are cut or not: it does not begin in one,
and none in it holds a brace. -/
structure Legible (name source : List Char) : Prop where
  outside : Outside name false source
  unbraced : ∀ text ∈ beginning name source, Unbraced false 0 text

instance (name source : List Char) : Decidable (Legible name source) :=
  decidable_of_iff
    (Outside name false source ∧ ∀ text ∈ beginning name source, Unbraced false 0 text)
    ⟨fun h => ⟨h.1, h.2⟩, fun h => ⟨h.outside, h.unbraced⟩⟩

theorem body_cutComments {name source : List Char} (plain : IsPlain name)
    (legible : Legible name source) :
    body (cutComments source) name = (body source name).map cutComments := by
  rw [body_eq, body_eq, cutComments, beginning_cutLines plain legible.outside]
  cases hbeginning : beginning name source with
  | none => rfl
  | some text => exact closing_cutLines (legible.unbraced text hbeginning)

theorem normalForm_cutComments (text : List Char) :
    normalForm (cutComments text) = normalForm text :=
  normalForm_cutLines false text

theorem compareOne_cutComments {source copy : List Char} {name : String}
    (plain : IsPlain name.toList) (hsource : Legible name.toList source)
    (hcopy : Legible name.toList copy) :
    compareOne (cutComments source) (cutComments copy) name = compareOne source copy name := by
  unfold compareOne
  rw [body_cutComments plain hsource, body_cutComments plain hcopy]
  cases body source name.toList with
  | none => rfl
  | some here =>
    cases body copy name.toList with
    | none => rfl
    | some there =>
      simp only [Option.map_some, normalForm_cutComments]

theorem isPlain_of_mem_carried {name : String} (h : name ∈ carried) : IsPlain name.toList := by
  unfold IsPlain
  simp only [carried, List.mem_cons, List.not_mem_nil, or_false] at h
  rcases h with rfl | rfl <;> simp

/-- Where every function that is carried twice can be read in both texts, cutting the comments of
both changes nothing in what the comparison comes to. -/
theorem compareAll_cutComments (source copy : List Char)
    (hsource : ∀ name ∈ carried, Legible name.toList source)
    (hcopy : ∀ name ∈ carried, Legible name.toList copy) :
    compareAll (cutComments source) (cutComments copy) = compareAll source copy := by
  have hone : ∀ name ∈ carried, compareOne (cutComments source) (cutComments copy) name =
      compareOne source copy name := fun name hname =>
    compareOne_cutComments (isPlain_of_mem_carried hname) (hsource name hname) (hcopy name hname)
  unfold compareAll
  simp only [carried, List.forM_eq_forM, List.forM_cons, List.forM_nil,
    hone "midpoint" (by simp [carried]), hone "search_position" (by simp [carried])]

/-- A text of both functions, with this behind the first brace. -/
def twoFunctions (behind : String) : List Char :=
  ("fn midpoint() \x7b" ++ behind ++ "\x7d\nfn search_position<T>() \x7b\x7d\n").toList

/-- A comment in the function of one text, and one with a brace and a heading behind the function of
the other. -/
theorem compareAll_cutComments_twoFunctions :
    (∀ name ∈ carried, Legible name.toList (twoFunctions " // half\r\n  a / 2\n")) ∧
    (∀ name ∈ carried, Legible name.toList (twoFunctions "a / 2\x7d // fn midpoint(\x7b\n")) ∧
    compareAll (cutComments (twoFunctions " // half\r\n  a / 2\n"))
      (cutComments (twoFunctions "a / 2\x7d // fn midpoint(\x7b\n")) = .ok () := by
  have hsource : ∀ name ∈ carried, Legible name.toList (twoFunctions " // half\r\n  a / 2\n") := by
    decide +kernel
  have hcopy : ∀ name ∈ carried,
      Legible name.toList (twoFunctions "a / 2\x7d // fn midpoint(\x7b\n") := by
    decide +kernel
  refine ⟨hsource, hcopy, ?_⟩
  rw [compareAll_cutComments _ _ hsource hcopy]
  cbv

/-- A brace in a comment hides the difference behind it, and a brace in a comment of the copy alone
makes a difference where there is none. -/
theorem compareAll_cutComments_ne :
    (compareAll (twoFunctions " // \x7d\n  a\n") (twoFunctions " // \x7d\n  b\n") = .ok () ∧
    compareAll (cutComments (twoFunctions " // \x7d\n  a\n"))
      (cutComments (twoFunctions " // \x7d\n  b\n")) = .error (.differs "midpoint")) ∧
    compareAll (twoFunctions "\n  a\n") (twoFunctions "\n  a // \x7d\n") =
      .error (.differs "midpoint") ∧
    compareAll (cutComments (twoFunctions "\n  a\n"))
      (cutComments (twoFunctions "\n  a // \x7d\n")) = .ok () := by
  refine ⟨⟨?_, ?_⟩, ?_, ?_⟩ <;> cbv

end Seek.Drift
