import Seek.Drift

/-!
Functions in a source text, told by what stands where and not by how they are searched for. A
function begins with its heading and a bracket (`Begins`), and ends at the brace that closes the
last open one (`closing`). Main statements: the search finds the first place where a function
begins, unless mentions of it can overlap (`beginning_cons`), and what it takes from there is the
front of the text that closes its braces (`body_eq`).
-/

namespace Seek.Drift

/-! ### Where a function begins -/

/-- The function of this name begins with the text: with its heading and a bracket. -/
def Begins (name text : List Char) : Prop :=
  heading name ++ ['('] <+: text ∨ heading name ++ ['<'] <+: text

instance (name text : List Char) : Decidable (Begins name text) :=
  inferInstanceAs (Decidable (_ ∨ _))

theorem begins_append_iff {name rest : List Char} :
    Begins name (heading name ++ rest) ↔ opensSignature rest = true := by
  rw [Begins, List.prefix_append_right_inj, List.prefix_append_right_inj]
  cases rest with
  | nil => simp [opensSignature]
  | cons c cs =>
    simp only [List.cons_prefix_cons, List.nil_prefix, and_true, opensSignature, Bool.or_eq_true,
      beq_iff_eq]
    exact or_congr eq_comm eq_comm

theorem Begins.exists_append {name text : List Char} (h : Begins name text) :
    ∃ rest, heading name ++ rest = text :=
  h.elim (List.prefix_append _ _).trans (List.prefix_append _ _).trans

theorem Begins.head?_eq {name text : List Char} (h : Begins name text) : text.head? = some 'f' := by
  obtain ⟨rest, rfl⟩ := h.exists_append
  rfl

theorem beginning_of_head_ne {name cs : List Char} {c : Char} (h : c ≠ 'f') :
    beginning name (c :: cs) = beginning name cs := by
  rw [beginning, if_neg]
  simp [heading, Ne.symm h]

theorem beginning_append {name front : List Char} (h : 'f' ∉ front) (text : List Char) :
    beginning name (front ++ text) = beginning name text := by
  induction front with
  | nil => rfl
  | cons c front ih =>
    rw [List.mem_cons, not_or] at h
    rw [List.cons_append, beginning_of_head_ne (Ne.symm h.1), ih h.2]

/-- A mention with a bracket begins the function, and behind any other the search goes on. -/
theorem beginning_heading_append (name rest : List Char) : beginning name (heading name ++ rest) =
    if opensSignature rest then some (heading name ++ rest) else beginning name rest := by
  have hcons : heading name ++ rest = 'f' :: ('n' :: ' ' :: name ++ rest) := rfl
  have hprefix : (heading name).isPrefixOf ('f' :: ('n' :: ' ' :: name ++ rest)) = true :=
    List.isPrefixOf_iff_prefix.2 (List.prefix_append _ rest)
  have hdrop : ('n' :: ' ' :: name ++ rest).drop (name.length + 2) = rest := List.drop_left
  rw [hcons, beginning]
  simp only [if_pos hprefix, hdrop]

theorem beginning_of_not_heading {name cs : List Char} {c : Char} (h : ¬ heading name <+: c :: cs) :
    beginning name (c :: cs) = beginning name cs := by
  rw [beginning, if_neg fun hprefix => h (List.isPrefixOf_iff_prefix.1 hprefix)]

/-- Where the letter that begins a heading does not occur in the name, mentions do not overlap, and
a function begins at the first place where it can. -/
theorem beginning_cons {name : List Char} (h : 'f' ∉ name) (c : Char) (cs : List Char) :
    beginning name (c :: cs) =
      if Begins name (c :: cs) then some (c :: cs) else beginning name cs := by
  have hmention : 'f' ∉ 'n' :: ' ' :: name := by simpa using h
  by_cases hheading : heading name <+: c :: cs
  · obtain ⟨rest, hrest⟩ := hheading
    obtain ⟨-, rfl⟩ : 'f' = c ∧ 'n' :: ' ' :: name ++ rest = cs := List.cons.inj hrest
    rw [← hrest, beginning_heading_append, beginning_append hmention]
    simp only [begins_append_iff]
  · rw [beginning_of_not_heading hheading, if_neg fun hbegins => hheading hbegins.exists_append]

/-- Where a function is found, it begins. -/
theorem begins_of_beginning {name text rest : List Char} (h : 'f' ∉ name)
    (hbeginning : beginning name text = some rest) : Begins name rest := by
  induction text with
  | nil => simp [beginning] at hbeginning
  | cons c cs ih =>
    rw [beginning_cons h] at hbeginning
    split at hbeginning
    · rename_i hbegins
      exact Option.some.inj hbeginning ▸ hbegins
    · exact ih hbeginning

/-! ### Where a function ends -/

/-- The text up to the brace that closes the last open one, where `depth` braces are open. -/
def closing (depth : Nat) : List Char → Option (List Char)
  | [] => none
  | c :: cs =>
    if c = '{' then (closing (depth + 1) cs).map (c :: ·)
    else if c = '}' then
      match depth with
      | 0 => none
      | 1 => some [c]
      | others + 2 => (closing (others + 1) cs).map (c :: ·)
    else (closing depth cs).map (c :: ·)

theorem closing_of_ne {depth : Nat} {c : Char} (hopen : c ≠ '{') (hclose : c ≠ '}')
    (cs : List Char) : closing depth (c :: cs) = (closing depth cs).map (c :: ·) := by
  rw [closing.eq_def]
  simp only [if_neg hopen, if_neg hclose]

/-- What is no brace does not count. -/
theorem closing_append {front : List Char} (h : ∀ c ∈ front, c ≠ '{' ∧ c ≠ '}') (depth : Nat)
    (text : List Char) : closing depth (front ++ text) = (closing depth text).map (front ++ ·) := by
  induction front with
  | nil => simp
  | cons c front ih =>
    obtain ⟨hopen, hclose⟩ := h c List.mem_cons_self
    rw [List.cons_append, closing_of_ne hopen hclose,
      ih fun d hd => h d (List.mem_cons_of_mem c hd), Option.map_map]
    rfl

/-- The extent of a function is the length of its text. -/
theorem extent_eq (depth taken : Nat) (text : List Char) :
    extent depth taken text = (closing depth text).map fun front => taken + front.length := by
  induction text generalizing depth taken with
  | nil => rfl
  | cons c cs ih =>
    have hlen : ∀ depth : Nat, ((closing depth cs).map (c :: ·)).map
        (fun front => taken + front.length) =
          (closing depth cs).map fun front => taken + 1 + front.length := by
      intro depth
      rw [Option.map_map]
      congr 1
      funext front
      simp only [Function.comp_apply, List.length_cons]
      omega
    unfold extent closing
    split
    · rw [ih, hlen]
    · split
      · split
        · rfl
        · rfl
        · rw [ih, hlen]
      · rw [ih, hlen]

theorem prefix_of_closing {depth : Nat} {text front : List Char}
    (h : closing depth text = some front) : front ≠ [] ∧ front <+: text := by
  induction text generalizing depth front with
  | nil => cases h
  | cons c cs ih =>
    have longer : ∀ depth, (closing depth cs).map (c :: ·) = some front →
        front ≠ [] ∧ front <+: c :: cs := by
      intro depth hmap
      obtain ⟨rest, hrest, rfl⟩ := Option.map_eq_some_iff.1 hmap
      exact ⟨List.cons_ne_nil _ _, List.cons_prefix_cons.2 ⟨rfl, (ih hrest).2⟩⟩
    unfold closing at h
    split at h
    · exact longer _ h
    · split at h
      · split at h
        · cases h
        · cases h
          exact ⟨List.cons_ne_nil _ _, List.cons_prefix_cons.2 ⟨rfl, List.nil_prefix⟩⟩
        · exact longer _ h
      · exact longer _ h

theorem head?_of_closing {depth : Nat} {text front : List Char}
    (h : closing depth text = some front) : front.head? = text.head? := by
  obtain ⟨hne, rest, rfl⟩ := prefix_of_closing h
  obtain ⟨c, cs, rfl⟩ := List.exists_cons_of_ne_nil hne
  rfl

/-- What is found of a function is the text from its beginning to the brace that ends it. -/
theorem body_eq (source name : List Char) :
    body source name = (beginning name source).bind (closing 0) := by
  unfold body
  cases beginning name source with
  | none => rfl
  | some text =>
    simp only [extent_eq, Option.bind_eq_bind, Option.bind_some]
    cases hclosing : closing 0 text with
    | none => rfl
    | some front =>
      simp only [Option.map_some, Option.bind_some, Nat.zero_add, Option.some.injEq]
      exact (List.prefix_iff_eq_take.1 (prefix_of_closing hclosing).2).symm

end Seek.Drift
