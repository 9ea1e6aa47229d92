import Seek.Proofs.Drift.Mention
import Mathlib

/-!
What is taken of a function, by counting. A text closes its braces when it has as many that close as
that open, one at least, and no shorter front of it has more that close. The walk that keeps count
of the open braces stops at the end of the shortest such front (`closing_eq_some_iff`): a character
moves the count of open braces and the two numbers of braces in the same way (`shortest_cons_iff`).
Main statement: `body` is the shortest front of this kind of the text in which the function starts,
and there is none where that text has no such front, whatever else the source holds.
-/

namespace Seek.Drift

variable {depth : Nat} {text front : List Char}

/-- A text that closes its braces, and `depth` more that are open in front of it: there is a brace,
all are closed at the end, and before that no brace closes that was never opened. -/
structure Closes (depth : Nat) (front : List Char) : Prop where
  braced : '{' ∈ front ∨ '}' ∈ front
  balanced : front.count '{' + depth = front.count '}'
  covered : ∀ shorter, shorter <+: front → shorter ≠ front →
    shorter.count '}' ≤ shorter.count '{' + depth

/-- The shortest part at the front of the text that closes its braces. -/
structure Shortest (depth : Nat) (text front : List Char) : Prop where
  isPrefix : front <+: text
  closes : Closes depth front
  least : ∀ other, other <+: text → Closes depth other → front.length ≤ other.length

theorem Closes.ne_nil (h : Closes depth front) : front ≠ [] := by
  rintro rfl
  simpa using h.braced

/-- Where a brace is open, the text has one that closes it. -/
theorem braced_of_pos (hpos : 0 < depth) (h : front.count '{' + depth = front.count '}') :
    '}' ∈ front := by
  rw [← List.count_pos_iff]
  omega

/-- A character with which the number of open braces becomes `next`. -/
structure Shifts (depth next : Nat) (c : Char) : Prop where
  count : ∀ text : List Char,
    (c :: text).count '{' + depth + text.count '}' =
      text.count '{' + next + (c :: text).count '}'
  braced : 0 < next ∨ c ≠ '{' ∧ c ≠ '}'

theorem shifts_open (depth : Nat) : Shifts depth (depth + 1) '{' := by
  refine ⟨fun text => ?_, .inl (Nat.succ_pos depth)⟩
  rw [List.count_cons_self, List.count_cons_of_ne (by decide)]
  omega

theorem shifts_close (others : Nat) : Shifts (others + 2) (others + 1) '}' := by
  refine ⟨fun text => ?_, .inl (Nat.succ_pos others)⟩
  rw [List.count_cons_self, List.count_cons_of_ne (by decide)]
  omega

theorem shifts_other {c : Char} (hopen : c ≠ '{') (hclose : c ≠ '}') : Shifts depth depth c :=
  ⟨fun text => by simp [hopen, hclose], .inr ⟨hopen, hclose⟩⟩

variable {next : Nat} {c : Char} {cs : List Char}

theorem Shifts.closes_cons_iff (h : Shifts depth next c) :
    Closes depth (c :: front) ↔ Closes next front := by
  have hcount := h.count front
  constructor
  · rintro ⟨hbraced, hbalanced, hcovered⟩
    have hrest : front.count '{' + next = front.count '}' := by omega
    refine ⟨?_, hrest, fun shorter hfront hne => ?_⟩
    · rcases h.braced with hpos | ⟨hopen, hclose⟩
      · exact .inr (braced_of_pos hpos hrest)
      · simpa [hopen.symm, hclose.symm] using hbraced
    · have hle := hcovered (c :: shorter) (List.cons_prefix_cons.2 ⟨rfl, hfront⟩)
        (by simpa using hne)
      have := h.count shorter
      omega
  · rintro ⟨hbraced, hbalanced, hcovered⟩
    refine ⟨hbraced.imp (List.mem_cons_of_mem c) (List.mem_cons_of_mem c), by omega,
      fun shorter hfront hne => ?_⟩
    rcases List.prefix_cons_iff.1 hfront with rfl | ⟨rest, rfl, hrest⟩
    · simp
    · have hle := hcovered rest hrest fun heq => hne (congrArg (c :: ·) heq)
      have := h.count rest
      omega

/-- The shortest front goes on behind a character that leaves it open. -/
theorem Shifts.shortest_cons_iff (h : Shifts depth next c) :
    Shortest depth (c :: cs) front ↔ ∃ rest, Shortest next cs rest ∧ c :: rest = front := by
  constructor
  · rintro ⟨hfront, hcloses, hleast⟩
    rcases List.prefix_cons_iff.1 hfront with rfl | ⟨rest, rfl, hrest⟩
    · exact absurd rfl hcloses.ne_nil
    · refine ⟨rest, ⟨hrest, h.closes_cons_iff.1 hcloses, fun other hother hcl => ?_⟩, rfl⟩
      have hle := hleast (c :: other) (List.cons_prefix_cons.2 ⟨rfl, hother⟩)
        (h.closes_cons_iff.2 hcl)
      exact Nat.le_of_succ_le_succ hle
  · rintro ⟨rest, ⟨hfront, hcloses, hleast⟩, rfl⟩
    refine ⟨List.cons_prefix_cons.2 ⟨rfl, hfront⟩, h.closes_cons_iff.2 hcloses,
      fun other hother hcl => ?_⟩
    rcases List.prefix_cons_iff.1 hother with rfl | ⟨rest', rfl, hrest'⟩
    · exact absurd rfl hcl.ne_nil
    · exact Nat.succ_le_succ (hleast rest' hrest' (h.closes_cons_iff.1 hcl))

/-- No front closes its braces where the first brace closes one that was never opened. -/
theorem not_shortest_close : ¬ Shortest 0 ('}' :: cs) front := by
  rintro ⟨hfront, hcloses, -⟩
  rcases List.prefix_cons_iff.1 hfront with rfl | ⟨rest, rfl, -⟩
  · exact hcloses.ne_nil rfl
  · by_cases hrest : rest = []
    · have hbalanced := hcloses.balanced
      simp [hrest] at hbalanced
    · have hcovered := hcloses.covered ['}'] ⟨rest, rfl⟩ (by simpa using Ne.symm hrest)
      simp at hcovered

/-- A brace that closes the only open one ends the front. -/
theorem shortest_close_iff : Shortest 1 ('}' :: cs) front ↔ ['}'] = front := by
  have hcloses : Closes 1 ['}'] := by
    refine ⟨by simp, by simp, fun shorter hfront hne => ?_⟩
    rcases List.prefix_cons_iff.1 hfront with rfl | ⟨rest, rfl, hrest⟩
    · simp
    · exact absurd (congrArg _ (List.prefix_nil.1 hrest)) hne
  have hshortest : Shortest 1 ('}' :: cs) ['}'] :=
    ⟨⟨cs, rfl⟩, hcloses, fun other _ hcl => List.length_pos_iff.2 hcl.ne_nil⟩
  constructor
  · intro h
    have hlen := h.least _ hshortest.isPrefix hcloses
    have hfront := List.prefix_of_prefix_length_le h.isPrefix hshortest.isPrefix hlen
    exact (hfront.eq_of_length_le (List.length_pos_iff.2 h.closes.ne_nil)).symm
  · rintro rfl
    exact hshortest

/-- The walk that counts open braces ends with the shortest front that closes them. -/
theorem closing_eq_some_iff : closing depth text = some front ↔ Shortest depth text front := by
  induction text generalizing depth front with
  | nil =>
    constructor
    · intro h
      cases h
    · rintro ⟨hfront, hcloses, -⟩
      exact absurd (List.prefix_nil.1 hfront) hcloses.ne_nil
  | cons c cs ih =>
    have step {next : Nat} (h : Shifts depth next c) :
        (closing next cs).map (c :: ·) = some front ↔ Shortest depth (c :: cs) front := by
      simp only [h.shortest_cons_iff, Option.map_eq_some_iff, ih]
    unfold closing
    split
    · rename_i hopen
      subst hopen
      exact step (shifts_open depth)
    · rename_i hopen
      split
      · rename_i hclose
        subst hclose
        rcases depth with _ | _ | others
        · simp [not_shortest_close]
        · simp [shortest_close_iff]
        · exact step (shifts_close others)
      · rename_i hclose
        exact step (shifts_other hopen hclose)

/-! ### Whole functions -/

/-- Of the fronts that close their braces, if there are any, one is the shortest. -/
theorem exists_shortest (hfront : front <+: text) (hcloses : Closes depth front) :
    ∃ shortest, Shortest depth text shortest := by
  induction hn : front.length using Nat.strongRecOn generalizing front with
  | _ n ih =>
    subst hn
    by_cases hleast : ∀ other, other <+: text → Closes depth other → front.length ≤ other.length
    · exact ⟨front, hfront, hcloses, hleast⟩
    · push Not at hleast
      obtain ⟨other, hother, hcl, hlt⟩ := hleast
      exact ih other.length hlt hother hcl rfl

theorem getLast?_of_closing (h : closing depth text = some front) : front.getLast? = some '}' := by
  induction text generalizing depth front with
  | nil => cases h
  | cons c cs ih =>
    have longer {next : Nat} (hmap : (closing next cs).map (c :: ·) = some front) :
        front.getLast? = some '}' := by
      obtain ⟨rest, hrest, rfl⟩ := Option.map_eq_some_iff.1 hmap
      have hlast := ih hrest
      rw [List.getLast?_cons, hlast, Option.getD_some]
    unfold closing at h
    split at h
    · exact longer h
    · split at h
      · rename_i hclose
        subst hclose
        split at h
        · cases h
        · cases h
          rfl
        · exact longer h
      · exact longer h

variable {source name : List Char}

theorem body_eq_some_iff : body source name = some front ↔
    ∃ place, Start name source 0 place ∧ Shortest 0 (source.drop place) front := by
  rw [body_eq, Option.bind_eq_some_iff]
  simp only [beginning_eq_some_iff, closing_eq_some_iff]
  constructor
  · rintro ⟨_, ⟨place, hstart, rfl⟩, hshortest⟩
    exact ⟨place, hstart, hshortest⟩
  · rintro ⟨place, hstart, hshortest⟩
    exact ⟨_, ⟨place, hstart, rfl⟩, hshortest⟩

theorem exists_body_iff : (∃ front, body source name = some front) ↔
    ∃ place, Start name source 0 place ∧
      ∃ front, front <+: source.drop place ∧ Closes 0 front := by
  constructor
  · rintro ⟨front, hbody⟩
    obtain ⟨place, hstart, hfront, hcloses, -⟩ := body_eq_some_iff.1 hbody
    exact ⟨place, hstart, front, hfront, hcloses⟩
  · rintro ⟨place, hstart, front, hfront, hcloses⟩
    obtain ⟨shortest, hshortest⟩ := exists_shortest hfront hcloses
    exact ⟨shortest, body_eq_some_iff.2 ⟨place, hstart, hshortest⟩⟩

/-- What is found of a function is the shortest front that closes its braces, of the text from where
the function starts: a part of the source, with a brace at its end. Where that text has no such
front nothing is found, whatever stands behind. The function starts at the first of its mentions
with a bracket behind it, and this is the leftmost place where it begins, unless an end of its
heading is also its front; it is not so for the two functions that proofs are about. -/
theorem body_shortest (source name : List Char) :
    (∀ front, body source name = some front ↔
      ∃ place, Start name source 0 place ∧ Shortest 0 (source.drop place) front) ∧
    ((∃ front, body source name = some front) ↔ ∃ place, Start name source 0 place ∧
      ∃ front, front <+: source.drop place ∧ Closes 0 front) ∧
    (∀ front, body source name = some front → front <:+: source ∧ front.getLast? = some '}') ∧
    (∀ place, Start name source 0 place →
      (∀ front, front <+: source.drop place → ¬ Closes 0 front) → body source name = none) ∧
    (Unbordered (heading name) → ∀ place, Start name source 0 place ↔
      Begins name (source.drop place) ∧ ∀ other, Begins name (source.drop other) → place ≤ other) ∧
    Unbordered (heading "midpoint".toList) ∧ Unbordered (heading "search_position".toList) := by
  refine ⟨fun front => body_eq_some_iff, exists_body_iff, fun front hbody => ⟨?_, ?_⟩,
    fun place hstart hnone => ?_, fun unbordered place => start_iff_of_unbordered unbordered,
    unbordered_cons (by simp), unbordered_cons (by simp)⟩
  · obtain ⟨place, -, hshortest⟩ := body_eq_some_iff.1 hbody
    exact hshortest.isPrefix.isInfix.trans (List.drop_suffix place source).isInfix
  · rw [body_eq, Option.bind_eq_some_iff] at hbody
    obtain ⟨text, -, hclosing⟩ := hbody
    exact getLast?_of_closing hclosing
  · refine Option.eq_none_iff_forall_ne_some.2 fun front hbody => ?_
    obtain ⟨other, hother, hfront, hcloses, -⟩ := body_eq_some_iff.1 hbody
    obtain rfl : place = other := hstart.unique hother
    exact hnone front hfront hcloses

/-- A mention without a bracket, a function with a character of several bytes in it, and a brace that
is left over. -/
def mentionedTwice : List Char := "é fn ab() \x7b \x7d fn a<T> \x7b '€' \x7b \x7d \x7d \x7d".toList

theorem body_shortest_mention :
    Unbordered (heading "a".toList) ∧
    body mentionedTwice "a".toList = some "fn a<T> \x7b '€' \x7b \x7d \x7d".toList ∧
    ∃ place, (Begins "a".toList (mentionedTwice.drop place) ∧
        ∀ other, Begins "a".toList (mentionedTwice.drop other) → place ≤ other) ∧
      Shortest 0 (mentionedTwice.drop place) "fn a<T> \x7b '€' \x7b \x7d \x7d".toList := by
  have unbordered : Unbordered (heading "a".toList) := unbordered_cons (by decide)
  have hbody : body mentionedTwice "a".toList =
      some "fn a<T> \x7b '€' \x7b \x7d \x7d".toList := by
    cbv
  obtain ⟨hsome, -, -, -, hleftmost, -⟩ := body_shortest mentionedTwice "a".toList
  obtain ⟨place, hstart, hshortest⟩ := (hsome _).1 hbody
  exact ⟨unbordered, hbody, place, (hleftmost unbordered place).1 hstart, hshortest⟩

/-- A mention that overlaps the one before it is not come across. -/
example : body "fn fn fn() \x7b\x7d".toList "fn".toList = none := by cbv

end Seek.Drift
