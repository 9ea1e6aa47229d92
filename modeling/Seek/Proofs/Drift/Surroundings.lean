import Seek.Proofs.Drift.Closing

/-!
What surrounds a function. Where a function starts is settled by the text up to its bracket
(`start_iff_of_shared`), and where it ends by the text up to its last brace
(`Shortest.of_isPrefix`). A text in which no mention starts is passed over
(`beginning_append_of_unmentioned`). Main statement: what is found of a function is found wherever
it stands behind no mention, and what stands behind it never counts (`body_surrounded`).
-/

namespace Seek.Drift

variable {word text shared name source front : List Char} {origin place : Nat}

/-! ### A front of the text settles where a function starts -/

theorem StandsAt.of_shared (hshared : shared <+: text) (h : StandsAt word shared place) :
    StandsAt word text place :=
  List.IsPrefix.trans h (hshared.drop place)

theorem standsAt_iff_of_shared (hshared : shared <+: text)
    (hfits : place + word.length ≤ shared.length) :
    StandsAt word text place ↔ StandsAt word shared place := by
  constructor
  · intro h
    refine List.prefix_of_prefix_length_le h (hshared.drop place) ?_
    rw [List.length_drop]
    omega
  · exact StandsAt.of_shared hshared

theorem begins_iff_exists : Begins name text ↔
    ∃ bracket ∈ ['(', '<'], heading name ++ [bracket] <+: text := by
  simp [Begins]

theorem begins_iff_of_shared (hshared : shared <+: text)
    (hfits : place + (heading name).length < shared.length) :
    Begins name (text.drop place) ↔ Begins name (shared.drop place) := by
  have hbracket (bracket : Char) : heading name ++ [bracket] <+: text.drop place ↔
      heading name ++ [bracket] <+: shared.drop place := by
    apply standsAt_iff_of_shared hshared
    rw [List.length_append, List.length_singleton]
    omega
  simp only [begins_iff_exists, hbracket]

theorem firstFrom_iff_of_shared (hshared : shared <+: text)
    (hfits : place + word.length ≤ shared.length) :
    FirstFrom word text origin place ↔ FirstFrom word shared origin place := by
  constructor
  · rintro ⟨hle, hstands, hfirst⟩
    exact ⟨hle, (standsAt_iff_of_shared hshared hfits).1 hstands,
      fun other hother hword => hfirst other hother (hword.of_shared hshared)⟩
  · rintro ⟨hle, hstands, hfirst⟩
    refine ⟨hle, hstands.of_shared hshared, fun other hother hword => ?_⟩
    by_contra hlt
    have hearlier : other + word.length ≤ shared.length := by omega
    exact hlt (hfirst other hother ((standsAt_iff_of_shared hshared hearlier).1 hword))

/-- A mention is come across as well in another text that has the word first at the same places,
as far as the end of the mention. -/
theorem Mention.congr {other : List Char} {reach : Nat} (h : Mention word text origin place)
    (hreach : place + word.length ≤ reach)
    (hfirst : ∀ start first, first + word.length ≤ reach →
      FirstFrom word text start first → FirstFrom word other start first) :
    Mention word other origin place := by
  induction h with
  | here h => exact .here (hfirst _ _ hreach h)
  | behind h hbehind ih =>
    have hle := hbehind.le_and_stands.1
    exact .behind (hfirst _ _ (by omega) h) (ih hreach)

theorem mention_iff_of_shared (hshared : shared <+: text)
    (hfits : place + word.length ≤ shared.length) :
    Mention word text origin place ↔ Mention word shared origin place := by
  constructor
  · intro h
    exact h.congr hfits fun _ _ hfirst => (firstFrom_iff_of_shared hshared hfirst).1
  · intro h
    exact h.congr hfits fun _ _ hfirst => (firstFrom_iff_of_shared hshared hfirst).2

/-- A function starts as well in another text that is the same up to there, as far as mentions and
beginnings of the function go. -/
theorem Start.congr {other : List Char} (h : Start name text origin place)
    (hmention : ∀ here ≤ place, Mention (heading name) text origin here ↔
      Mention (heading name) other origin here)
    (hbegins : ∀ here ≤ place, Begins name (text.drop here) ↔ Begins name (other.drop here)) :
    Start name other origin place := by
  refine ⟨(hmention place le_rfl).1 h.mention, (hbegins place le_rfl).1 h.begins,
    fun here hhere hopens => ?_⟩
  by_contra hlt
  have hle : here ≤ place := by omega
  exact hlt (h.first here ((hmention here hle).2 hhere) ((hbegins here hle).2 hopens))

/-- Where a function starts is settled by the text up to its bracket. -/
theorem start_iff_of_shared (hshared : shared <+: text)
    (hfits : place + (heading name).length < shared.length) :
    Start name text origin place ↔ Start name shared origin place := by
  have hmention (here : Nat) (hle : here ≤ place) : Mention (heading name) text origin here ↔
      Mention (heading name) shared origin here :=
    mention_iff_of_shared hshared (by omega)
  have hbegins (here : Nat) (hle : here ≤ place) :
      Begins name (text.drop here) ↔ Begins name (shared.drop here) :=
    begins_iff_of_shared hshared (by omega)
  constructor
  · intro h
    exact h.congr hmention hbegins
  · intro h
    exact h.congr (fun here hle => (hmention here hle).symm) fun here hle => (hbegins here hle).symm

/-! ### What stands in front -/

/-- No mention of the function starts in the first part of a text that is put together of two. -/
def Unmentioned (name before rest : List Char) : Prop :=
  ∀ place < before.length, ¬ StandsAt (heading name) (before ++ rest) place

instance (word text : List Char) (place : Nat) : Decidable (StandsAt word text place) :=
  inferInstanceAs (Decidable (word <+: text.drop place))

instance (name before rest : List Char) : Decidable (Unmentioned name before rest) :=
  inferInstanceAs (Decidable (∀ place < _, _))

theorem beginning_append_of_unmentioned {before rest : List Char}
    (h : Unmentioned name before rest) :
    beginning name (before ++ rest) = beginning name rest := by
  induction before with
  | nil => rfl
  | cons c before ih =>
    have hhere : ¬ heading name <+: c :: (before ++ rest) := h 0 (Nat.zero_lt_succ _)
    rw [List.cons_append, beginning_of_not_heading hhere]
    exact ih fun place hplace => h (place + 1) (Nat.succ_lt_succ hplace)

theorem body_append_of_unmentioned {before rest : List Char} (h : Unmentioned name before rest) :
    body (before ++ rest) name = body rest name := by
  rw [body_eq, body_eq, beginning_append_of_unmentioned h]

/-! ### What stands behind -/

/-- A front that closes its braces is the shortest one in every text that it is a front of. -/
theorem Shortest.of_isPrefix {depth : Nat} {other : List Char} (h : Shortest depth text front)
    (hfront : front <+: other) : Shortest depth other front := by
  refine ⟨hfront, h.closes, fun shorter hshorter hcloses => ?_⟩
  by_contra hlt
  have hle : shorter.length ≤ front.length := by omega
  have hshort : shorter <+: front := List.prefix_of_prefix_length_le hshorter hfront hle
  exact hlt (h.least shorter (hshort.trans h.isPrefix) hcloses)

/-- A word without braces at the front of a text is a front of what closes its braces there. -/
theorem Shortest.prefix_of_unbraced {depth : Nat} (h : Shortest depth text front)
    (hword : word <+: text) (hopen : '{' ∉ word) (hclose : '}' ∉ word) : word <+: front := by
  rcases List.prefix_or_prefix_of_prefix hword h.isPrefix with hshort | hlong
  · exact hshort
  · rcases h.closes.braced with hbrace | hbrace
    · exact absurd (hlong.subset hbrace) hopen
    · exact absurd (hlong.subset hbrace) hclose

theorem Begins.of_shortest {depth : Nat} (hopen : '{' ∉ name) (hclose : '}' ∉ name)
    (h : Begins name text) (hshortest : Shortest depth text front) : Begins name front := by
  have hplain : ∀ bracket ∈ ['(', '<'], '{' ≠ bracket ∧ '}' ≠ bracket := by simp
  obtain ⟨bracket, hbracket, hword⟩ := begins_iff_exists.1 h
  refine begins_iff_exists.2 ⟨bracket, hbracket, hshortest.prefix_of_unbraced hword ?_ ?_⟩
  · simp [heading, hopen, (hplain bracket hbracket).1]
  · simp [heading, hclose, (hplain bracket hbracket).2]

theorem Begins.length_lt (h : Begins name text) : (heading name).length < text.length := by
  obtain ⟨bracket, -, hword⟩ := begins_iff_exists.1 h
  have hle := hword.length_le
  rw [List.length_append, List.length_singleton] at hle
  omega

/-! ### Whole functions -/

/-- The source, parted at the front and at the end of what is found of a function. -/
theorem exists_surroundings (hbody : body source name = some front) :
    ∃ before after, before ++ front ++ after = source ∧ Start name source 0 before.length ∧
      Begins name (front ++ after) ∧ Shortest 0 (front ++ after) front := by
  obtain ⟨place, hstart, hshortest⟩ := body_eq_some_iff.1 hbody
  obtain ⟨after, hafter⟩ := hshortest.isPrefix
  have hlength : (source.take place).length = place := by
    have hlt := hstart.begins.length_lt
    rw [List.length_drop] at hlt
    rw [List.length_take]
    omega
  refine ⟨source.take place, after, ?_, ?_, ?_, ?_⟩
  · rw [List.append_assoc, hafter, List.take_append_drop]
  · rwa [hlength]
  · rw [hafter]
    exact hstart.begins
  · rwa [hafter]

/-- A function that starts at the front of what closes its braces is found there, whatever stands
behind: all that settles where it starts stands in front of its last brace. -/
theorem body_of_start (before : List Char) {after : List Char} (hbegins : Begins name front)
    (hshortest : Shortest 0 text front)
    (hstart : Start name (before ++ front ++ after) 0 before.length) (other : List Char) :
    body (before ++ front ++ other) name = some front := by
  have hfits : before.length + (heading name).length < (before ++ front).length := by
    rw [List.length_append]
    exact Nat.add_lt_add_left hbegins.length_lt before.length
  have hfront : Start name (before ++ front) 0 before.length :=
    (start_iff_of_shared (List.prefix_append _ after) hfits).1 hstart
  have hother : Start name (before ++ front ++ other) 0 before.length :=
    (start_iff_of_shared (List.prefix_append _ other) hfits).2 hfront
  refine body_eq_some_iff.2 ⟨before.length, hother, hshortest.of_isPrefix ⟨other, ?_⟩⟩
  rw [List.append_assoc, List.drop_left]

/-- What is found of a function, if its name has no braces, is found again wherever it stands and no
mention starts in front of it, and so in what was found itself. What stands behind it in the source
never counts, and neither does what stands in front of the first mention. -/
theorem body_surrounded (source name front : List Char) (hopen : '{' ∉ name) (hclose : '}' ∉ name)
    (hbody : body source name = some front) :
    (∀ before after, Unmentioned name before (front ++ after) →
      body (before ++ front ++ after) name = some front) ∧
    body front name = some front ∧
    (∃ before after, before ++ front ++ after = source ∧ Start name source 0 before.length ∧
      ∀ other, body (before ++ front ++ other) name = some front) ∧
    ∀ before rest, before ++ rest = source → Unmentioned name before rest →
      ∀ other, Unmentioned name other rest → body (other ++ rest) name = some front := by
  obtain ⟨before, after, hsource, hstart, hbegins, hshortest⟩ := exists_surroundings hbody
  have hfront : Begins name front := hbegins.of_shortest hopen hclose hshortest
  have halone : Start name (front ++ []) 0 0 := by
    rw [List.append_nil]
    exact (start_of_begins hfront).2 rfl
  refine ⟨fun before after hbefore => ?_, ?_, ⟨before, after, hsource, hstart, ?_⟩, ?_⟩
  · rw [List.append_assoc, body_append_of_unmentioned hbefore]
    exact body_of_start [] hfront hshortest halone after
  · simpa using body_of_start [] hfront hshortest halone []
  · rw [← hsource] at hstart
    exact body_of_start before hfront hshortest hstart
  · rintro before rest rfl hbefore other hother
    rw [body_append_of_unmentioned hother, ← body_append_of_unmentioned hbefore]
    exact hbody

/-- The function that stands behind a mention of it. -/
def mentioned : List Char := "fn a<T> \x7b '€' \x7b \x7d \x7d".toList

/-- The function is put between the end of another one and the beginning of a second one of its
name. The keyword in front of it makes no mention. -/
theorem body_surrounded_mention :
    ('{' ∉ "a".toList ∧ '}' ∉ "a".toList ∧ body mentionedTwice "a".toList = some mentioned) ∧
    Unmentioned "a".toList "\x7d fn ".toList (mentioned ++ "\x7d fn a() \x7b".toList) ∧
    body ("\x7d fn ".toList ++ mentioned ++ "\x7d fn a() \x7b".toList) "a".toList =
      some mentioned := by
  have hopen : '{' ∉ "a".toList := by decide
  have hclose : '}' ∉ "a".toList := by decide
  have hbody : body mentionedTwice "a".toList = some mentioned := by cbv
  have hbefore : Unmentioned "a".toList "\x7d fn ".toList
      (mentioned ++ "\x7d fn a() \x7b".toList) := by
    decide
  obtain ⟨hsurrounded, -⟩ := body_surrounded mentionedTwice "a".toList mentioned hopen hclose hbody
  exact ⟨⟨hopen, hclose, hbody⟩, hbefore, hsurrounded _ _ hbefore⟩

end Seek.Drift
