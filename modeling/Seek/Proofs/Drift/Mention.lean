import Seek.Proofs.Drift.Function

/-!
Mentions of a function. A text is read from the left, and where the heading of a function stands,
it is read on behind it: a mention that overlaps the one before it is not come across (`Mention`).
The search for the function is a walk over its mentions, to the first one with a bracket behind it
(`beginning_eq_some_iff`). Where no end of the heading is also its front, mentions cannot overlap,
and none is passed over (`mention_iff`).
-/

namespace Seek.Drift

variable {word text name source rest : List Char} {origin place : Nat}

/-! ### Mentions -/

/-- The word stands in the text at this place. -/
def StandsAt (word text : List Char) (place : Nat) : Prop := word <+: text.drop place

/-- The first place from `origin` on where the word stands. -/
structure FirstFrom (word text : List Char) (origin place : Nat) : Prop where
  le : origin ≤ place
  stands : StandsAt word text place
  first : ∀ other, origin ≤ other → StandsAt word text other → place ≤ other

/-- The places where a word is come across when the text is read from `origin` on: the first place
where it stands, and from behind the word the next ones. -/
inductive Mention (word text : List Char) : Nat → Nat → Prop
  | here {origin place : Nat} : FirstFrom word text origin place → Mention word text origin place
  | behind {origin place later : Nat} : FirstFrom word text origin place →
    Mention word text (place + word.length) later → Mention word text origin later

theorem Mention.le_and_stands (h : Mention word text origin place) :
    origin ≤ place ∧ StandsAt word text place := by
  induction h with
  | here h => exact ⟨h.le, h.stands⟩
  | behind h _ ih => exact ⟨Nat.le_trans h.le (Nat.le_of_add_right_le ih.1), ih.2⟩

theorem FirstFrom.eq_of_stands (h : FirstFrom word text origin place)
    (hstands : StandsAt word text origin) : place = origin :=
  Nat.le_antisymm (h.first origin (Nat.le_refl origin) hstands) h.le

/-- A word that stands here is come across, and then what is behind it. -/
theorem mention_of_stands (h : StandsAt word text origin) : Mention word text origin place ↔
    place = origin ∨ Mention word text (origin + word.length) place := by
  have hhere : FirstFrom word text origin origin := ⟨Nat.le_refl origin, h, fun _ hle _ => hle⟩
  constructor
  · intro hmention
    cases hmention with
    | here hfirst => exact .inl (hfirst.eq_of_stands h)
    | behind hfirst hbehind =>
      obtain rfl := hfirst.eq_of_stands h
      exact .inr hbehind
  · rintro (rfl | hbehind)
    · exact .here hhere
    · exact .behind hhere hbehind

theorem firstFrom_succ_iff (h : ¬ StandsAt word text origin) :
    FirstFrom word text origin place ↔ FirstFrom word text (origin + 1) place := by
  have later {other : Nat} (hle : origin ≤ other) (hstands : StandsAt word text other) :
      origin + 1 ≤ other := by
    rcases Nat.lt_or_eq_of_le hle with hlt | rfl
    · exact hlt
    · exact absurd hstands h
  constructor
  · rintro ⟨hle, hstands, hfirst⟩
    exact ⟨later hle hstands, hstands, fun other hother => hfirst other (Nat.le_of_succ_le hother)⟩
  · rintro ⟨hle, hstands, hfirst⟩
    exact ⟨Nat.le_of_succ_le hle, hstands,
      fun other hother hword => hfirst other (later hother hword) hword⟩

/-- A character at which the word does not stand is passed over. -/
theorem mention_of_not_stands (h : ¬ StandsAt word text origin) :
    Mention word text origin place ↔ Mention word text (origin + 1) place := by
  constructor
  · intro hmention
    cases hmention with
    | here hfirst => exact .here ((firstFrom_succ_iff h).1 hfirst)
    | behind hfirst hbehind => exact .behind ((firstFrom_succ_iff h).1 hfirst) hbehind
  · intro hmention
    cases hmention with
    | here hfirst => exact .here ((firstFrom_succ_iff h).2 hfirst)
    | behind hfirst hbehind => exact .behind ((firstFrom_succ_iff h).2 hfirst) hbehind

/-! ### The search is a walk over the mentions -/

/-- Where the function of this name starts, in a text that is read from `origin` on: at the first
mention of it with a bracket behind. -/
structure Start (name source : List Char) (origin place : Nat) : Prop where
  mention : Mention (heading name) source origin place
  begins : Begins name (source.drop place)
  first : ∀ other, Mention (heading name) source origin other → Begins name (source.drop other) →
    place ≤ other

/-- There is one place at most where the function starts. -/
theorem Start.unique {other : Nat} (h : Start name source origin place)
    (hother : Start name source origin other) : place = other :=
  Nat.le_antisymm (h.first other hother.mention hother.begins)
    (hother.first place h.mention h.begins)

theorem Begins.stands (h : Begins name (source.drop place)) :
    StandsAt (heading name) source place :=
  h.exists_append

/-- Reading from another place on, the function starts where it did if no mention with a bracket is
lost and none is won. -/
theorem start_congr {next : Nat} (h : ∀ other, Begins name (source.drop other) →
      (Mention (heading name) source origin other ↔ Mention (heading name) source next other)) :
    Start name source origin place ↔ Start name source next place := by
  constructor
  · rintro ⟨hmention, hbegins, hfirst⟩
    exact ⟨(h place hbegins).1 hmention, hbegins,
      fun other hother hbracket => hfirst other ((h other hbracket).2 hother) hbracket⟩
  · rintro ⟨hmention, hbegins, hfirst⟩
    exact ⟨(h place hbegins).2 hmention, hbegins,
      fun other hother hbracket => hfirst other ((h other hbracket).1 hother) hbracket⟩

/-- Where the function begins here, it starts here. -/
theorem start_of_begins (h : Begins name (source.drop origin)) :
    Start name source origin place ↔ place = origin := by
  have hmention : Mention (heading name) source origin origin :=
    (mention_of_stands h.stands).2 (.inl rfl)
  constructor
  · intro hstart
    exact Nat.le_antisymm (hstart.first origin hmention h) hstart.mention.le_and_stands.1
  · rintro rfl
    exact ⟨hmention, h, fun other hother _ => hother.le_and_stands.1⟩

/-- A mention without a bracket does not count, and what overlaps it is not come across. -/
theorem start_of_stands (hstands : StandsAt (heading name) source origin)
    (h : ¬ Begins name (source.drop origin)) :
    Start name source origin place ↔
      Start name source (origin + (heading name).length) place := by
  refine start_congr fun other hbracket => ?_
  rw [mention_of_stands hstands, or_iff_right]
  rintro rfl
  exact h hbracket

theorem start_of_not_stands (h : ¬ StandsAt (heading name) source origin) :
    Start name source origin place ↔ Start name source (origin + 1) place :=
  start_congr fun _ _ => mention_of_not_stands h

theorem not_start_of_length_le (h : source.length ≤ origin) :
    ¬ Start name source origin place := by
  intro hstart
  obtain ⟨hle, hstands⟩ := hstart.mention.le_and_stands
  rw [StandsAt, List.drop_eq_nil_of_le (Nat.le_trans h hle), List.prefix_nil] at hstands
  cases hstands

/-- The search finds the text from where the function starts, and nothing where it does not. -/
theorem beginning_drop_eq_some_iff (name source : List Char) (origin : Nat) :
    beginning name (source.drop origin) = some rest ↔
      ∃ place, Start name source origin place ∧ source.drop place = rest := by
  induction hn : source.length - origin using Nat.strongRecOn generalizing origin with
  | _ n ih =>
    subst hn
    by_cases hend : source.length ≤ origin
    · rw [List.drop_eq_nil_of_le hend, beginning]
      simp [not_start_of_length_le hend]
    have hlt : origin < source.length := Nat.lt_of_not_le hend
    by_cases hstands : StandsAt (heading name) source origin
    · have hfront : ∃ behind, heading name ++ behind = source.drop origin := hstands
      obtain ⟨behind, hbehind⟩ := hfront
      have hdrop : source.drop (origin + (heading name).length) = behind := by
        rw [← List.drop_drop, ← hbehind, List.drop_left]
      have hshorter : source.length - (origin + (heading name).length) < source.length - origin := by
        simp only [heading, List.length_cons]
        omega
      have hbegins : Begins name (source.drop origin) ↔ opensSignature behind = true := by
        rw [← hbehind]
        exact begins_append_iff
      rw [← hbehind, beginning_heading_append]
      by_cases hbracket : opensSignature behind = true
      · simp only [if_pos hbracket, start_of_begins (hbegins.2 hbracket), exists_eq_left,
          Option.some.injEq, hbehind]
      · rw [if_neg hbracket, ← hdrop, ih _ hshorter _ rfl]
        simp only [start_of_stands hstands (mt hbegins.1 hbracket)]
    · have hfront : ¬ heading name <+: source[origin] :: source.drop (origin + 1) := by
        rwa [← List.drop_eq_getElem_cons hlt]
      rw [List.drop_eq_getElem_cons hlt, beginning_of_not_heading hfront, ih _ (by omega) _ rfl]
      simp only [start_of_not_stands hstands]

theorem beginning_eq_some_iff : beginning name source = some rest ↔
    ∃ place, Start name source 0 place ∧ source.drop place = rest :=
  beginning_drop_eq_some_iff name source 0

/-! ### Headings that do not overlap -/

/-- No end of the word is also its front, apart from the empty one and the word itself. -/
def Unbordered (word : List Char) : Prop :=
  ∀ part, part <+: word → part <:+ word → part = [] ∨ part = word

/-- A word with a letter at its front that does not come again has no such end. -/
theorem unbordered_cons {c : Char} {cs : List Char} (h : c ∉ cs) : Unbordered (c :: cs) := by
  intro part hfront hsuffix
  rcases List.prefix_cons_iff.1 hfront with rfl | ⟨front, rfl, -⟩
  · exact .inl rfl
  · rcases List.suffix_cons_iff.1 hsuffix with heq | hsuffix
    · exact .inr heq
    · exact absurd (hsuffix.subset List.mem_cons_self) h

/-- Where such a word stands at two places, the second one is behind the word at the first. -/
theorem Unbordered.add_length_le (unbordered : Unbordered word) {later : Nat}
    (hplace : StandsAt word text place) (hlater : StandsAt word text later) (hlt : place < later) :
    place + word.length ≤ later := by
  refine Nat.le_of_not_lt fun hover => ?_
  obtain ⟨behind, hbehind⟩ : ∃ behind, word ++ behind = text.drop place := hplace
  -- The end of the first word, from where the second one stands, is the front of the second one.
  have hdrop : word.drop (later - place) ++ behind = text.drop later := by
    rw [← List.drop_append_of_le_length (by omega), hbehind, List.drop_drop]
    congr 1
    omega
  have hfront : word.drop (later - place) <+: word := by
    refine List.prefix_of_prefix_length_le ⟨behind, hdrop⟩ hlater ?_
    simp
  rcases unbordered _ hfront (List.drop_suffix _ word) with hnil | hsame
  · have hlen := congrArg List.length hnil
    simp only [List.length_drop, List.length_nil] at hlen
    omega
  · have hlen := congrArg List.length hsame
    simp only [List.length_drop] at hlen
    omega

/-- Every place where such a word stands is come across. -/
theorem Unbordered.mention_of_stands_at (unbordered : Unbordered word) (hne : word ≠ [])
    (hle : origin ≤ place) (hplace : StandsAt word text place) : Mention word text origin place := by
  induction hn : place - origin using Nat.strongRecOn generalizing origin with
  | _ n ih =>
    subst hn
    have hpos := List.length_pos_iff.2 hne
    by_cases heq : place = origin
    · subst heq
      exact (mention_of_stands hplace).2 (.inl rfl)
    · by_cases hstands : StandsAt word text origin
      · have hbehind := unbordered.add_length_le hstands hplace (by omega)
        exact (mention_of_stands hstands).2 (.inr (ih _ (by omega) hbehind rfl))
      · exact (mention_of_not_stands hstands).2 (ih _ (by omega) (by omega) rfl)

/-- Such a function starts at the leftmost place where it begins. -/
theorem start_iff_of_unbordered (unbordered : Unbordered (heading name)) :
    Start name source 0 place ↔ Begins name (source.drop place) ∧
      ∀ other, Begins name (source.drop other) → place ≤ other := by
  have hmention {other : Nat} (hbegins : Begins name (source.drop other)) :
      Mention (heading name) source 0 other :=
    unbordered.mention_of_stands_at (List.cons_ne_nil _ _) (Nat.zero_le other) hbegins.stands
  constructor
  · rintro ⟨-, hbegins, hfirst⟩
    exact ⟨hbegins, fun other hother => hfirst other (hmention hother) hother⟩
  · rintro ⟨hbegins, hfirst⟩
    exact ⟨hmention hbegins, hbegins, fun other _ hother => hfirst other hother⟩

end Seek.Drift
