import Seek.Session
import Seek.Proofs.Element
import Seek.Proofs.Search.Found
import Seek.Proofs.Search.Safety

/-!
What every session keeps: the held sequence is in order. One command keeps it (`inOrder_step`), so
every run of commands does (`inOrder_after`). Main statement: in every state that a run from the
empty sequence reaches, refusals leave what they should, the held items pass both tests of order
again, and binary search agrees with looking at every element (`fits` there says that the length is
a word, as positions are).
-/

namespace Seek.Session

variable {α : Type}

/-! ### Holding and answering -/

/-- A refusal leaves the sequence to fall back on. -/
theorem hold_of_refused {fallback : Sorted α} {result : Except Refusal (Sorted α)}
    {refusal : Refusal} (h : (hold fallback result).2 = .refused refusal) :
    (hold fallback result).1 = fallback := by
  cases result with
  | ok next => cases h
  | error => rfl

theorem hold_ne_stopped {fallback : Sorted α} {result : Except Refusal (Sorted α)} {fault : Fault} :
    (hold fallback result).2 ≠ .stopped fault := by
  cases result <;> simp [hold]

theorem holdChecked_ne_stopped {fallback : Sorted α} {result : Checked (Sorted α)} {fault : Fault}
    (h : result ≠ .error fault) : (holdChecked fallback result).2 ≠ .stopped fault := by
  cases result with
  | ok next => simp [holdChecked]
  | error other => simpa [holdChecked] using h

theorem reply_ne_stopped {β : Type} {make : β → Reply α} {answer : Checked β} {fault : Fault}
    (hmake : ∀ b, make b ≠ .stopped fault) (h : answer ≠ .error fault) :
    reply make answer ≠ .stopped fault := by
  cases answer with
  | ok b => exact hmake b
  | error other => simpa [reply] using h

theorem map_ne_error {β γ : Type} {f : β → γ} {answer : Checked β} {fault : Fault}
    (h : answer ≠ .error fault) : answer.map f ≠ .error fault := by
  cases answer with
  | ok b => exact fun hok => nomatch hok
  | error other => simpa [Except.map] using h

/-! ### Order -/

variable [Ord α]

theorem inOrder_hold {fallback : Sorted α} {result : Except Refusal (Sorted α)}
    (hfallback : InOrder fallback.items) (h : ∀ next, result = .ok next → InOrder next.items) :
    InOrder (hold fallback result).1.items := by
  cases result with
  | ok next => exact h next rfl
  | error refusal => exact hfallback

theorem inOrder_holdChecked {fallback : Sorted α} {result : Checked (Sorted α)}
    (hfallback : InOrder fallback.items) (h : ∀ next, result = .ok next → InOrder next.items) :
    InOrder (holdChecked fallback result).1.items := by
  cases result with
  | ok next => exact h next rfl
  | error fault => exact hfallback

section Step

variable [BEq α] [Shown α] [Std.TransOrd α]

/-- Every command keeps the held sequence in order, also one that fails. -/
theorem inOrder_step {held : Sorted α} (h : InOrder held.items) (command : Command α) :
    InOrder (step held command).1.items := by
  cases command with
  | validate items => exact inOrder_hold h fun _ => Sorted.inOrder_of_validate
  | sort items => exact inOrder_holdChecked h fun _ => Sorted.inOrder_of_sort
  | append items => exact inOrder_hold inOrder_empty fun _ => Sorted.inOrder_of_validate
  | merge items => exact inOrder_holdChecked inOrder_empty fun _ => Sorted.inOrder_of_sort
  | reset => exact inOrder_empty
  | release => exact inOrder_empty
  | _ => exact h

theorem inOrder_after {held : Sorted α} (h : InOrder held.items) :
    ∀ commands : List (Command α), InOrder (after held commands).items
  | [] => h
  | command :: commands => inOrder_after (inOrder_step h command) commands

/-- No command comes across a sorted sequence that is out of order. -/
theorem step_ne_notSorted (held : Sorted α) (command : Command α) :
    (step held command).2 ≠ .stopped .notSorted := by
  have hposition := Search.position_ne_notSorted held.items
  cases command with
  | validate items => exact hold_ne_stopped
  | append items => exact hold_ne_stopped
  | sort items => exact holdChecked_ne_stopped (Sorted.sort_ne_error items)
  | merge items => exact holdChecked_ne_stopped (Sorted.sort_ne_error (held.items ++ items))
  | equals items => exact reply_ne_stopped (by simp) (Sorted.sort_ne_error items)
  | position target => exact reply_ne_stopped (by simp) (hposition target)
  | index target => exact reply_ne_stopped (by simp) (map_ne_error (hposition target))
  | _ => simp [step]

end Step

/-! ### Lookup -/

/-- On a sequence in order, binary search finds what looking at every element finds. -/
theorem exists_position_iff_contains [BEq α] [Std.TransOrd α] [Std.LawfulBEqOrd α]
    {held : Sorted α} (h : InOrder held.items) (fits : held.items.size < UInt64.size)
    (target : α) :
    (∃ index, held.position target = .ok (some index) ∧
      ∃ inside : index.toNat < held.items.size, (held.items[index.toNat] == target) = true) ↔
      held.contains target = true := by
  have hsome := Search.isSome_find?_iff fits (Search.parted_of_inOrder h target)
  have hpos : held.position target = _ := Search.position_eq_find? fits
  have hcontains : held.contains target = true ↔ ∃ x ∈ held.items, compare x target = .eq := by
    rw [Sorted.contains, Array.any_eq_true']
    simp only [Std.compare_eq_iff_beq]
  rw [hcontains, ← hsome]
  constructor
  · rintro ⟨index, hindex, -⟩
    rw [Except.ok.inj (hpos.symm.trans hindex)]
    rfl
  · intro hfound
    obtain ⟨index, hfind⟩ := Option.isSome_iff_exists.1 hfound
    rw [hfind] at hpos
    obtain ⟨inside, -, hbeq⟩ := Search.hit_of_position_eq fits hpos
    exact ⟨index, hpos, inside, hbeq⟩

/-! ### Reachable states -/

/-- The states that a run of commands leads to from the empty sequence. -/
def Reachable [BEq α] [Shown α] (held : Sorted α) : Prop :=
  ∃ commands, after .empty commands = held

theorem Reachable.inOrder [BEq α] [Shown α] [Std.TransOrd α] {held : Sorted α}
    (reachable : Reachable held) : InOrder held.items := by
  obtain ⟨commands, rfl⟩ := reachable
  exact inOrder_after inOrder_empty commands

/-- In every reachable state the held sequence is in order, a refusal leaves it alone or leaves the
empty one, it passes both tests of order again, and binary search agrees with looking everywhere. -/
theorem reachable_invariant [BEq α] [Shown α] [Std.TransOrd α] {held : Sorted α}
    (reachable : Reachable held) :
    InOrder held.items ∧
    (∀ items refusal, (step held (.validate items)).2 = .refused refusal →
      (step held (.validate items)).1 = held) ∧
    (∀ items refusal, (step held (.append items)).2 = .refused refusal →
      (step held (.append items)).1 = .empty) ∧
    Sorted.validate held.items = .ok held ∧
    Contract.checkSorted held.items = .ok () ∧
    (∀ command, (step held command).2 ≠ .stopped .notSorted) ∧
    (Std.LawfulBEqOrd α → held.items.size < UInt64.size → ∀ target,
      (∃ answer, held.position target = .ok answer) ∧
      ((∃ index, held.position target = .ok (some index) ∧
        ∃ inside : index.toNat < held.items.size, (held.items[index.toNat] == target) = true) ↔
        held.contains target = true)) := by
  have ordered : InOrder held.items := by
    obtain ⟨commands, rfl⟩ := reachable
    exact inOrder_after inOrder_empty commands
  refine ⟨ordered, fun _ _ => hold_of_refused, fun _ _ => hold_of_refused,
    Sorted.validate_eq_ok_iff.2 ⟨rfl, ordered⟩, checkSorted_eq_ok_iff.2 ordered,
    step_ne_notSorted held, fun lawful fits target => ?_⟩
  exact ⟨⟨_, Search.position_eq_find? fits⟩, exists_position_iff_contains ordered fits target⟩

/-- A state that is reached past a refusal, with two elements that are equal and not the same. -/
theorem reachable_invariant_keyed :
    Reachable (⟨#[⟨1, "c"⟩, ⟨2, "a"⟩, ⟨2, "b"⟩]⟩ : Sorted Keyed) ∧
    ∃ index, (⟨#[⟨1, "c"⟩, ⟨2, "a"⟩, ⟨2, "b"⟩]⟩ : Sorted Keyed).position ⟨2, "d"⟩ =
      .ok (some index) := by
  have reachable : Reachable (⟨#[⟨1, "c"⟩, ⟨2, "a"⟩, ⟨2, "b"⟩]⟩ : Sorted Keyed) := by
    exact ⟨[.append #[⟨1, "c"⟩, ⟨2, "a"⟩], .validate #[⟨4, "x"⟩, ⟨3, "y"⟩], .append #[⟨2, "b"⟩]], rfl⟩
  obtain ⟨-, -, -, -, -, -, hlookup⟩ := reachable_invariant reachable
  have hcontains : (⟨#[⟨1, "c"⟩, ⟨2, "a"⟩, ⟨2, "b"⟩]⟩ : Sorted Keyed).contains ⟨2, "d"⟩ = true :=
    Array.any_eq_true'.2 ⟨⟨2, "a"⟩, by simp, by decide⟩
  obtain ⟨index, hindex, -⟩ := (hlookup inferInstance (by decide) ⟨2, "d"⟩).2.2 hcontains
  exact ⟨reachable, index, hindex⟩

end Seek.Session
