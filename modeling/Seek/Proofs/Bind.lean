/-!
Computations one after the other, each of which may have no result. What goes on from a result
counts only where there is one, and a list of computations has a result exactly where all of them
do.
-/

namespace Seek

section Except

variable {ε α β : Type} {x : Except ε α}

theorem bind_eq_ok_iff {f : α → Except ε β} {b : β} :
    x >>= f = .ok b ↔ ∃ a, x = .ok a ∧ f a = .ok b := by
  cases x with
  | error => simp [bind, Except.bind]
  | ok => simp [bind, Except.bind]

theorem bind_congr_of_ok {f g : α → Except ε β} (h : ∀ a, x = .ok a → f a = g a) :
    x >>= f = x >>= g := by
  cases x with
  | error e => rfl
  | ok a => exact h a rfl

theorem forM_eq_ok_iff {l : List α} {f : α → Except ε Unit} :
    l.forM f = .ok () ↔ ∀ a ∈ l, f a = .ok () := by
  rw [List.forM_eq_forM]
  induction l with
  | nil => simp [pure, Except.pure]
  | cons a l ih =>
    rw [List.forM_cons, bind_eq_ok_iff, List.forall_mem_cons, ← ih]
    exact ⟨fun ⟨(), h⟩ => h, fun h => ⟨(), h⟩⟩

theorem mapError_eq_ok_iff {ε' : Type} {f : ε → ε'} {a : α} :
    x.mapError f = .ok a ↔ x = .ok a := by
  cases x with
  | error => exact iff_of_false nofun nofun
  | ok b =>
    change Except.ok b = Except.ok a ↔ Except.ok b = Except.ok a
    rw [Except.ok.injEq, Except.ok.injEq]

/-- What a computation fails with, if it fails. -/
def error? : Except ε α → Option ε
  | .ok _ => none
  | .error e => some e

/-- Of two computations, the first that fails counts. -/
theorem error?_bind {x y : Except ε Unit} :
    error? (x >>= fun _ => y) = (error? x).or (error? y) := by
  cases x <;> rfl

theorem error?_mapError {ε' : Type} {f : ε → ε'} :
    error? (x.mapError f) = (error? x).map f := by
  cases x <;> rfl

end Except

section Option

variable {α β : Type} {f : α → Option β} {l : List α}

end Option

end Seek
