import Seek.Fault

/-!
The record of a search: the positions whose elements were compared with the target, in the order in
which that happened, and what the search came to.
-/

namespace Seek

/-- What a search did. A fault ends a search but does not undo its probes. -/
structure Run where
  /-- The positions that were compared, first to last. -/
  probes : List UInt64
  /-- The position that holds the target, if one was come across. -/
  outcome : Checked (Option UInt64)
  deriving DecidableEq, Repr

/-- The search ends here, with no further probe. -/
def Run.stop (outcome : Checked (Option UInt64)) : Run := ⟨[], outcome⟩

/-- The same run, with one probe made before it. -/
def Run.after (probe : UInt64) (run : Run) : Run := ⟨probe :: run.probes, run.outcome⟩

@[simp] theorem Run.probes_stop (outcome : Checked (Option UInt64)) :
    (Run.stop outcome).probes = [] := rfl

@[simp] theorem Run.outcome_stop (outcome : Checked (Option UInt64)) :
    (Run.stop outcome).outcome = outcome := rfl

@[simp] theorem Run.probes_after (probe : UInt64) (run : Run) :
    (run.after probe).probes = probe :: run.probes := rfl

@[simp] theorem Run.outcome_after (probe : UInt64) (run : Run) :
    (run.after probe).outcome = run.outcome := rfl

end Seek
