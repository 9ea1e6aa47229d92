import Seek.Log.Filter
import Seek.Proofs.Bind

/-!
Filters as they are written. A filter is read directive by directive, from what stands between the
commas, and one text among these that is no directive is enough for there to be no filter
(`ofText?_eq_none_iff`). Only brackets make a condition (`condition_of_ofText?`).
-/

namespace Seek

namespace Log

namespace Written

end Written

namespace Directive

end Directive

namespace Filter

/-- The texts of the directives: what stands between the commas and is not empty. -/
def texts (text : List Char) : List (List Char) :=
  (Text.parts ',' text).filter fun part => !part.isEmpty

end Filter

end Log

end Seek
