import Seek.Bounded
import Seek.Command
import Seek.IndexPair.Reader
import Seek.Main
import Seek.PairSum
import Seek.Session
import Seek.Task
import Seek.Proofs.Search.Turn
import Seek.Proofs.Search.Trace
import Seek.Proofs.Search.Found
import Seek.Proofs.Element
import Seek.Proofs.Search.Safety
import Seek.Proofs.PairSum.Least
import Seek.Proofs.Session.Invariant
import Seek.Proofs.Search.Index
import Seek.Proofs.Sorted.Descent
import Seek.Proofs.Sorted.Stable
import Seek.Proofs.Sorted.Rank
import Seek.Proofs.Drift.Comment
import Seek.Proofs.Drift.Function
import Seek.Proofs.Drift.Legible
import Seek.Proofs.Bind
import Seek.Proofs.Command.Outcome
import Seek.Proofs.Command.CheckedSearch
import Seek.Proofs.Command.Numeral
import Seek.Proofs.Command.Item
import Seek.Proofs.Command.Reading
import Seek.Proofs.Command.Invocation
import Seek.Proofs.Bounded.Agreement
import Seek.Proofs.Json.Grammar
import Seek.Proofs.Json.Quoted
import Seek.Proofs.Json.Numeral
import Seek.Proofs.Json.Skip
import Seek.Proofs.IndexPair.Reading
import Seek.Proofs.Command.Ending
import Seek.Proofs.IndexPair.RoundTrip
import Seek.Proofs.IndexPair.Increasing
import Seek.Proofs.Command.Front
import Seek.Proofs.Text.Unstyled
import Seek.Proofs.Log.Deciding
import Seek.Proofs.Log.Reading
import Seek.Proofs.Command.Form
import Seek.Proofs.Command.Output
import Seek.Proofs.Command.Styles
import Seek.Proofs.Command.Events
import Seek.Proofs.Search.Gap
import Seek.Proofs.Search.Halving
import Seek.Proofs.Search.Alike
import Seek.Proofs.Search.Probes
import Seek.Proofs.Task.Run
import Seek.Proofs.Task.Verification
import Seek.Proofs.Session.Append
import Seek.Proofs.Sorted.Canonical
import Seek.Proofs.Drift.Mention
import Seek.Proofs.PairSum.Related
import Seek.Proofs.Drift.Closing
import Seek.Proofs.Drift.Surroundings
import Seek.Proofs.Drift.Layout
import Seek.Proofs.Drift.Literal
