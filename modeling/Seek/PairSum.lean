import Seek.Contract
import Seek.IndexPair
import Seek.Refusal

/-!
Pair sums: the first two positions of a sequence whose values sum to a target. Every first position
is tried from the front, and for each the positions after it from the front, so the pair that is
found is the least in the order of pairs. Values are 32-bit words, and their sums and differences
are formed in words twice as wide, where none can wrap.
-/

namespace Seek.PairSum

/-- The first position in `rest` that holds `needed`, where `rest` begins at position `start`. -/
def partner (needed : Int64) (start : Nat) (rest : List Int32) : Option Nat :=
  (rest.findIdx? fun value => value.toInt64 == needed).map (start + ·)

/-- Tries each value of `rest`, which begins at position `start`, with each value after it. -/
def scan (xs : Array Int32) (target : Int32) (start : Nat) :
    List Int32 → Checked (Except Refusal IndexPair)
  | [] => .ok (.error .noSolution)
  | value :: rest => do
    let needed ← Word.subSigned target.toInt64 value.toInt64
    match partner needed (start + 1) rest with
    | some other => do
      let pair : IndexPair := ⟨.ofNat start, .ofNat other⟩
      Contract.checkPair xs target pair.first pair.second
      return .ok pair
    | none => scan xs target (start + 1) rest

/-- The least pair of positions whose values sum to `target`. -/
def find (xs : Array Int32) (target : Int32) : Checked (Except Refusal IndexPair) :=
  scan xs target 0 xs.toList

end Seek.PairSum
