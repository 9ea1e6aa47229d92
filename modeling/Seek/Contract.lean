import Seek.Word

/-!
Contracts: what each algorithm promises about its answer, as a check that faults on the first
promise that does not hold. A search promises that its hit holds the target, sorting promises a
sequence without descent, and a pair sum promises two increasing positions whose values sum to the
target.
-/

namespace Seek.Contract

variable {α : Type}

/-- A hit lies in the sequence, and the element there equals the target. -/
def checkHit [BEq α] (xs : Array α) (target : α) (index : UInt64) : Checked Unit :=
  if h : index.toNat < xs.size then
    if xs[index.toNat] == target then .ok () else .error (.hitDiffers index)
  else .error (.hitBeyondEnd index (Word.size xs))

theorem checkHit_of_lt [BEq α] {xs : Array α} {target : α} {index : UInt64}
    (inside : index.toNat < xs.size) :
    checkHit xs target index =
      if xs[index.toNat] == target then .ok () else .error (.hitDiffers index) :=
  dif_pos inside

/-- Each element with the one after it, from the front. -/
def neighbours (xs : Array α) : List (α × α) := xs.toList.zip xs.toList.tail

/-- No element is above the one after it. -/
def checkSorted [Ord α] (xs : Array α) : Checked Unit :=
  if (neighbours xs).all fun pair => (compare pair.1 pair.2).isLE then .ok ()
  else .error .notSorted

/-- Two positions are increasing, lie in the sequence, and hold values that sum to the target.
The sum is formed in a word twice as wide, where it cannot wrap. -/
def checkPair (xs : Array Int32) (target : Int32) (first second : UInt64) : Checked Unit :=
  if first < second then
    if hs : second.toNat < xs.size then
      if hf : first.toNat < xs.size then do
        let left := xs[first.toNat]
        let right := xs[second.toNat]
        let sum ← Word.addSigned left.toInt64 right.toInt64
        if sum = target.toInt64 then .ok () else .error (.sumDiffers left right target)
      else .error (.readBeyondEnd first (Word.size xs))
    else .error (.pairBeyondEnd second (Word.size xs))
  else .error (.pairNotIncreasing first second)

end Seek.Contract
