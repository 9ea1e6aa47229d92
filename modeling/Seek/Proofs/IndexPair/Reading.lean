import Seek.Proofs.IndexPair.Members

/-!
Which texts are pairs. A pair is written as a list of its two positions, or as an object whose
members tell each of them once (`Writes`). Main statement: the reader takes exactly the texts that
write two positions, with any space around, and answers what they write (`ofJson_eq_ok_iff`).
-/

namespace Seek.IndexPair

open Json

/-- The text writes the positions: it lists them both, or it is an object in which one member tells
each of them, whatever else it tells, and in which every key spells a text. -/
inductive Writes (i j : Nat) : List Char → Prop
  | list {first second cs : List Char} : Natural first i → Natural second j →
    Json.Written (.items [first, second]) cs → Writes i j ('[' :: (cs ++ [']']))
  | object {members : List Member} {cs : List Char} :
    (∀ member ∈ members, ∃ key, Text.Spells member.key key) →
    Once Field.first.key.toList i members → Once Field.second.key.toList j members →
    Json.Written (.members members) cs → Writes i j ('{' :: (cs ++ ['}']))

/-- The text writes the positions, with any space around. -/
def Denotes (text : List Char) (i j : Nat) : Prop :=
  ∃ gap front behind, Blank gap ∧ Writes i j front ∧ Blank behind ∧ text = gap ++ (front ++ behind)

/-! ### Lists -/

theorem readList_eq_ok_iff {cs rest : List Char} {pair : IndexPair} :
    readList cs = .ok (pair, rest) ↔ ∃ behindFirst behindComma behindSecond,
      readPosition cs = .ok (pair.first, behindFirst) ∧ skipSpace behindFirst = ',' :: behindComma ∧
      readPosition behindComma = .ok (pair.second, behindSecond) ∧
      skipSpace behindSecond = ']' :: rest := by
  constructor
  · intro h
    unfold readList at h
    split at h
    · cases h
    · obtain ⟨⟨first, behindFirst⟩, hfirst, h⟩ := bind_eq_ok_iff.1 h
      rw [readPosition_skipSpace] at hfirst
      dsimp only at h
      split at h
      · cases h
      · rename_i behindComma hcomma
        obtain ⟨⟨second, behindSecond⟩, hsecond, h⟩ := bind_eq_ok_iff.1 h
        dsimp only at h
        split at h
        · rename_i hend
          cases h
          exact ⟨_, _, _, hfirst, hcomma, hsecond, hend⟩
        · cases h
      · cases h
  · rintro ⟨behindFirst, behindComma, behindSecond, hfirst, hcomma, hsecond, hend⟩
    unfold readList
    split
    · rename_i hclosed
      simp [readPosition, hclosed, Found.read, Numeral.read_cons_eq_none] at hfirst
    · simp [readPosition_skipSpace, hfirst, hcomma, hsecond, hend, bind, Except.bind]

theorem exists_of_readList {cs rest : List Char} {pair : IndexPair}
    (h : readList cs = .ok (pair, rest)) :
    ∃ body, Writes pair.first.toNat pair.second.toNat ('[' :: (body ++ [']'])) ∧
      cs = body ++ ']' :: rest := by
  obtain ⟨behindFirst, behindComma, behindSecond, hfirst, hcomma, hsecond, hend⟩ :=
    readList_eq_ok_iff.1 h
  obtain ⟨gap, first, hgap, hnatural, rfl⟩ := exists_of_readPosition hfirst
  obtain ⟨gap', hgap', heq⟩ := exists_of_skipSpace behindFirst
  rw [hcomma] at heq
  obtain ⟨space, second, hspace, hnatural', rfl⟩ := exists_of_readPosition hsecond
  obtain ⟨space', hspace', heq'⟩ := exists_of_skipSpace behindSecond
  rw [hend] at heq'
  refine ⟨_, .list hnatural hnatural' (.item (.spaced hgap ?_ hgap')
    (.lastItem (.spaced hspace ?_ hspace'))), ?_⟩
  · exact .numeral (Numeral.written_natural hnatural.1)
  · exact .numeral (Numeral.written_natural hnatural'.1)
  · rw [heq, heq']
    simp

theorem readList_append {first second cs : List Char} {pair : IndexPair}
    (hfirst : Natural first pair.first.toNat) (hsecond : Natural second pair.second.toNat)
    (h : Json.Written (.items [first, second]) cs) (rest : List Char) :
    readList (cs ++ ']' :: rest) = .ok (pair, rest) := by
  cases h with
  | item hspaced hrest =>
  cases hspaced with
  | spaced hfront _ hbehind =>
  cases hrest with
  | item _ hrest => cases hrest
  | lastItem hspaced' =>
  cases hspaced' with
  | spaced hfront' _ hbehind' =>
  simp only [List.append_assoc, List.cons_append]
  refine readList_eq_ok_iff.2 ⟨_, _, _, readPosition_append hfront hfirst ?_,
    skipSpace_gap hbehind rfl _, readPosition_append hfront' hsecond ?_,
    skipSpace_gap hbehind' rfl _⟩
  · exact stops_gap hbehind rfl _
  · exact stops_gap hbehind' rfl _

/-! ### Whole texts -/

theorem exists_of_readObject {cs rest : List Char} {pair : IndexPair}
    (h : readObject cs = .ok (pair, rest)) :
    ∃ body, Writes pair.first.toNat pair.second.toNat ('{' :: (body ++ ['}'])) ∧
      cs = body ++ '}' :: rest := by
  unfold readObject at h
  obtain ⟨gap, hgap, heq⟩ := exists_of_skipSpace cs
  dsimp only at h
  split at h
  · cases h
  · rename_i behind hskip
    obtain ⟨members, after, body, htakes, hpair, hwritten, rfl⟩ := exists_of_readMembers h
    obtain ⟨hkeys, honce⟩ := exists_takesAll_iff.1 ⟨after, htakes, hpair⟩
    refine ⟨_, .object hkeys (honce .first) (honce .second) (members_append hgap hwritten), ?_⟩
    rw [heq, hskip]
    simp
  · cases h

theorem readObject_append {members : List Member} {cs : List Char} {pair : IndexPair}
    (hkeys : ∀ member ∈ members, ∃ key, Text.Spells member.key key)
    (hfirst : Once Field.first.key.toList pair.first.toNat members)
    (hsecond : Once Field.second.key.toList pair.second.toNat members)
    (h : Json.Written (.members members) cs) (rest : List Char) :
    readObject (cs ++ '}' :: rest) = .ok (pair, rest) := by
  have honce : ∀ field, Once field.key.toList (pair.get field).toNat members := by
    intro field
    cases field with
    | first => exact hfirst
    | second => exact hsecond
  obtain ⟨after, htakes, hpair⟩ := exists_takesAll_iff.2 ⟨hkeys, honce⟩
  obtain ⟨gap, body, hgap, rfl, hread⟩ := exists_readMembers h htakes hpair rest
  simp [readObject, skipSpace_gap hgap (c := '"') rfl, hread]

theorem exists_of_readFront {cs rest : List Char} {pair : IndexPair}
    (h : readFront cs = .ok (pair, rest)) :
    ∃ gap front, Blank gap ∧ Writes pair.first.toNat pair.second.toNat front ∧
      cs = gap ++ (front ++ rest) := by
  obtain ⟨gap, hgap, heq⟩ := exists_of_skipSpace cs
  unfold readFront at h
  split at h
  · rename_i hskip
    obtain ⟨body, hwritten, rfl⟩ := exists_of_readList h
    exact ⟨gap, _, hgap, hwritten, by rw [heq, hskip]; simp⟩
  · rename_i hskip
    obtain ⟨body, hwritten, rfl⟩ := exists_of_readObject h
    exact ⟨gap, _, hgap, hwritten, by rw [heq, hskip]; simp⟩
  · split at h <;> cases h

theorem readFront_append {gap front : List Char} {pair : IndexPair} (hgap : Blank gap)
    (h : Writes pair.first.toNat pair.second.toNat front) (rest : List Char) :
    readFront (gap ++ (front ++ rest)) = .ok (pair, rest) := by
  cases h with
  | list hfirst hsecond hitems =>
    simp [readFront, skipSpace_gap hgap (c := '[') rfl, readList_append hfirst hsecond hitems]
  | object hkeys hfirst hsecond hmembers =>
    simp [readFront, skipSpace_gap hgap (c := '{') rfl,
      readObject_append hkeys hfirst hsecond hmembers]

theorem read_eq_ok_iff {cs : List Char} {pair : IndexPair} :
    read cs = .ok pair ↔ Denotes cs pair.first.toNat pair.second.toNat := by
  constructor
  · intro h
    obtain ⟨⟨found, rest⟩, hfront, hend⟩ := bind_eq_ok_iff.1 h
    dsimp only at hend
    split at hend
    · rename_i hempty
      cases hend
      obtain ⟨gap, front, hgap, hwrites, rfl⟩ := exists_of_readFront hfront
      exact ⟨gap, front, rest, hgap, hwrites, isEmpty_skipSpace_iff.1 hempty, rfl⟩
    · cases hend
  · rintro ⟨gap, front, behind, hgap, hwrites, hbehind, rfl⟩
    simp [read, readFront_append hgap hwrites, isEmpty_skipSpace_iff.2 hbehind, bind, Except.bind]

/-- The texts that are read as a pair are those that write its positions, with any space around. -/
theorem ofJson_eq_ok_iff (text : String) (pair : IndexPair) :
    ofJson text = .ok pair ↔ Denotes text.toList pair.first.toNat pair.second.toNat := by
  rw [ofJson]
  exact read_eq_ok_iff

-- An escape in a key, a member of another kind, and space wherever it may stand.
example : (ofJson "\x7b \"x\": [\x7b\x7d, null], \"\\u0066irst\": 7 ,\"second\":0\x7d\n").toOption =
    some ⟨7, 0⟩ := by
  decide +kernel

end Seek.IndexPair
