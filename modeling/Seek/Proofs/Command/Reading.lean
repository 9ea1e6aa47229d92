import Seek.Proofs.Command.Item

/-!
Items read late and read at once. Main statements: late reading comes to the same as reading one
item after the other, each at once, and has the same first error (`giveAll_words`); items with
numerals in range, no flag twice and one target are all taken (`foldlM_take`), and a numeral out of
range anywhere among them is an error (`exists_wrong_of_not_inRange`).
-/

namespace Seek.Command

/-! ### Reading at once -/

namespace Given

/-- Takes an item at once. -/
def take (given : Given) : Item → Except Stop Given
  | .target _ numeral => given.takeTarget (some numeral.text)
  | .value numeral => do
    let value ← readValue .values numeral.text
    .ok { given with values := given.values ++ [value] }
  | .flag switch =>
    if switch.argument ∈ given.flags then .error (.wrong (.repeated switch.argument))
    else .ok { given with flags := given.flags ++ [switch.argument] }

variable {given next : Given} {item : Item}

theorem settle_of_nothing (h : given.pending = .nothing) : given.settle = .ok given := by
  cases given
  cases h
  rfl

theorem pending_of_takeTarget {text : List Char} (h : given.takeTarget (some text) = .ok next) :
    next.pending = given.pending := by
  rw [takeTarget] at h
  split at h
  · cases h
  · obtain ⟨target, -, hnext⟩ := bind_eq_ok_iff.1 h
    cases hnext
    rfl

theorem pending_of_settle (h : given.settle = .ok next) : next.pending = .nothing := by
  unfold settle at h
  split at h
  · cases h
    rfl
  · rename_i value _
    cases value with
    | none => cases h
    | some text => exact pending_of_takeTarget h
  · obtain ⟨values, -, hnext⟩ := bind_eq_ok_iff.1 h
    cases hnext
    rfl

/-! One thing that is given, and then what is pending looked at. -/

/-- A value begins a run of its own, unless it continues one or a target waits for it. -/
theorem giveWord_eq_settle (hvalues : ¬ ∃ texts, given.pending = .values texts)
    (htarget : given.pending ≠ .target none) (text : List Char) :
    given.giveWord false text =
      given.settle >>= fun given => .ok { given with pending := .values [text] } := by
  unfold giveWord
  split
  · rename_i hpending _
    exact absurd hpending htarget
  · rename_i hpending
    exact absurd ⟨_, hpending⟩ hvalues
  · rfl

theorem settle_values (hpending : given.pending = .nothing) (numeral : Numeral) :
    settle { given with pending := .values [numeral.text] } = given.take (.value numeral) := by
  simp only [take, settle, bind, Except.bind, List.mapM_cons, List.mapM_nil]
  cases readValue .values numeral.text with
  | error stop => rfl
  | ok value => simp [pure, Except.pure, hpending]

/-- A value goes behind what is pending: into its run if that is a run of values. -/
theorem settle_giveWord (htarget : given.pending ≠ .target none) (numeral : Numeral) :
    given.giveWord false numeral.text >>= settle =
      given.settle >>= fun given => given.take (.value numeral) := by
  by_cases hvalues : ∃ texts, given.pending = .values texts
  · obtain ⟨texts, hpending⟩ := hvalues
    simp only [giveWord, hpending, settle, bind, Except.bind, List.mapM_append, List.mapM_cons,
      List.mapM_nil]
    cases texts.mapM (readValue .values) with
    | error stop => rfl
    | ok values =>
      cases hread : readValue .values numeral.text <;>
        simp [take, hread, bind, Except.bind, pure, Except.pure]
  · rw [giveWord_eq_settle hvalues htarget, bind_assoc]
    exact bind_congr_of_ok fun _ hsettle => settle_values (pending_of_settle hsettle) numeral

theorem settle_giveFlag (switch : Switch) :
    given.giveFlag switch.argument >>= settle =
      given.settle >>= fun given => given.take (.flag switch) := by
  rw [giveFlag, bind_assoc]
  refine bind_congr_of_ok fun settled hsettle => ?_
  have hnothing : settled.pending = .nothing := pending_of_settle hsettle
  rw [take]
  split
  · rfl
  · exact settle_of_nothing hnothing

theorem settle_giveTarget (text : List Char) :
    given.giveTarget (some text) >>= settle =
      given.settle >>= fun given => given.takeTarget (some text) := by
  rw [giveTarget, bind_assoc]
  refine bind_congr_of_ok fun settled hsettle => ?_
  cases htake : settled.takeTarget (some text) with
  | error stop => rfl
  | ok next =>
    exact settle_of_nothing ((pending_of_takeTarget htake).trans (pending_of_settle hsettle))

/-- The value of a target that stands by itself is looked at no later than what comes next. -/
theorem settle_defer (text : List Char) :
    given.defer text >>= settle = given.settle >>= fun given => given.takeTarget (some text) := by
  rw [defer, bind_assoc]
  refine bind_congr_of_ok fun settled hsettle => ?_
  change takeTarget { settled with pending := .nothing } (some text) = _
  rw [← pending_of_settle hsettle]

/-- Read late, an item comes to the same as read at once. -/
theorem settle_giveItem (htarget : given.pending ≠ .target none) :
    given.giveItem item >>= settle = given.settle >>= fun given => given.take item := by
  cases item with
  | value numeral => exact settle_giveWord htarget numeral
  | flag switch => exact settle_giveFlag switch
  | target spelling numeral =>
    rw [giveItem]
    split
    · exact settle_defer numeral.text
    · exact settle_giveTarget numeral.text

/-! No target waits for its value behind a whole item. -/

theorem pending_of_giveWord {text : List Char} (h : given.giveWord false text = .ok next) :
    next.pending ≠ .target none := by
  unfold giveWord at h
  split at h
  · cases h
    simp
  · cases h
    simp
  · obtain ⟨settled, -, hnext⟩ := bind_eq_ok_iff.1 h
    cases hnext
    simp

theorem pending_of_giveFlag {flag : Argument} (h : given.giveFlag flag = .ok next) :
    next.pending = .nothing := by
  obtain ⟨settled, hsettle, hnext⟩ := bind_eq_ok_iff.1 h
  split at hnext
  · cases hnext
  · have hnothing : settled.pending = .nothing := pending_of_settle hsettle
    cases hnext
    exact hnothing

theorem pending_of_giveTarget {text : List Char} (h : given.giveTarget (some text) = .ok next) :
    next.pending = .nothing := by
  obtain ⟨settled, hsettle, hnext⟩ := bind_eq_ok_iff.1 h
  exact (pending_of_takeTarget hnext).trans (pending_of_settle hsettle)

theorem pending_of_defer {text : List Char} (h : given.defer text = .ok next) :
    next.pending = .target (some text) := by
  obtain ⟨settled, -, hnext⟩ := bind_eq_ok_iff.1 h
  cases hnext
  rfl

theorem pending_of_giveItem (h : given.giveItem item = .ok next) : next.pending ≠ .target none := by
  cases item with
  | value numeral => exact pending_of_giveWord h
  | flag switch => simp [pending_of_giveFlag h]
  | target spelling numeral =>
    rw [giveItem] at h
    split at h
    · simp [pending_of_defer h]
    · simp [pending_of_giveTarget h]

end Given

/-- The words of items are read as the items one after the other, each at once. -/
theorem giveAll_words {scope : Scope} (hnumbers : scope.takesNumbers) {items : List Item}
    (hknows : ∀ item ∈ items, scope.Knows item) {given : Given}
    (htarget : given.pending ≠ .target none) :
    scope.giveAll false given (items.flatMap Item.words) =
      given.settle >>= fun given => items.foldlM Given.take given := by
  -- The induction is on the items. What the last one left pending is part of `given`, and is looked
  -- at in front of the next one, so the two readings stay one item apart.
  induction items generalizing given with
  | nil => exact (bind_pure _).symm
  | cons item items ih =>
    rw [List.forall_mem_cons] at hknows
    calc scope.giveAll false given ((item :: items).flatMap Item.words)
      _ = given.giveItem item >>= fun given =>
            scope.giveAll false given (items.flatMap Item.words) :=
        Scope.giveAll_item hnumbers hknows.1
      _ = given.giveItem item >>= fun given =>
            given.settle >>= fun given => items.foldlM Given.take given :=
        bind_congr_of_ok fun next hgive => ih hknows.2 (Given.pending_of_giveItem hgive)
      _ = (given.giveItem item >>= Given.settle) >>= fun given => items.foldlM Given.take given :=
        (bind_assoc ..).symm
      _ = given.settle >>= fun given => (item :: items).foldlM Given.take given := by
        rw [Given.settle_giveItem htarget, bind_assoc]
        rfl

/-! ### What is taken -/

theorem readValue_text {argument : Argument} {numeral : Numeral} (h : numeral.InRange) :
    readValue argument numeral.text = .ok numeral.toInt32 := by
  rw [readValue, Numeral.readInteger_text h]

theorem exists_readValue_text_eq_error (argument : Argument) {numeral : Numeral}
    (h : ¬ numeral.InRange) :
    ∃ error, readValue argument numeral.text = .error (.wrong error) := by
  obtain ⟨reason, hread⟩ := Numeral.exists_readInteger_text_eq_error h
  exact ⟨_, by rw [readValue, hread]⟩

namespace Given

/-- What is given with one more item, in range. -/
def adding (given : Given) : Item → Given
  | .target _ numeral => { given with target := some numeral.toInt32 }
  | .value numeral => { given with values := given.values ++ [numeral.toInt32] }
  | .flag switch => { given with flags := given.flags ++ [switch.argument] }

variable {given : Given} {item : Item} {items : List Item}

theorem flags_foldl_adding : (items.foldl adding given).flags =
    given.flags ++ (items.filterMap Item.flag?).map Switch.argument := by
  induction items generalizing given with
  | nil => simp
  | cons item items ih =>
    rw [List.foldl_cons, ih]
    cases item <;> simp [adding, Item.flag?, List.filterMap_cons]

theorem values_foldl_adding : (items.foldl adding given).values =
    given.values ++ (items.filterMap Item.value?).map Numeral.toInt32 := by
  induction items generalizing given with
  | nil => simp
  | cons item items ih =>
    rw [List.foldl_cons, ih]
    cases item <;> simp [adding, Item.value?, List.filterMap_cons]

theorem target_foldl_adding : (items.foldl adding given).target =
    ((items.filterMap Item.target?).map Numeral.toInt32).getLast?.or given.target := by
  induction items generalizing given with
  | nil => simp
  | cons item items ih =>
    rw [List.foldl_cons, ih]
    cases item <;> simp [adding, Item.target?, List.filterMap_cons, List.getLast?_cons]

/-- There can be one such item only, and it is there already. -/
def Repeats (given : Given) : Item → Prop
  | .target _ _ => given.target.isSome
  | .value _ => False
  | .flag switch => switch.argument ∈ given.flags

/-- An item is taken, or it is wrong: out of range, or there already. -/
theorem take_cases (given : Given) (item : Item) :
    (item.InRange ∧ given.take item = .ok (given.adding item)) ∨
      ((¬ item.InRange ∨ given.Repeats item) ∧
        ∃ error, given.take item = .error (.wrong error)) := by
  cases item with
  | target spelling numeral =>
    rw [take, takeTarget]
    split
    · rename_i hrepeated
      exact .inr ⟨.inr hrepeated, _, rfl⟩
    · by_cases hrange : numeral.InRange
      · rw [readValue_text hrange]
        exact .inl ⟨hrange, rfl⟩
      · obtain ⟨error, hread⟩ := exists_readValue_text_eq_error .target hrange
        rw [hread]
        exact .inr ⟨.inl hrange, error, rfl⟩
  | value numeral =>
    rw [take]
    by_cases hrange : numeral.InRange
    · rw [readValue_text hrange]
      exact .inl ⟨hrange, rfl⟩
    · obtain ⟨error, hread⟩ := exists_readValue_text_eq_error .values hrange
      rw [hread]
      exact .inr ⟨.inl hrange, error, rfl⟩
  | flag switch =>
    rw [take]
    split
    · rename_i hrepeated
      exact .inr ⟨.inr hrepeated, _, rfl⟩
    · exact .inl ⟨trivial, rfl⟩

/-- Items in range are all taken where none is there already and none comes twice. -/
theorem foldlM_take (hrange : ∀ item ∈ items, item.InRange)
    (hflags : (given.flags ++ (items.filterMap Item.flag?).map Switch.argument).Nodup)
    (htargets : given.target.toList.length + (items.filterMap Item.target?).length ≤ 1) :
    items.foldlM take given = .ok (items.foldl adding given) := by
  induction items generalizing given with
  | nil => rfl
  | cons item items ih =>
    rw [List.forall_mem_cons] at hrange
    have hnew : ¬ given.Repeats item := by
      cases item with
      | target spelling numeral =>
        intro hrepeated
        obtain ⟨target, htarget⟩ := Option.isSome_iff_exists.1 hrepeated
        simp only [htarget, Item.target?, List.filterMap_cons, Option.toList_some,
          List.length_cons, List.length_nil] at htargets
        omega
      | value numeral => exact id
      | flag switch =>
        intro hrepeated
        exact (List.nodup_append.1 hflags).2.2 _ hrepeated _ List.mem_cons_self rfl
    obtain ⟨-, htake⟩ | ⟨hwrong, -⟩ := take_cases given item
    · rw [List.foldlM_cons, htake]
      refine ih hrange.2 ?_ ?_
      · cases item <;> simpa [adding, Item.flag?, List.filterMap_cons] using hflags
      · cases item <;>
          simp only [adding, Item.target?, List.filterMap_cons, List.length_cons, List.length_nil,
            Option.toList_some] at htargets ⊢ <;>
          omega
    · exact absurd hwrong (not_or.2 ⟨not_not_intro hrange.1, hnew⟩)

/-- An item out of range is wrong if nothing in front of it is. -/
theorem exists_wrong_of_not_inRange (h : ∃ item ∈ items, ¬ item.InRange) :
    ∃ error, items.foldlM take given = .error (.wrong error) := by
  induction items generalizing given with
  | nil => simp at h
  | cons item items ih =>
    rw [List.foldlM_cons]
    obtain ⟨hrange, htake⟩ | ⟨-, error, htake⟩ := take_cases given item
    · rw [htake]
      refine ih ?_
      obtain ⟨other, hmem, hother⟩ := h
      rcases List.mem_cons.1 hmem with rfl | hmem
      · exact absurd hrange hother
      · exact ⟨other, hmem, hother⟩
    · exact ⟨error, by rw [htake]; rfl⟩

end Given

end Seek.Command
