import Seek.Proofs.Json.Grammar

/-!
Quoted texts, read and passed over. A quoted text ends at the first mark that no backslash stands
before, so there is one way only to cut it off the text that follows it. Main statements: `skip`
takes exactly the well-formed texts (`skip_eq_some_iff`), and `read` those that spell characters,
and tells these characters (`read_eq_some_iff`).
-/

namespace Seek.Json.Text

/-! ### Hexadecimal numbers -/

theorem lt_of_hexDigit {c : Char} {n : Nat} (h : hexDigit c = some n) : n < 16 := by
  unfold hexDigit at h
  simp only [Char.le_def, UInt32.le_iff_toNat_le] at h
  have h9 : '9'.val.toNat = '0'.toNat + 9 := rfl
  have hf : 'f'.val.toNat = 'a'.toNat + 5 := rfl
  have hF : 'F'.val.toNat = 'A'.toNat + 5 := rfl
  have hc : c.toNat = c.val.toNat := rfl
  split at h
  · cases h
    omega
  · split at h
    · cases h
      omega
    · split at h
      · cases h
        omega
      · cases h

theorem Hex.lt {digits : List Char} {n : Nat} (h : Hex digits n) : n < 0x10000 := by
  obtain ⟨ha, hb, hc, hd⟩ := h
  have := lt_of_hexDigit ha
  have := lt_of_hexDigit hb
  have := lt_of_hexDigit hc
  have := lt_of_hexDigit hd
  omega

theorem readHex_append {digits : List Char} {n : Nat} (h : Hex digits n) (rest : List Char) :
    readHex (digits ++ rest) = some (n, rest) := by
  obtain ⟨ha, hb, hc, hd⟩ := h
  simp [readHex, ha, hb, hc, hd]

theorem exists_of_readHex {cs rest : List Char} {n : Nat} (h : readHex cs = some (n, rest)) :
    ∃ digits, Hex digits n ∧ cs = digits ++ rest := by
  unfold readHex at h
  split at h
  · simp only [bind, Option.bind_eq_some_iff, Option.some.injEq, Prod.mk.injEq] at h
    obtain ⟨_, ha, _, hb, _, hc, _, hd, rfl, rfl⟩ := h
    exact ⟨_, ⟨ha, hb, hc, hd⟩, rfl⟩
  · cases h

/-! ### Characters by their numbers -/

theorem toNat_ofNat_of_isValidChar {n : Nat} (h : n.isValidChar) : (Char.ofNat n).toNat = n := by
  rw [Char.ofNat, dif_pos h]
  rfl

theorem isValidChar_toNat (c : Char) : c.toNat.isValidChar := c.valid

theorem isLeading_toNat (c : Char) : isLeading c.toNat = false := by
  have := isValidChar_toNat c
  simp only [isLeading, Bool.and_eq_false_iff, decide_eq_false_iff_not]
  omega

theorem isTrailing_toNat (c : Char) : isTrailing c.toNat = false := by
  have := isValidChar_toNat c
  simp only [isTrailing, Bool.and_eq_false_iff, decide_eq_false_iff_not]
  omega

/-- A number of four digits that is no half of a character is that of a character. -/
theorem toNat_ofNat_of_not_half {n : Nat} (hlt : n < 0x10000) (hleading : ¬ isLeading n)
    (htrailing : ¬ isTrailing n) : (Char.ofNat n).toNat = n := by
  simp only [isLeading, isTrailing, Bool.and_eq_true, decide_eq_true_eq] at hleading htrailing
  exact toNat_ofNat_of_isValidChar (by omega)

theorem toNat_joinHalves {leading trailing : Nat} (hleading : isLeading leading)
    (htrailing : isTrailing trailing) : (joinHalves leading trailing).toNat =
      0x10000 + (leading - 0xd800) * 0x400 + (trailing - 0xdc00) := by
  simp only [isLeading, isTrailing, Bool.and_eq_true, decide_eq_true_eq] at hleading htrailing
  exact toNat_ofNat_of_isValidChar (by omega)

/-! ### Escapes -/

theorem skipEscape_eq_some_iff {cs rest : List Char} :
    skipEscape cs = some rest ↔ ∃ escape, Escape escape ∧ cs = escape ++ rest := by
  constructor
  · intro h
    unfold skipEscape at h
    split at h
    · cases h
    · split at h
      · rename_i hu
        obtain ⟨⟨n, rest'⟩, hhex, rfl⟩ := Option.map_eq_some_iff.1 h
        obtain ⟨digits, hdigits, rfl⟩ := exists_of_readHex hhex
        exact ⟨_, .number hdigits, by rw [hu]; rfl⟩
      · obtain ⟨d, hletter, rfl⟩ := Option.map_eq_some_iff.1 h
        exact ⟨_, .letter hletter, rfl⟩
  · rintro ⟨escape, hescape, rfl⟩
    cases hescape with
    | @letter c d hletter =>
      have hu : c ≠ 'u' := by
        rintro rfl
        cases hletter
      simp [skipEscape, hu, hletter]
    | number hdigits => simp [skipEscape, readHex_append hdigits]

theorem readNumbered_eq_some_iff {cs rest : List Char} {c : Char} :
    readNumbered cs = some (c, rest) ↔ ∃ digits, Names ('u' :: digits) c ∧ cs = digits ++ rest := by
  constructor
  · intro h
    unfold readNumbered at h
    split at h
    · cases h
    · rename_i n behind hhex
      obtain ⟨digits, hdigits, rfl⟩ := exists_of_readHex hhex
      split at h
      · cases h
      · rename_i htrailing
        split at h
        · rename_i hleading
          split at h
          · split at h
            · cases h
            · rename_i m _ hhex'
              obtain ⟨digits', hdigits', rfl⟩ := exists_of_readHex hhex'
              split at h
              · rename_i htrailing'
                simp only [Option.some.injEq, Prod.mk.injEq] at h
                obtain ⟨rfl, rfl⟩ := h
                have hjoin := toNat_joinHalves hleading htrailing'
                exact ⟨_, .halves hdigits hleading hdigits' htrailing' hjoin, by simp⟩
              · cases h
          · cases h
        · rename_i hleading
          simp only [Option.some.injEq, Prod.mk.injEq] at h
          obtain ⟨rfl, rfl⟩ := h
          refine ⟨digits, .number ?_, rfl⟩
          rwa [toNat_ofNat_of_not_half hdigits.lt hleading htrailing]
  · rintro ⟨digits, hnames, rfl⟩
    cases hnames with
    | letter hletter => cases hletter
    | number hdigits =>
      simp [readNumbered, readHex_append hdigits, isLeading_toNat, isTrailing_toNat,
        Char.ofNat_toNat]
    | @halves _ _ leading trailing _ hdigits hleading hdigits' htrailing' hjoin =>
      have htrailing : isTrailing leading = false := by
        simp only [isLeading, isTrailing, Bool.and_eq_true, Bool.and_eq_false_iff,
          decide_eq_true_eq, decide_eq_false_iff_not] at hleading ⊢
        omega
      have hchar : joinHalves leading trailing = c :=
        Char.toNat_inj.1 ((toNat_joinHalves hleading htrailing').trans hjoin.symm)
      simp [readNumbered, readHex_append hdigits, readHex_append hdigits', htrailing, hleading,
        htrailing', hchar]

theorem readEscape_eq_some_iff {cs rest : List Char} {c : Char} :
    readEscape cs = some (c, rest) ↔ ∃ escape, Names escape c ∧ cs = escape ++ rest := by
  constructor
  · intro h
    unfold readEscape at h
    split at h
    · cases h
    · split at h
      · rename_i hu
        obtain ⟨digits, hnames, rfl⟩ := readNumbered_eq_some_iff.1 h
        exact ⟨_, hnames, by rw [hu]; rfl⟩
      · obtain ⟨d, hletter, heq⟩ := Option.map_eq_some_iff.1 h
        cases heq
        exact ⟨_, .letter hletter, rfl⟩
  · rintro ⟨escape, hnames, rfl⟩
    cases hnames with
    | @letter c d hletter =>
      have hu : c ≠ 'u' := by
        rintro rfl
        cases hletter
      simp [readEscape, hu, hletter]
    | number hdigits =>
      exact readNumbered_eq_some_iff.2 ⟨_, .number hdigits, rfl⟩
    | halves hdigits hleading hdigits' htrailing' hjoin =>
      exact readNumbered_eq_some_iff.2 ⟨_, .halves hdigits hleading hdigits' htrailing' hjoin, rfl⟩

/-! ### Whole texts -/

theorem skip_plain {c : Char} (plain : Plain c) (cs : List Char) : skip (c :: cs) = skip cs := by
  rw [skip.eq_def]
  have := plain.ne_mark
  have := plain.ne_backslash
  have := plain.not_control
  split <;> simp_all

theorem skip_backslash (cs : List Char) : skip ('\\' :: cs) = (skipEscape cs).bind skip := by
  rw [skip]
  split <;> rename_i h <;> rw [h] <;> rfl

theorem skip_eq_some_iff {cs rest : List Char} :
    skip cs = some rest ↔ ∃ body, Inside body ∧ cs = body ++ '"' :: rest := by
  constructor
  · intro h
    fun_induction skip cs with
    | case1 => cases h
    | case2 =>
      cases h
      exact ⟨[], .nil, rfl⟩
    | case3 => cases h
    | case4 behind after hescape ih =>
      obtain ⟨escape, hwritten, rfl⟩ := skipEscape_eq_some_iff.1 hescape
      obtain ⟨body, hbody, rfl⟩ := ih h
      exact ⟨_, .escape hwritten hbody, by simp⟩
    | case5 => cases h
    | case6 c behind hmark hbackslash hcontrol ih =>
      obtain ⟨body, hbody, rfl⟩ := ih h
      exact ⟨_, .plain ⟨hmark, hbackslash, by simpa using hcontrol⟩ hbody, rfl⟩
  · rintro ⟨body, hbody, rfl⟩
    induction hbody with
    | nil => rw [List.nil_append, skip]
    | plain hplain _ ih => rw [List.cons_append, skip_plain hplain, ih]
    | escape hescape _ ih =>
      rw [List.cons_append, List.append_assoc, skip_backslash,
        skipEscape_eq_some_iff.2 ⟨_, hescape, rfl⟩]
      exact ih

theorem read_plain {c : Char} (plain : Plain c) (cs : List Char) :
    read (c :: cs) = (read cs).map fun found => (c :: found.1, found.2) := by
  rw [read.eq_def]
  have := plain.ne_mark
  have := plain.ne_backslash
  have := plain.not_control
  split <;> simp_all

theorem read_backslash (cs : List Char) : read ('\\' :: cs) =
    (readEscape cs).bind fun escape =>
      (read escape.2).map fun found => (escape.1 :: found.1, found.2) := by
  rw [read]
  split <;> rename_i h <;> rw [h] <;> rfl

theorem read_eq_some_iff {cs text rest : List Char} :
    read cs = some (text, rest) ↔ ∃ body, Spells body text ∧ cs = body ++ '"' :: rest := by
  constructor
  · intro h
    fun_induction read cs generalizing text with
    | case1 => cases h
    | case2 =>
      cases h
      exact ⟨[], .nil, rfl⟩
    | case3 => cases h
    | case4 behind c after hescape ih =>
      obtain ⟨⟨text', _⟩, hread, heq⟩ := Option.map_eq_some_iff.1 h
      cases heq
      obtain ⟨escape, hnames, rfl⟩ := readEscape_eq_some_iff.1 hescape
      obtain ⟨body, hbody, rfl⟩ := ih hread
      exact ⟨_, .escape hnames hbody, by simp⟩
    | case5 => cases h
    | case6 c behind hmark hbackslash hcontrol ih =>
      obtain ⟨⟨text', _⟩, hread, heq⟩ := Option.map_eq_some_iff.1 h
      cases heq
      obtain ⟨body, hbody, rfl⟩ := ih hread
      exact ⟨_, .plain ⟨hmark, hbackslash, by simpa using hcontrol⟩ hbody, rfl⟩
  · rintro ⟨body, hbody, rfl⟩
    induction hbody with
    | nil => rw [List.nil_append, read]
    | plain hplain _ ih =>
      rw [List.cons_append, read_plain hplain, ih]
      rfl
    | escape hnames _ ih =>
      rw [List.cons_append, List.append_assoc, read_backslash,
        readEscape_eq_some_iff.2 ⟨_, hnames, rfl⟩, Option.bind_some, ih]
      rfl

/-- A quoted text spells one text only. -/
theorem Spells.unique {body text text' : List Char} (h : Spells body text)
    (h' : Spells body text') : text = text' := by
  have hread : read (body ++ ['"']) = some (text, []) := read_eq_some_iff.2 ⟨body, h, rfl⟩
  have hread' : read (body ++ ['"']) = some (text', []) := read_eq_some_iff.2 ⟨body, h', rfl⟩
  cases hread.symm.trans hread'
  rfl

/-- A text that spells characters is well formed. -/
theorem Spells.inside {body text : List Char} (h : Spells body text) : Inside body := by
  induction h with
  | nil => exact .nil
  | plain hplain _ ih => exact .plain hplain ih
  | escape hnames _ ih =>
    cases hnames with
    | letter hletter => exact .escape (.letter hletter) ih
    | number hdigits => exact .escape (.number hdigits) ih
    | halves hdigits _ hdigits' =>
      -- Each half is an escape by itself.
      rw [List.cons_append, List.append_assoc]
      exact .escape (.number hdigits) (.escape (.number hdigits') ih)

theorem plain_iff {c : Char} : Plain c ↔ c ≠ '"' ∧ c ≠ '\\' ∧ isControl c = false :=
  ⟨fun ⟨hmark, hbackslash, hcontrol⟩ => ⟨hmark, hbackslash, hcontrol⟩,
    fun ⟨hmark, hbackslash, hcontrol⟩ => ⟨hmark, hbackslash, hcontrol⟩⟩

/-- Characters that stand for themselves spell themselves. -/
theorem spells_self {text : List Char} (h : ∀ c ∈ text, Plain c) : Spells text text := by
  induction text with
  | nil => exact .nil
  | cons c text ih =>
    obtain ⟨hc, htext⟩ := List.forall_mem_cons.1 h
    exact .plain hc (ih htext)

end Seek.Json.Text
