/-!
Texts in JSON, from behind the opening mark to behind the closing one. Inside, a backslash begins an
escape and a control character is refused. `read` builds the text and needs every escape to name a
character, so the two halves of a character beyond the first plane have to stand together; `skip`
only finds the end, and is content with four digits after `\u`.
-/

namespace Seek.Json.Text

/-! ### Escapes -/

/-- The value of a hexadecimal digit. -/
def hexDigit (c : Char) : Option Nat :=
  if '0' ≤ c ∧ c ≤ '9' then some (c.toNat - '0'.toNat)
  else if 'a' ≤ c ∧ c ≤ 'f' then some (c.toNat - 'a'.toNat + 10)
  else if 'A' ≤ c ∧ c ≤ 'F' then some (c.toNat - 'A'.toNat + 10)
  else none

/-- The number written in four hexadecimal digits. -/
def readHex : List Char → Option (Nat × List Char)
  | a :: b :: c :: d :: rest => do
    let a ← hexDigit a
    let b ← hexDigit b
    let c ← hexDigit c
    let d ← hexDigit d
    some (((a * 16 + b) * 16 + c) * 16 + d, rest)
  | _ => none

/-- The number is the first half of a character beyond the first plane. -/
def isLeading (n : Nat) : Bool := 0xd800 ≤ n && n < 0xdc00

/-- The number is the second half of a character beyond the first plane. -/
def isTrailing (n : Nat) : Bool := 0xdc00 ≤ n && n < 0xe000

/-- The character of two halves. -/
def joinHalves (leading trailing : Nat) : Char :=
  .ofNat (0x10000 + (leading - 0xd800) * 0x400 + (trailing - 0xdc00))

/-- The character whose number follows, in one escape or, as two halves, in two. -/
def readNumbered (cs : List Char) : Option (Char × List Char) :=
  match readHex cs with
  | none => none
  | some (n, rest) =>
    if isTrailing n then none
    else if isLeading n then
      match rest with
      | '\\' :: 'u' :: rest =>
        match readHex rest with
        | none => none
        | some (m, rest) => if isTrailing m then some (joinHalves n m, rest) else none
      | _ => none
    else some (.ofNat n, rest)

/-- The character that a single letter after a backslash stands for. -/
def ofLetter : Char → Option Char
  | '"' => some '"'
  | '\\' => some '\\'
  | '/' => some '/'
  | 'b' => some '\x08'
  | 'f' => some '\x0c'
  | 'n' => some '\n'
  | 'r' => some '\r'
  | 't' => some '\t'
  | _ => none

/-- The character of an escape, from behind its backslash. -/
def readEscape : List Char → Option (Char × List Char)
  | [] => none
  | c :: rest => if c = 'u' then readNumbered rest else (ofLetter c).map fun d => (d, rest)

/-- The end of an escape, from behind its backslash. -/
def skipEscape : List Char → Option (List Char)
  | [] => none
  | c :: rest =>
    if c = 'u' then (readHex rest).map fun found => found.2 else (ofLetter c).map fun _ => rest

theorem length_of_readHex {cs rest : List Char} {n : Nat} (h : readHex cs = some (n, rest)) :
    rest.length + 4 = cs.length := by
  unfold readHex at h
  split at h
  · simp only [bind, Option.bind_eq_some_iff, Option.some.injEq, Prod.mk.injEq] at h
    obtain ⟨_, -, _, -, _, -, _, -, -, rfl⟩ := h
    simp
  · cases h

theorem length_of_readNumbered {cs rest : List Char} {c : Char}
    (h : readNumbered cs = some (c, rest)) : rest.length < cs.length := by
  unfold readNumbered at h
  split at h
  · cases h
  · rename_i hn
    have hlen := length_of_readHex hn
    split at h
    · cases h
    · split at h
      · split at h
        · split at h
          · cases h
          · rename_i hm
            have hlen' := length_of_readHex hm
            split at h
            · simp only [Option.some.injEq, Prod.mk.injEq] at h
              obtain ⟨-, rfl⟩ := h
              simp only [List.length_cons] at hlen
              omega
            · cases h
        · cases h
      · simp only [Option.some.injEq, Prod.mk.injEq] at h
        obtain ⟨-, rfl⟩ := h
        omega

theorem length_of_readEscape {cs rest : List Char} {c : Char}
    (h : readEscape cs = some (c, rest)) : rest.length < cs.length := by
  unfold readEscape at h
  split at h
  · cases h
  · split at h
    · have := length_of_readNumbered h
      simp only [List.length_cons]
      omega
    · simp only [Option.map_eq_some_iff, Prod.mk.injEq] at h
      obtain ⟨_, -, -, rfl⟩ := h
      simp

theorem length_of_skipEscape {cs rest : List Char} (h : skipEscape cs = some rest) :
    rest.length < cs.length := by
  unfold skipEscape at h
  split at h
  · cases h
  · split at h
    · obtain ⟨⟨n, r⟩, hn, rfl⟩ := Option.map_eq_some_iff.1 h
      have := length_of_readHex hn
      simp only [List.length_cons]
      omega
    · obtain ⟨_, -, rfl⟩ := Option.map_eq_some_iff.1 h
      simp

/-! ### Whole texts -/

/-- The character may not stand in a text as it is. -/
def isControl (c : Char) : Bool := c.toNat < 0x20

/-- The text up to its closing mark, and what follows the mark. -/
def read (cs : List Char) : Option (List Char × List Char) :=
  match cs with
  | [] => none
  | '"' :: rest => some ([], rest)
  | '\\' :: rest =>
    match _h : readEscape rest with
    | none => none
    | some (c, rest) => (read rest).map fun found => (c :: found.1, found.2)
  | c :: rest =>
    if isControl c then none else (read rest).map fun found => (c :: found.1, found.2)
termination_by cs.length
decreasing_by
  · have := length_of_readEscape _h
    simp only [List.length_cons]
    omega
  · simp

/-- What follows the closing mark of a text. -/
def skip (cs : List Char) : Option (List Char) :=
  match cs with
  | [] => none
  | '"' :: rest => some rest
  | '\\' :: rest =>
    match _h : skipEscape rest with
    | none => none
    | some rest => skip rest
  | c :: rest => if isControl c then none else skip rest
termination_by cs.length
decreasing_by
  · have := length_of_skipEscape _h
    simp only [List.length_cons]
    omega
  · simp

theorem length_of_read {cs text rest : List Char} (h : read cs = some (text, rest)) :
    rest.length < cs.length := by
  fun_induction read cs generalizing text with
  | case1 => cases h
  | case2 => cases h; simp
  | case3 => cases h
  | case4 rest' c after hescape ih =>
    obtain ⟨⟨text', rest''⟩, hread, heq⟩ := Option.map_eq_some_iff.1 h
    cases heq
    have hrest := ih hread
    have := length_of_readEscape hescape
    simp only [List.length_cons] at hrest ⊢
    omega
  | case5 => cases h
  | case6 c rest' _ _ _ ih =>
    obtain ⟨⟨text', rest''⟩, hread, heq⟩ := Option.map_eq_some_iff.1 h
    cases heq
    have hrest := ih hread
    simp only [List.length_cons] at hrest ⊢
    omega

theorem length_of_skip {cs rest : List Char} (h : skip cs = some rest) :
    rest.length < cs.length := by
  fun_induction skip cs with
  | case1 => cases h
  | case2 => cases h; simp
  | case3 => cases h
  | case4 rest' after hescape ih =>
    have := ih h
    have := length_of_skipEscape hescape
    simp only [List.length_cons]
    omega
  | case5 => cases h
  | case6 c rest' _ _ _ ih =>
    have := ih h
    simp only [List.length_cons]
    omega

end Seek.Json.Text
