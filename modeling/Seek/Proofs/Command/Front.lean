import Seek.Proofs.Command.Invocation

/-!
Flags in front of a line. In front of a command there are flags only, and of what was given before a
flag is asked whether it is there already and nothing else. Main statement: a line that is accepted
is accepted behind a flag too that it does not give itself, and asks for the same but for the flag
(`readLine_cons_flag`).
-/

namespace Seek.Command

/-- These flags were given and nothing else. -/
def Given.ofFlags (flags : List Argument) : Given := ⟨flags, none, [], .nothing⟩

/-- The step gives these flags, wherever none of them is there already. -/
def Adds (step : Given → Except Stop Given) (added : List Argument) : Prop :=
  ∀ flags, added.Disjoint flags → step (.ofFlags flags) = .ok (.ofFlags (flags ++ added))

/-- The step has given flags, none of which was there, and does so wherever none is. -/
def Added (step : Given → Except Stop Given) (flags : List Argument) (next : Given) : Prop :=
  ∃ added, added.Disjoint flags ∧ next = .ofFlags (flags ++ added) ∧ Adds step added

variable {flags : List Argument} {next : Given} {words : List (List Char)} {request : Request}

/-! ### One word -/

/-- A step and another that gives other flags. -/
theorem Adds.comp {first second : Given → Except Stop Given} {front behind : List Argument}
    (hfirst : Adds first front) (hsecond : Adds second behind) (hnew : behind.Disjoint front) :
    Adds (fun given => first given >>= second) (front ++ behind) := by
  intro flags hflags
  obtain ⟨hfront, hbehind⟩ := List.disjoint_append_left.1 hflags
  change first (.ofFlags flags) >>= second = _
  rw [hfirst flags hfront, ← List.append_assoc]
  exact hsecond (flags ++ front) (List.disjoint_append_right.2 ⟨hbehind, hnew⟩)

theorem added_of_giveFlag {flag : Argument}
    (h : (Given.ofFlags flags).giveFlag flag = .ok next) :
    Added (fun given => given.giveFlag flag) flags next := by
  have hgive (flags : List Argument) : (Given.ofFlags flags).giveFlag flag =
      if flag ∈ flags then .error (.wrong (.repeated flag)) else .ok (.ofFlags (flags ++ [flag])) :=
    rfl
  rw [hgive] at h
  split at h
  · cases h
  · rename_i hnew
    cases h
    refine ⟨[flag], List.singleton_disjoint.2 hnew, rfl, fun others hothers => ?_⟩
    exact (hgive others).trans (if_neg (List.singleton_disjoint.1 hothers))

theorem added_of_giveSwitch {scope : Scope} {option : Argument}
    (h : scope.giveSwitch (.ofFlags flags) option = .ok next) :
    Added (fun given => scope.giveSwitch given option) flags next := by
  cases option with
  | help => cases h
  | version => cases h
  | target | values | json | verbose | checkSorted => exact added_of_giveFlag h

/-- The program itself knows no target. -/
theorem program_option_ne_target {option : Argument} {p : Argument → Bool}
    (h : Scope.program.options.find? p = some option) : option ≠ .target := by
  rintro rfl
  have hmem := List.mem_of_find?_eq_some h
  simp [Scope.options] at hmem

theorem added_of_giveLong {name : List Char} {value : Option (List Char)}
    (h : Scope.program.giveLong (.ofFlags flags) name value = .ok next) :
    Added (fun given => Scope.program.giveLong given name value) flags next := by
  unfold Scope.giveLong at h ⊢
  split at h
  · cases h
  · rename_i htarget
    exact absurd rfl (program_option_ne_target htarget)
  · split at h
    · cases h
    · exact added_of_giveSwitch h

/-- Of letters each gives its flag, and no two of them the same. -/
theorem added_of_giveShort {letters : List Char}
    (h : Scope.program.giveShort (.ofFlags flags) letters = .ok next) :
    Added (fun given => Scope.program.giveShort given letters) flags next := by
  induction letters generalizing flags with
  | nil =>
    cases h
    exact ⟨[], List.disjoint_nil_left _, by rw [List.append_nil], fun others _ => by
      simp [Scope.giveShort]⟩
  | cons letter letters ih =>
    unfold Scope.giveShort at h ⊢
    split at h
    · cases h
    · rename_i htarget
      exact absurd rfl (program_option_ne_target htarget)
    · obtain ⟨middle, hswitch, hrest⟩ := bind_eq_ok_iff.1 h
      obtain ⟨front, hfront, rfl, hadds⟩ := added_of_giveSwitch hswitch
      obtain ⟨behind, hbehind, rfl, hadds'⟩ := ih hrest
      obtain ⟨hbehind, hnew⟩ := List.disjoint_append_right.1 hbehind
      exact ⟨front ++ behind, List.disjoint_append_left.2 ⟨hfront, hbehind⟩,
        by rw [List.append_assoc], hadds.comp hadds' hnew⟩

/-! ### All words -/

/-- The request with these flags given. -/
def Request.giving (request : Request) (flags : List Argument) : Request :=
  { request with isJson := flags.contains .json, isVerbose := flags.contains .verbose }

/-- Behind these flags the words ask for what is requested, and so they do behind any others. They
give the flags `front` in front of a command, which must not be there already, and `behind` it
others, which may. -/
structure Asks (flags : List Argument) (words : List (List Char)) (request : Request)
    (front behind : List Argument) : Prop where
  new : front.Disjoint flags
  request_eq : request = request.giving (flags ++ front ++ behind)
  reads : ∀ others, front.Disjoint others →
    readWords (.ofFlags others) words = .ok (request.giving (others ++ front ++ behind))

theorem asks_demo
    (hdemo : ∀ outer, readWords outer words =
      .ok ⟨.demo, outer.flags.contains .json, outer.flags.contains .verbose⟩)
    (h : readWords (.ofFlags flags) words = .ok request) : Asks flags words request [] [] := by
  rw [hdemo] at h
  cases h
  refine ⟨List.disjoint_nil_left _, by simp [Request.giving, Given.ofFlags], fun others _ => ?_⟩
  simp [hdemo, Request.giving, Given.ofFlags]

/-- The words of a command are read apart from the flags in front of it. -/
theorem exists_asks_of_readCommand (scope : Scope) (action : Given → Input → Action)
    (behindWords : List (List Char))
    (hcommand : ∀ outer, readWords outer words = readCommand scope action outer behindWords)
    (h : readWords (.ofFlags flags) words = .ok request) :
    ∃ front behind, Asks flags words request front behind := by
  rw [hcommand] at h
  obtain ⟨given, hgiven, h⟩ := bind_eq_ok_iff.1 h
  obtain ⟨input, hinput, h⟩ := bind_eq_ok_iff.1 h
  cases h
  refine ⟨[], given.flags, List.disjoint_nil_left _, by simp [Request.giving, Given.ofFlags],
    fun others _ => ?_⟩
  rw [hcommand, readCommand, hgiven]
  simp [bind, Except.bind, hinput, Request.giving, Given.ofFlags]

/-- A word that gives flags, and then words that ask for something. -/
theorem exists_asks_of_added (step : Given → Except Stop Given) {word : List Char}
    (hstep : ∀ outer, readWords outer (word :: words) =
      step outer >>= fun outer => readWords outer words)
    (hadded : ∀ {next}, step (.ofFlags flags) = .ok next → Added step flags next)
    (ih : ∀ {flags}, readWords (.ofFlags flags) words = .ok request →
      ∃ front behind, Asks flags words request front behind)
    (h : readWords (.ofFlags flags) (word :: words) = .ok request) :
    ∃ front behind, Asks flags (word :: words) request front behind := by
  rw [hstep] at h
  obtain ⟨next, hnext, hrest⟩ := bind_eq_ok_iff.1 h
  obtain ⟨added, hadded, rfl, hadds⟩ := hadded hnext
  obtain ⟨front, behind, hnew, hrequest, hreads⟩ := ih hrest
  obtain ⟨hfront, hapart⟩ := List.disjoint_append_right.1 hnew
  refine ⟨added ++ front, behind, List.disjoint_append_left.2 ⟨hadded, hfront⟩,
    by rwa [← List.append_assoc], fun others hothers => ?_⟩
  obtain ⟨hnew', hfront'⟩ := List.disjoint_append_left.1 hothers
  rw [hstep, hadds others hnew', ← List.append_assoc]
  exact hreads (others ++ added) (List.disjoint_append_right.2 ⟨hfront', hapart⟩)

/-- What is asked for behind some flags is asked for behind any others, but for the flags. -/
theorem exists_asks_of_readWords (h : readWords (.ofFlags flags) words = .ok request) :
    ∃ front behind, Asks flags words request front behind := by
  induction words generalizing flags with
  | nil => exact ⟨[], [], asks_demo (fun _ => rfl) h⟩
  | cons word words ih =>
    rcases hshape : Shape.of Scope.program.takesNumbers word with - | ⟨name, value⟩ | letters | -
    · have hescaped (outer : Given) :
          readWords outer (word :: words) = readEscaped outer words := by
        rw [readWords, hshape]
      cases words with
      | nil => exact ⟨[], [], asks_demo hescaped h⟩
      | cons extra words =>
        rw [hescaped, readEscaped] at h
        split at h <;> cases h
    · refine exists_asks_of_added (fun given => Scope.program.giveLong given name value)
        (fun outer => ?_) added_of_giveLong ih h
      rw [readWords, hshape]
    · refine exists_asks_of_added (fun given => Scope.program.giveShort given letters)
        (fun outer => ?_) added_of_giveShort ih h
      rw [readWords, hshape]
    · rcases hverb : Verb.ofWord? word with - | (- | - | -)
      · simp [readWords, hshape, hverb] at h
      · refine exists_asks_of_readCommand .pairSum (fun _ input => .pairSum input) words
          (fun outer => ?_) h
        rw [readWords, hshape, hverb]
      · refine exists_asks_of_readCommand .search
          (fun given input => .search input (given.flags.contains .checkSorted)) words
          (fun outer => ?_) h
        rw [readWords, hshape, hverb]
      · simp [readWords, hshape, hverb] at h

/-! ### A flag in front of a line -/

namespace Request

/-- The flag was given. -/
def has (request : Request) : Switch → Bool
  | .json => request.isJson
  | .verbose => request.isVerbose
  | .checkSorted => match request.action with
    | .search _ isChecked => isChecked
    | _ => false

/-- The request with one flag more, of those that can stand in front of a command. -/
def adding (request : Request) : Switch → Request
  | .json => { request with isJson := true }
  | .verbose => { request with isVerbose := true }
  | .checkSorted => request

variable {switch : Switch}

theorem has_giving (hswitch : switch ≠ .checkSorted) (flags : List Argument) :
    (request.giving flags).has switch = flags.contains switch.argument := by
  cases switch <;> first | rfl | exact absurd rfl hswitch

theorem adding_giving (hswitch : switch ≠ .checkSorted) (flags : List Argument) :
    (request.giving flags).adding switch = request.giving (switch.argument :: flags) := by
  cases switch with
  | json => simp [giving, adding, Switch.argument]
  | verbose => simp [giving, adding, Switch.argument]
  | checkSorted => exact absurd rfl hswitch

end Request

/-- A flag that a line does not give can stand in front of it. -/
theorem readLine_cons_flag {switch : Switch} (hswitch : switch ≠ .checkSorted)
    {arguments : List String} (h : readLine arguments = .ok request)
    (hnot : request.has switch = false) :
    readLine (.ofList switch.word :: arguments) = .ok (request.adding switch) := by
  have hwords : readWords (.ofFlags []) (arguments.map String.toList) = .ok request := h
  obtain ⟨front, behind, -, hrequest, hreads⟩ := exists_asks_of_readWords hwords
  rw [hrequest, Request.has_giving hswitch] at hnot
  have hgive : Given.nothing.giveFlag switch.argument = .ok (.ofFlags [switch.argument]) := by
    cases switch <;> rfl
  have hfront : front.Disjoint [switch.argument] := by
    simp only [List.nil_append, List.contains_eq_mem, List.mem_append, decide_eq_false_iff_not,
      not_or] at hnot
    exact List.disjoint_singleton.2 hnot.1
  rw [readLine, List.map_cons, String.toList_ofList, readWords_flag (mem_options_program hswitch),
    hgive, hrequest, Request.adding_giving hswitch]
  exact hreads [switch.argument] hfront

end Seek.Command
