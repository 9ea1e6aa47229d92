import Seek.Sorted

/-!
Sessions: one sorted sequence held over a run of commands. A session starts with the empty sequence.
A command that replaces the held sequence and fails leaves it alone, except where the held elements
had to be given up to build the new sequence; then the session goes on with the empty one.
-/

namespace Seek.Session

variable {α : Type}

/-- What can be asked of a session. -/
inductive Command (α : Type) where
  /-- Hold these items as they are, if they are in order. -/
  | validate (items : Array α)
  /-- Hold these items, put in order. -/
  | sort (items : Array α)
  /-- Hold the empty sequence. -/
  | reset
  /-- Put these items after the held ones, if that is in order. -/
  | append (items : Array α)
  /-- Put these items among the held ones. -/
  | merge (items : Array α)
  /-- Give up the held items. -/
  | release
  | position (target : α)
  | index (target : α)
  | contains (target : α)
  /-- Compare with these items, put in order. -/
  | equals (items : Array α)
  | items
  | size
  | isEmpty
  | first
  | last
  | record

/-- What a session answers. -/
inductive Reply (α : Type) where
  | items (items : Array α)
  | position (position : Option UInt64)
  | index (index : Int64)
  | element (element : Option α)
  | size (size : Nat)
  | truth (truth : Bool)
  | text (text : String)
  | refused (refusal : Refusal)
  | stopped (fault : Fault)

/-- The new sequence and its items, or `fallback` and the refusal. -/
def hold (fallback : Sorted α) : Except Refusal (Sorted α) → Sorted α × Reply α
  | .ok next => (next, .items next.items)
  | .error refusal => (fallback, .refused refusal)

/-- The reply made from a checked answer. -/
def reply {β : Type} (make : β → Reply α) : Checked β → Reply α
  | .ok answer => make answer
  | .error fault => .stopped fault

/-- The new sequence and its items, or `fallback` and the fault. -/
def holdChecked (fallback : Sorted α) : Checked (Sorted α) → Sorted α × Reply α
  | .ok next => (next, .items next.items)
  | .error fault => (fallback, .stopped fault)

/-- One command: what is held after it, and what is answered. -/
def step [Ord α] [BEq α] [Shown α] (held : Sorted α) : Command α → Sorted α × Reply α
  | .validate items => hold held (Sorted.validate items)
  | .sort items => holdChecked held (Sorted.sort items)
  | .reset => (.empty, .items #[])
  | .append items => hold .empty (held.append items)
  | .merge items => holdChecked .empty (held.merge items)
  | .release => (.empty, .items held.items)
  | .position target => (held, reply .position (held.position target))
  | .index target => (held, reply .index (held.index target))
  | .contains target => (held, .truth (held.contains target))
  | .equals items => (held, reply (.truth <| held == ·) (Sorted.sort items))
  | .items => (held, .items held.items)
  | .size => (held, .size held.items.size)
  | .isEmpty => (held, .truth held.items.isEmpty)
  | .first => (held, .element held.items[0]?)
  | .last => (held, .element held.items.back?)
  | .record => (held, .text held.record)

/-- What is held after a run of commands. -/
def after [Ord α] [BEq α] [Shown α] (held : Sorted α) (commands : List (Command α)) : Sorted α :=
  commands.foldl (fun held command => (step held command).1) held

/-- The answers to a run of commands, each given what the ones before it left. -/
def replies [Ord α] [BEq α] [Shown α] (held : Sorted α) : List (Command α) → List (Reply α)
  | [] => []
  | command :: rest =>
    let (next, answer) := step held command
    answer :: replies next rest

end Seek.Session
