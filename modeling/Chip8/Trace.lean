import Chip8.State

/-!
# The execution trace

Each step leaves an entry that says where it was fetched, what it was and which fault it met.  With
tracing on, an entry also holds what the registers looked like before and after.

* `Snapshot` — the part of a state that is small enough to keep with every step.
* `Entry` — one step.
* `Recent` — the last so many values of a sequence; the bound is part of the type's invariant.
-/

namespace Chip8

/-! ## Snapshots -/

/-- A state without its memory, keypad and screen. -/
structure Snapshot where
  registers : Array Int
  index : Int
  pc : Int
  /-- Return addresses, the innermost call first. -/
  stack : List Int
  delayTimer : Int
  soundTimer : Int
  mode : Mode
  cycleCount : Int
  deriving DecidableEq, Repr

/-- The snapshot of a state. -/
def State.snapshot (state : State) : Snapshot where
  registers := state.registers
  index := state.index
  pc := state.pc
  stack := state.stack
  delayTimer := state.delayTimer
  soundTimer := state.soundTimer
  mode := state.mode
  cycleCount := state.cycleCount

/-! ## Entries -/

/-- One step. -/
structure Entry where
  /-- Instructions executed before this step. -/
  cycle : Int
  /-- Where the word was fetched, or could not be. -/
  pc : Int
  /-- The word, unless it could not be fetched. -/
  decoding : Option Decoding
  /-- What went wrong, as a sentence. -/
  error : Option String
  fault : Option Fault
  /-- The state before and after, with tracing on. -/
  before : Option Snapshot
  after : Option Snapshot
  deriving DecidableEq, Repr

namespace Entry

/-- The word. -/
def opcode? (entry : Entry) : Option Int := entry.decoding.map (·.opcode)

/-- The kind of instruction. -/
def kind? (entry : Entry) : Option Kind := entry.decoding.map (·.kind)

/-- The assembly text, or a remark that nothing was fetched. -/
def mnemonic (entry : Entry) : String :=
  match entry.decoding with
  | some decoding => decoding.mnemonic
  | none => "<BAD PC>"

/-- Address, word and assembly text on one line. -/
def line (entry : Entry) : String :=
  let word := match entry.opcode? with
    | some opcode => Text.hex 4 opcode
    | none => "----"
  s!"{Text.hex 3 entry.pc}: {word}  {entry.mnemonic}"

end Entry

/-! ## The last so many values -/

/-- At most `bound` values, the newest last. -/
structure Recent (α : Type) where
  bound : Nat
  items : Array α := #[]
  size_le : items.size ≤ bound := by exact Nat.zero_le _

namespace Recent

variable {α : Type}

/-- Nothing kept yet. -/
def empty (bound : Nat) : Recent α := { bound }

/-- Keeps one more value; the oldest goes if there is no room. -/
def push (recent : Recent α) (value : α) : Recent α :=
  if h : recent.items.size < recent.bound then
    { bound := recent.bound
      items := recent.items.push value
      size_le := by rw [Array.size_push]; exact h }
  else
    { bound := recent.bound
      items := (recent.items.push value).extract 1 (recent.items.size + 1)
      size_le := by
        rw [Array.size_extract, Array.size_push, Nat.min_self, Nat.add_sub_cancel]
        exact recent.size_le }

/-- Forgets everything. -/
def clear (recent : Recent α) : Recent α := .empty recent.bound

/-- The values, the oldest first. -/
def toList (recent : Recent α) : List α := recent.items.toList

/-- How many values are kept. -/
def size (recent : Recent α) : Nat := recent.items.size

/-- After one more value the kept ones are the last `bound` of what there was and the new one. -/
theorem toList_push (recent : Recent α) (value : α) :
    (recent.push value).toList =
      (recent.toList ++ [value]).drop (recent.size + 1 - recent.bound) := by
  have fits := recent.size_le
  unfold push toList size
  split
  · next room =>
    rw [show recent.items.size + 1 - recent.bound = 0 by omega]
    simp
  · next full =>
    rw [show recent.items.size + 1 - recent.bound = 1 by omega]
    simp only [Array.toList_extract, List.extract_eq_take_drop, Array.toList_push]
    exact List.take_of_length_le (by simp)

/-- The last `count` of them. -/
def last (recent : Recent α) (count : Nat) : List α :=
  (recent.items.extract (recent.items.size - count) recent.items.size).toList

end Recent

end Chip8
