import Chip8.Memory
import Chip8.Screen

/-!
# The state of the machine

Everything that an instruction can read or change, as one value.  The state knows nothing of
instructions: it offers bounded access to registers, memory, stack and screen, and leaves every
decision to its callers.

* `State` — the record, with the cleared machine as its default.
* `Action` — what changes a state.  An action that is refused keeps the changes made before the
  refusal, as a machine does.
* `Font` — glyph tables that fit in front of program memory; `State.fresh` — the cleared machine with
  such a table loaded.
* `State.isConsistent` — what a host may check.

A host can put any integer into a register, the index or a timer, and registers, keypad and memory of
any length into a state.  `State.WellFormed` says what holds unless a host does so; the actions are
defined on every state all the same, and an access that finds no cell is `Error.outOfBounds`.
-/

namespace Chip8

/-! ## The record -/

instance : Side screenWidth := ⟨by decide⟩

instance : Side screenHeight := ⟨by decide⟩

/-- Whether instructions are executed. -/
inductive Mode where
  | running
  /-- Suspended until a key is pressed; its number goes to `register`. -/
  | awaitingKey (register : Int)
  deriving DecidableEq, Repr, Inhabited

/-- The name of a mode in reports. -/
def Mode.label : Mode → String
  | running => "RUNNING"
  | awaitingKey register => s!"WAIT_KEY(V{Text.hex 0 register})"

/-- Whether the machine is suspended. -/
def Mode.isWaiting : Mode → Bool
  | running => false
  | awaitingKey _ => true

/-- The state of the machine. -/
structure State where
  memory : Memory := Memory.zeroed memorySize
  registers : Array Int := Array.replicate registerCount 0
  index : Int := 0
  pc : Int := programStart
  /-- Return addresses, the innermost call first. -/
  stack : List Int := []
  delayTimer : Int := 0
  soundTimer : Int := 0
  keypad : Array Bool := Array.replicate keyCount false
  mode : Mode := .running
  screen : Screen screenWidth screenHeight := .blank screenWidth screenHeight
  cycleCount : Int := 0
  deriving DecidableEq, Repr

/-- The shape that every operation of the machine relies on and keeps. -/
structure State.WellFormed (state : State) : Prop where
  memory_size : state.memory.size = memorySize
  registers_size : state.registers.size = registerCount
  register_bounds : ∀ value ∈ state.registers, 0 ≤ value ∧ value ≤ 255
  index_bounds : 0 ≤ state.index ∧ state.index ≤ 0xFFFF
  delay_bounds : 0 ≤ state.delayTimer ∧ state.delayTimer ≤ 255
  sound_bounds : 0 ≤ state.soundTimer ∧ state.soundTimer ≤ 255
  keypad_size : state.keypad.size = keyCount
  stack_length : state.stack.length ≤ stackCapacity

/-- What changes a state. -/
abbrev Action := EStateM Error State

namespace State

/-! ## Registers -/

/-- The register at a position that an instruction names. -/
def registerAt (position : Nat) : Action Int := do
  match (← get).registers[position]? with
  | some value => return value
  | none => throw .outOfBounds

/-- Replaces the register at a position. -/
def replaceRegister (position : Nat) (value : Int) : Action Unit := do
  if position < (← get).registers.size then
    modify fun state => { state with registers := state.registers.setIfInBounds position value }
  else throw .outOfBounds

/-- The register with a number that a host names. -/
def getRegister (register : Int) : Action Int :=
  if 0 ≤ register ∧ register < registerCount then registerAt register.toNat
  else throw (.invalidRegister register)

/-- Stores the low eight bits of a value in a register. -/
def setRegister (register value : Int) : Action Unit :=
  if 0 ≤ register ∧ register < registerCount then replaceRegister register.toNat (value % 256)
  else throw (.invalidRegister register)

/-- Sets the flag register to one or zero. -/
def setFlag (condition : Bool) : Action Unit :=
  replaceRegister flagRegister (if condition then 1 else 0)

/-! ## Memory -/

/-- Reads a byte; the address wraps. -/
def readByte (address : Int) : Action Int := do
  match (← get).memory.read? address with
  | some byte => return byte.toNat
  | none => throw .outOfBounds

/-- Stores the low eight bits of a value; the address wraps. -/
def writeByte (address value : Int) : Action Unit := do
  if Memory.cell address < (← get).memory.size then
    modify fun state => { state with memory := state.memory.write address value }
  else throw .outOfBounds

/-- Stores values at ascending addresses. -/
def writeBlock (address : Int) : List Int → Action Unit
  | [] => return
  | value :: rest => do
    writeByte address value
    writeBlock (address + 1) rest

/-! ## Program counter and stack -/

/-- Moves the program counter. -/
def advance (amount : Int := 2) : Action Unit :=
  modify fun state => { state with pc := state.pc + amount }

/-- Sets the program counter. -/
def jumpTo (address : Int) : Action Unit :=
  modify fun state => { state with pc := address }

/-- Sets the index. -/
def setIndex (address : Int) : Action Unit :=
  modify fun state => { state with index := address }

/-- Pushes a return address, unless the stack is full. -/
def push (address : Int) : Action Unit := do
  let state ← get
  if stackCapacity ≤ state.stack.length then throw (.fault (.stackOverflow address state.pc))
  else modify fun state => { state with stack := address :: state.stack }

/-- Takes the innermost return address off the stack. -/
def pop : Action Int := do
  let state ← get
  match state.stack with
  | [] => throw (.fault (.stackUnderflow state.pc))
  | address :: rest =>
    modify fun state => { state with stack := rest }
    return address

/-! ## Suspension -/

/-- Suspends execution until a key is pressed. -/
def awaitKey (register : Int) : Action Unit :=
  modify fun state => { state with mode := .awaitingKey register }

/-- Resumes execution. -/
def resume : Action Unit :=
  modify fun state => { state with mode := .running }

/-! ## Glyphs and the cleared machine -/

end State

/-- A glyph table that ends before program memory. -/
structure Font where
  glyphs : List Int
  fits : fontStart + glyphs.length ≤ programStart
  deriving DecidableEq, Repr

namespace Font

/-- The sixteen hexadecimal digits. -/
def standard : Font := ⟨hexGlyphs, by decide⟩

instance : Inhabited Font := ⟨standard⟩

/-- Accepts a table that fits. -/
def ofGlyphs (glyphs : List Int) : Except Error Font :=
  if fits : fontStart + glyphs.length ≤ programStart then .ok ⟨glyphs, fits⟩
  else .error (.fontTooLong glyphs.length)

end Font

namespace State

/-- Copies a glyph table to its place.  Bytes behind the table's end stay as they are. -/
def loadFont (font : Font) : Action Unit := writeBlock fontStart font.glyphs

/-- The cleared machine with a glyph table. -/
def fresh (font : Font) : State :=
  { memory := (Memory.zeroed memorySize).writeBlock fontStart font.glyphs }

/-! ## Checks -/

/-- Whether a state has the right dimensions, values in range, and a program counter that is even and
can be fetched from. -/
def isConsistent (state : State) : Bool :=
  state.memory.size == memorySize &&
  state.registers.size == registerCount &&
  state.registers.all (fun value => 0 ≤ value && value ≤ 255) &&
  (0 ≤ state.index && state.index ≤ 0xFFFF) &&
  (0 ≤ state.pc && state.pc + 1 < memorySize && state.pc % 2 == 0) &&
  state.stack.length ≤ stackCapacity &&
  (0 ≤ state.delayTimer && state.delayTimer ≤ 255) &&
  (0 ≤ state.soundTimer && state.soundTimer ≤ 255) &&
  state.keypad.size == keyCount

/-- The registers by name. -/
def namedRegisters (state : State) : List (String × Int) :=
  state.registers.toList.zipIdx.map fun entry => (s!"V{Text.hex 0 entry.2}", entry.1)

/-- The registers on one line. -/
def registerLine (state : State) : String :=
  " ".intercalate (state.namedRegisters.map fun entry => entry.1 ++ "=" ++ Text.hex 2 entry.2)

/-- The state on one line, memory and screen left out. -/
def summaryLine (state : State) : String :=
  s!"[Cycle {state.cycleCount}] PC={Text.hex 3 state.pc} I={Text.hex 3 state.index} " ++
  s!"DT={state.delayTimer} ST={state.soundTimer} SP={state.stack.length} " ++
  s!"{state.registerLine} {state.mode.label}"

end State

end Chip8
