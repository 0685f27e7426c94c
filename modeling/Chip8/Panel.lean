import Chip8.Machine.Summary

/-!
# The control panel

A small front end around a machine: pick a built-in program or load one, run some frames, press a key of
the pad, and look at three texts.

* `examples` — the built-in programs.
* `Reading`, `Reading.whole` — what the controls for numbers hand over, and the whole numbers that are made
  of it where they are needed.
* `Views`, `Panel.display` — the texts; showing them lowers the screen's dirty flag.
* `Panel` — the machine on the panel; there is none before the first program.
* `Panel.Command`, `Panel.Command.perform` — what a user does.  Loading replaces the machine by a new
  one.
-/

namespace Chip8

/-- A panel: the machine that it shows, if there is one yet. -/
abbrev Panel := Option Session

namespace Panel

/-! ## Built-in programs -/

/-- The built-in programs by name. -/
def examples : List (String × List Int) :=
  [("Clear loop",
    [0x00E0,    -- CLS
     0x1202]),  -- JP 0x202
   ("BCD 195",
    [0x60C3,    -- LD V0, 195
     0xA300,    -- LD I, 0x300
     0xF033,    -- LD B, V0
     0xF265,    -- LD V2, [I]: V0 to V2 are now 1, 9, 5
     0x6300,    -- LD V3, 0
     0x6400,    -- LD V4, 0
     0xF029,    -- LD F, V0
     0xD345,    -- DRW V3, V4, 5
     0x7305,    -- ADD V3, 5
     0xF129,    -- LD F, V1
     0xD345,    -- DRW V3, V4, 5
     0x7305,    -- ADD V3, 5
     0xF229,    -- LD F, V2
     0xD345,    -- DRW V3, V4, 5
     0x121C]),  -- JP 0x21C
   ("Echo key",
    [0xF00A,    -- LD V0, K
     0x00E0,    -- CLS
     0xF029,    -- LD F, V0
     0x6100,    -- LD V1, 0
     0xD115,    -- DRW V1, V1, 5
     0x1200])]  -- JP 0x200

/-- The built-in program with a name. -/
def exampleProgram (name : String) : Except Error (List Int) :=
  match examples.find? (·.1 == name) with
  | some entry => .ok entry.2
  | none => .error (.unknownExample name)

/-! ## Numbers from the controls -/

/-- What a control for a number hands over. -/
inductive Reading where
  | number (value : Rat)
  /-- An infinity, with either sign. -/
  | infinite
  /-- A result that is no number. -/
  | undefined
  /-- A control that was left empty. -/
  | blank
  deriving DecidableEq, Repr

/-- The whole number in a reading; a fraction is cut off. -/
def Reading.whole : Reading → Except Error Int
  | number value => .ok (value.num.tdiv value.den)
  | infinite => .error .infiniteNumber
  | undefined => .error .undefinedNumber
  | blank => .error .blankNumber

/-! ## The three texts -/

/-- What the panel shows. -/
structure Views where
  screen : String
  registers : String
  trace : String
  deriving DecidableEq, Repr

/-- Registers V0 to V7 beside V8 to VF. -/
def registerRows (registers : List Int) : List String :=
  (List.range 8).map fun (row : Nat) =>
    s!"V{Text.hex 0 row}: 0x{Text.hex 2 (registers.getD row 0)}    " ++
    s!"V{Text.hex 0 (row + 8)}: 0x{Text.hex 2 (registers.getD (row + 8) 0)}"

/-- The return addresses, the outermost call first. -/
def stackText (stack : List Int) : String :=
  if stack.isEmpty then "-" else " ".intercalate (stack.map (Text.hex 3))

/-- The figures of a machine as text. -/
def registersView (summary : Summary) : String :=
  "\n".intercalate (
    [s!"PC: 0x{Text.hex 4 summary.pc}   I: 0x{Text.hex 4 summary.index}",
     s!"DT: {Text.alignRight 3 (toString summary.delayTimer)}     " ++
     s!"ST: {Text.alignRight 3 (toString summary.soundTimer)}",
     ""] ++
    registerRows summary.registers ++
    ["",
     s!"Stack: {stackText summary.stack}",
     s!"Cycles: {summary.cycles}  Time: {emulatedSeconds summary.timerTicks}s"] ++
    (if summary.isWaiting then ["Waiting for key"] else []) ++
    (if summary.faults.isEmpty then [] else [s!"Faults: {summary.faults.text}"]))

/-- One step of the trace. -/
def traceLine (entry : Entry) : String :=
  match entry.error with
  | some error => s!"{entry.line}   ! {error}"
  | none => entry.line

/-- How many steps the panel shows. -/
def shownSteps : Nat := 40

/-- How many words ahead the panel shows. -/
def shownWords : Nat := 6

/-- The last steps and the words ahead as text. -/
def traceView (machine : Machine) : Except Error String := do
  let ahead ← machine.listing none shownWords
  return "\n".intercalate (
    (machine.trace.last shownSteps).map traceLine ++
    ["", "NEXT"] ++
    ahead.map fun line =>
      s!"{Text.hex 3 line.address}: {Text.hex 4 line.decoding.opcode}  {line.decoding.mnemonic}")

/-- Shows the machine.  The screen counts as rendered afterwards. -/
def display : Operation Views := do
  let machine ← Machine.look
  Machine.change fun machine =>
    { machine with
      state := { machine.state with screen := { machine.state.screen with dirty := false } } }
  let trace ← Machine.accept (traceView machine)
  return {
    screen := machine.state.screen.render "█" " "
    registers := registersView machine.summary
    trace }

/-! ## What a user does -/

/-- Steps that the panel's machines remember. -/
def traceBound : Nat := 200

/-- A user's action. -/
inductive Command where
  /-- Load a built-in program into a new machine. -/
  | pick (name : String) (seed : Reading)
  /-- Load a program file into a new machine. -/
  | upload (bytes : List UInt8) (seed : Reading)
  /-- Run some frames. -/
  | run (frames : Reading) (steps : Reading)
  /-- Press a key for one frame and release it for another. -/
  | press (key : Int) (steps : Reading)
  deriving DecidableEq, Repr

/-- A new machine. -/
def newSession (seed : Reading) : Except Error Session := do
  let machine ← Machine.create
    { random := .seeded (← seed.whole), tracing := true, traceBound := traceBound }
  return { machine }

/-- Loads a built-in program. -/
def pick (name : String) : Operation Views := do
  Machine.load (← Machine.accept (exampleProgram name))
  display

/-- Loads a program file; an empty one leaves program memory clear.  A refused program is told in place
of the figures, and the machine stays without a program. -/
def upload (bytes : List UInt8) : Operation Views := do
  if bytes.isEmpty then display
  else
    let words := wordsOfBytes .big bytes
    match Machine.checkProgram words with
    | .ok _ =>
      Machine.load words
      display
    | .error error => return { ← display with registers := s!"Error: {error.message}" }

/-- Runs some frames. -/
def run (frames steps : Reading) : Operation Views := do
  let frames ← Machine.accept frames.whole
  let steps ← Machine.accept steps.whole
  let _ ← Machine.run frames steps
  display

/-- Holds a virtual key for one frame and releases it for another.  The number of steps is not looked at
before the key is down, and where it is refused nothing releases the key. -/
def press (key : Int) (steps : Reading) : Operation Views := do
  Machine.holdKey key true
  let _ ← Machine.frame none (← Machine.accept steps.whole)
  Machine.holdKey key false
  let _ ← Machine.frame none (← Machine.accept steps.whole)
  display

/-- Sets up a new machine, which takes the place of the current one if the operation succeeds on it. -/
def replacing (seed : Reading) (operation : Operation Views) : EStateM Error Panel Views := fun panel =>
  match newSession seed with
  | .error error => .error error panel
  | .ok session =>
    match operation.run session with
    | .ok views session => .ok views (some session)
    | .error error _ => .error error panel

/-- Carries out an operation on the machine that is there. -/
def onCurrent (operation : Operation Views) : EStateM Error Panel Views := fun panel =>
  match panel with
  | none => .error .noMachine none
  | some session =>
    match operation.run session with
    | .ok views session => .ok views (some session)
    | .error error session => .error error (some session)

/-- Carries out a user's action. -/
def Command.perform : Command → EStateM Error Panel Views
  | .pick name seed => replacing seed (Panel.pick name)
  | .upload bytes seed => replacing seed (Panel.upload bytes)
  | .run frames steps => onCurrent (Panel.run frames steps)
  | .press key steps => onCurrent (Panel.press key steps)

end Panel

end Chip8
