import Chip8.InstructionSet
import Chip8.Journal
import Chip8.Program
import Chip8.Random.Supply

/-!
# The machine as a host drives it

Around the state stand the parts that a host sets up once or feeds over time: a glyph table, a supply of
random bytes, the input latch, the tick counter, and the bookkeeping of faults and steps.

The host has three clocks to turn: `advanceTimers` at sixty ticks per second, `syncKeys` whenever keys
may have changed, and `step` as fast as it likes.  `tick`, `frame` and `run` turn them together.

* `Machine`, `Settings`, `Machine.create` — a machine and what can be chosen about it.
* `Session`, `Operation` — a machine with its journal, and what a host does to it.  A refused operation
  keeps what it had done up to the refusal.
* `Machine.step` — fetch, decode, execute; faults are reported and recorded and never refused.
-/

namespace Chip8

/-! ## Machines and sessions -/

/-- A machine. -/
structure Machine where
  /-- The glyph table that every reset restores. -/
  font : Font
  instructions : InstructionSet
  random : RandomSupply
  /-- Whether steps are recorded. -/
  tracing : Bool
  /-- Whether an observer is shown every step. -/
  hasObserver : Bool
  trace : Recent Entry
  faults : FaultCounts
  /-- Timer ticks since creation or reset. -/
  ticks : Nat
  latch : Latch
  state : State

/-- What can be chosen when a machine is created. -/
structure Settings where
  random : RandomSupply
  glyphs : List Int := hexGlyphs
  tracing : Bool := false
  traceBound : Int := defaultTraceBound
  /-- Whether the host has an observer of steps.  An observer is a function of the host.  It is taken to
  return and to leave the machine alone, so all there is to tell of it are the calls that it gets. -/
  hasObserver : Bool := false

/-- A machine with its journal. -/
structure Session where
  machine : Machine
  journal : Journal := #[]

/-- What a host does. -/
abbrev Operation := EStateM Error Session

namespace Machine

/-- A cleared machine. -/
def create (settings : Settings) : Except Error Machine := do
  let traceBound ← extent .negativeTraceBound settings.traceBound
  let font ← Font.ofGlyphs settings.glyphs
  return {
    font
    instructions := .standard
    random := settings.random
    tracing := settings.tracing
    hasObserver := settings.hasObserver
    trace := .empty traceBound
    faults := {}
    ticks := 0
    latch := {}
    state := .fresh font }

/-! ## Building blocks -/

/-- Writes an event into the journal. -/
def emit (event : Event) : Operation Unit :=
  modify fun session => { session with journal := session.journal.push event }

/-- Changes the machine. -/
def change (f : Machine → Machine) : Operation Unit :=
  modify fun session => { session with machine := f session.machine }

/-- Looks at the machine. -/
def look : Operation Machine := return (← get).machine

/-- Refuses what is refused elsewhere. -/
def accept {α : Type} (result : Except Error α) : Operation α :=
  match result with
  | .ok value => return value
  | .error error => throw error

/-- The session with another state. -/
def withState (session : Session) (state : State) : Session :=
  { session with machine := { session.machine with state } }

/-- Lets an action change the state. -/
def onState {α : Type} (action : Action α) : Operation α := fun session =>
  match action.run session.machine.state with
  | .ok value state => .ok value (withState session state)
  | .error error state => .error error (withState session state)

/-- Runs an operation up to a fault; the answer is the fault.  Other refusals stand. -/
def catchFault (operation : Operation Unit) : Operation (Option Fault) := fun session =>
  match operation.run session with
  | .ok _ session => .ok none session
  | .error (.fault fault) session => .ok (some fault) session
  | .error error session => .error error session

/-! ## Setting up -/

/-- Returns to the cleared machine.  Settings, the glyph table and the position of the random supply
stay; the program does not. -/
def reset : Operation Unit := do
  change fun machine =>
    { machine with
      state := .fresh machine.font
      ticks := 0
      latch := {}
      trace := machine.trace.clear
      faults := {} }
  emit .reset

/-- Replaces the glyph table, now and for later resets. -/
def loadFont (glyphs : List Int) : Operation Unit := do
  let font ← accept (Font.ofGlyphs glyphs)
  onState (State.loadFont font)
  change fun machine => { machine with font }

/-- Why a program cannot be loaded: its length counts first, then its first word out of range. -/
def checkProgram (words : List Int) : Except Error Unit :=
  if programCapacity < 2 * words.length then .error (.programTooLong (2 * words.length))
  else
    match words.find? fun word => word < 0 || 0xFFFF < word with
    | some word => .error (.wordRange word)
    | none => .ok ()

/-- Writes a program to its place. -/
def load (words : List Int) : Operation Unit := do
  accept (checkProgram words)
  onState (State.writeBlock programStart (words.flatMap fun word => [word / 256, word % 256]))
  emit (.loaded words.length)

/-- Loads the program in a file. -/
def loadFile (file : ProgramFile) : Operation Unit := do
  load (← accept (readProgram file))

/-! ## Timers and keys -/

/-- Counts both timers down by one, to zero at most. -/
def advanceTimers : Operation Unit := do
  change fun machine =>
    { machine with
      ticks := machine.ticks + 1
      state := { machine.state with
        delayTimer := max 0 (machine.state.delayTimer - 1)
        soundTimer := max 0 (machine.state.soundTimer - 1) } }
  emit .ticked

/-- Presses or releases a virtual key; the keypad follows at the next synchronisation. -/
def holdKey (key : Int) (pressed : Bool) : Operation Unit := do
  let latch ← accept ((← look).latch.hold key pressed)
  change fun machine => { machine with latch }
  emit (.held key pressed)

/-- Sets a key of the keypad; the answer is its state before. -/
def setKeypad (key : Key) (pressed : Bool) : Action Bool := do
  match (← get).keypad[key.1]? with
  | some before =>
    modify fun state => { state with keypad := state.keypad.setIfInBounds key.1 pressed }
    return before
  | none => throw .outOfBounds

/-- Brings one key up to date.  A key that goes down while the machine is suspended is stored in the
register that waits for it, and execution resumes behind the waiting instruction; the answer says
so. -/
def syncKey (key : Key) : Operation Bool := do
  let pressed := (← look).latch.pressed key
  let before ← onState (setKeypad key pressed)
  if pressed && !before then
    match (← look).state.mode with
    | .running => return false
    | .awaitingKey register =>
      onState do
        State.setRegister register key.1
        State.resume
        State.advance
      emit (.resolved key register)
      return true
  else return false

/-- Brings keys up to date one after the other; the answer is the last one that ended a
suspension. -/
def syncKeysFrom (found : Option Key) : List Key → Operation (Option Key)
  | [] => return found
  | key :: rest => do
    if ← syncKey key then syncKeysFrom (some key) rest else syncKeysFrom found rest

/-- Takes a report of the host, if there is one, and brings the keypad up to date in the order of the
keys.  The answer is the key that ended a suspension. -/
def syncKeys (report : Option HostReport) : Operation (Option Key) := do
  match report with
  | some report =>
    let latch ← accept ((← look).latch.report report)
    change fun machine => { machine with latch }
  | none => pure ()
  let resolved ← syncKeysFrom none (List.finRange keyCount)
  emit (.synced report)
  return resolved

/-! ## Steps -/

/-- Takes a random byte if a kind of instruction needs one. -/
def byteFor (kind : Kind) : Operation Int := do
  if kind = .random then
    let (byte, random) := (← look).random.draw
    change fun machine => { machine with random }
    return byte
  else return 0

/-- Carries out one instruction with a given set. -/
def executeWith (set : InstructionSet) (kind : Kind) (ins : Instruction) : Operation Unit := do
  let byte ← byteFor kind
  onState (set.execute byte kind ins)

/-- Carries out an instruction of the kind that a label names, decoded or not. -/
def executeLabel (set : InstructionSet) (label : String) (ins : Instruction) : Operation Unit :=
  match Kind.ofLabel? label with
  | some kind => executeWith set kind ins
  | none => throw (.unknownKind label)

/-- Counts a fault. -/
def report (fault : Fault) : Operation Unit := do
  change fun machine => { machine with faults := machine.faults.record fault.kind }
  emit (.faulted fault)

/-- Completes a step: the entry goes to the trace, if there is one, and to the observer, if there is
one, of which it is taken that it returns and does nothing to the machine. -/
def complete (entry : Entry) : Operation Entry := do
  let machine ← look
  if machine.tracing then
    change fun machine => { machine with trace := machine.trace.push entry }
  emit (.stepped entry)
  if machine.hasObserver then emit (.observed entry)
  return entry

/-- The snapshot that a step records. -/
def snapshot? (machine : Machine) : Option Snapshot :=
  if machine.tracing then some machine.state.snapshot else none

/-- What is wrong with a word as such, as a sentence and as a fault at `pc`. -/
def wordTrouble (pc : Int) (decoding : Decoding) : Option String × Option Fault :=
  if decoding.isValid then (none, none)
  else (decoding.problem?, some (.unknownOpcode decoding.opcode pc))

/-- Carries out a decoded word that was fetched at `pc`; the answer is what went wrong, as a sentence and
as a fault.  A word without a meaning is reported and then stepped over. -/
def executeDecoded (pc : Int) (decoding : Decoding) : Operation (Option String × Option Fault) := do
  let trouble := wordTrouble pc decoding
  if let some fault := trouble.2 then report fault
  match ← catchFault (executeWith (← look).instructions decoding.kind decoding.instruction) with
  | some fault =>
    report fault
    return (some fault.report, some fault)
  | none => return trouble

/-- Fetches, decodes and executes one word.  There is no entry while the machine is suspended. -/
def step : Operation (Option Entry) := do
  let machine ← look
  if machine.state.mode.isWaiting then return none
  let pc := machine.state.pc
  let cycle := machine.state.cycleCount
  let before := machine.snapshot?
  match fetch machine.state.memory pc with
  | .error (.fault fault) =>
    report fault
    let after := (← look).snapshot?
    return some (← complete
      { cycle, pc, decoding := none, error := some fault.report, fault := some fault, before, after })
  | .error error => throw error
  | .ok opcode =>
    let decoding ← accept (decode opcode)
    emit (.decoded pc decoding)
    let (error, fault) ← executeDecoded pc decoding
    let after := (← look).snapshot?
    return some (← complete { cycle, pc, decoding := some decoding, error, fault, before, after })

/-! ## Ticks, frames and runs -/

/-- One tick of the timers, one synchronisation, one step. -/
def tick (keys : Option HostReport) : Operation (Option Entry) := do
  advanceTimers
  let _ ← syncKeys keys
  step

/-- Steps at most so many times and stops once the machine is suspended; the answer is how many steps
were taken, on top of those already `taken`. -/
def stepUpTo (taken : Nat) : Nat → Operation Nat
  | 0 => return taken
  | count + 1 => do
    match ← step with
    | some _ => stepUpTo (taken + 1) count
    | none => return taken

/-- One tick of the timers, one synchronisation, and up to so many steps; the answer is how many were
taken. -/
def frame (keys : Option HostReport) (steps : Int := defaultFrameSteps) : Operation Nat := do
  advanceTimers
  let _ ← syncKeys keys
  stepUpTo 0 steps.toNat

/-- So many frames with the same report. -/
def frames (keys : Option HostReport) (steps : Int) : Nat → Operation Unit
  | 0 => return
  | count + 1 => do
    let _ ← frame keys steps
    frames keys steps count

/-- Runs so many frames; the answer is the trace. -/
def run (count : Int) (steps : Int := defaultFrameSteps) (keys : Option HostReport := none) :
    Operation (List Entry) := do
  frames keys steps count.toNat
  return (← look).trace.toList

/-! ## Looking -/

/-- Whether a tone would sound. -/
def soundActive (machine : Machine) : Bool := 0 < machine.state.soundTimer

/-- Words of memory, decoded, from an address on; by default from the program counter. -/
def listing (machine : Machine) (start : Option Int := none) (count : Int := 8) :
    Except Error (List Line) :=
  Chip8.listing machine.state.memory (start.getD machine.state.pc) count

end Machine

end Chip8
