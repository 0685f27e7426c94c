import Chip8.Machine
import Chip8.Text.Lines

/-!
# Looking back on a run

What a host shows after it has run a machine: a record of the machine's final figures, and the recorded
trace as text.

* `Summary`, `Machine.summary` — the figures.
* `Machine.traceReport` — every recorded step with what it changed, then the final state.
-/

namespace Chip8

/-- The figures of a machine. -/
structure Summary where
  cycles : Int
  timerTicks : Nat
  isWaiting : Bool
  registers : List Int
  pc : Int
  index : Int
  /-- Return addresses, the outermost call first. -/
  stack : List Int
  delayTimer : Int
  soundTimer : Int
  litPixels : Nat
  faults : FaultCounts
  traceLength : Nat
  /-- The errors of the steps on the trace. -/
  errors : List String
  deriving DecidableEq, Repr

/-- Fault counts as text. -/
def FaultCounts.text (counts : FaultCounts) : String :=
  Text.braced (counts.entries.map fun entry => (entry.1.label, toString entry.2))

/-- Both timers as text. -/
def Summary.timersText (summary : Summary) : String :=
  Text.braced [("delay", toString summary.delayTimer), ("sound", toString summary.soundTimer)]

namespace Machine

/-- The figures of a machine. -/
def summary (machine : Machine) : Summary where
  cycles := machine.state.cycleCount
  timerTicks := machine.ticks
  isWaiting := machine.state.mode.isWaiting
  registers := machine.state.registers.toList
  pc := machine.state.pc
  index := machine.state.index
  stack := machine.state.stack.reverse
  delayTimer := machine.state.delayTimer
  soundTimer := machine.state.soundTimer
  litPixels := machine.state.screen.litCount
  faults := machine.faults
  traceLength := machine.trace.size
  errors := machine.trace.toList.filterMap Entry.error

/-! ## The trace as text -/

/-- A rule across the page. -/
def rule : String := String.ofList (List.replicate 70 '=')

/-- The registers that a step changed. -/
def registerChanges (before after : Snapshot) : List String :=
  (before.registers.toList.zip after.registers.toList).zipIdx.filterMap fun entry =>
    let ((old, new), register) := entry
    if old = new then none
    else some s!"V{Text.hex 0 register}: {Text.hex 2 old} -> {Text.hex 2 new}"

/-- What a step changed, where that is worth a line: registers, and a program counter that did not
move on to the next word. -/
def changeLines (before after : Snapshot) : List String :=
  let changes := registerChanges before after
  (if changes.isEmpty then [] else ["  Changes: " ++ ", ".intercalate changes]) ++
  (if before.pc + 2 = after.pc then []
    else [s!"  PC: {Text.hex 3 before.pc} -> {Text.hex 3 after.pc}"])

/-- The lines about one step. -/
def entryLines (entry : Entry) : List String :=
  let status := match entry.error with
    | some error => s!"FAULT: {error}"
    | none => "OK"
  let changes := match entry.before, entry.after with
    | some before, some after => changeLines before after
    | _, _ => []
  ["", s!"[Cycle {entry.cycle}] {status}", s!"  {entry.line}"] ++ changes

/-- The recorded trace and the final state as text. -/
def traceReport (machine : Machine) : String :=
  Text.ofLines (
    [rule, "CHIP-8 EXECUTION TRACE", rule] ++
    machine.trace.toList.flatMap entryLines ++
    ["", rule, "FINAL STATE", rule,
     s!"  {machine.state.summaryLine}", s!"  Faults: {machine.faults.text}"])

end Machine

end Chip8
