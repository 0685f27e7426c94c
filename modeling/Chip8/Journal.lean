import Chip8.Latch
import Chip8.Trace

/-!
# The journal

What happens inside the machine is written down as it happens: programs loaded, words decoded, faults
reported, key-waits resolved, timers advanced.  The journal influences nothing.  Log lines and the calls
that an observer receives are read off it.

* `Event` — one thing that happened.
* `Severity`, `LogLine` — what is logged, and how urgently.
* `Event.logLine?` — the line of an event; most bookkeeping events have none.
* `observedEntries`, `logLines` — a journal as an observer and as a log file see it.
-/

namespace Chip8

/-- One thing that happened. -/
inductive Event where
  /-- A program of so many words was loaded. -/
  | loaded (words : Nat)
  /-- The machine was cleared. -/
  | reset
  /-- Both timers were advanced. -/
  | ticked
  /-- The keypad was brought up to date, perhaps after a report of the host. -/
  | synced (report : Option HostReport)
  /-- A virtual key was pressed or released. -/
  | held (key : Int) (pressed : Bool)
  /-- A key press ended a suspension. -/
  | resolved (key : Key) (register : Int)
  /-- A word was fetched and decoded. -/
  | decoded (pc : Int) (decoding : Decoding)
  /-- A fault was reported. -/
  | faulted (fault : Fault)
  /-- A step was completed. -/
  | stepped (entry : Entry)
  /-- An observer was shown an entry. -/
  | observed (entry : Entry)
  deriving DecidableEq, Repr

/-- What happened, the oldest first. -/
abbrev Journal := Array Event

/-! ## Log lines -/

/-- How urgent a log line is. -/
inductive Severity where
  | debug | info | warning | error
  deriving DecidableEq, Repr, Inhabited

namespace Severity

/-- The rank of a severity. -/
def rank : Severity → Nat
  | debug => 10
  | info => 20
  | warning => 30
  | error => 40

/-- The name of a severity. -/
def label : Severity → String
  | debug => "DEBUG"
  | info => "INFO"
  | warning => "WARNING"
  | error => "ERROR"

/-- The severity with a name. -/
def ofLabel? (text : String) : Option Severity :=
  [debug, info, warning, error].find? fun severity => severity.label == text

end Severity

/-- A line of the log. -/
structure LogLine where
  severity : Severity
  /-- The part of the machine that speaks. -/
  speaker : String
  text : String
  deriving DecidableEq, Repr

/-- A line as it is printed. -/
def LogLine.render (line : LogLine) : String :=
  s!"{line.severity.label} {line.speaker}: {line.text}"

namespace Event

/-- The speaker of lines about execution. -/
def processor : String := "chip8_vm.cpu"

/-- The speaker of lines about keys. -/
def keypad : String := "chip8_vm.keypad"

/-- The log line of an event. -/
def logLine? : Event → Option LogLine
  | loaded words =>
    some ⟨.info, processor, s!"Loaded program of {words} words at 0x{Text.hex 3 programStart}"⟩
  | reset => some ⟨.debug, processor, "Machine reset"⟩
  | resolved key register =>
    some ⟨.debug, keypad,
      s!"Key 0x{Text.hex 0 key.1} resolved wait into V{Text.hex 0 register}"⟩
  | decoded pc decoding =>
    some ⟨.debug, processor,
      s!"{Text.hex 3 pc}: {Text.hex 4 decoding.opcode} {decoding.mnemonic}"⟩
  | faulted fault =>
    some ⟨if fault.kind = .badPc then .error else .warning, processor, fault.report⟩
  | _ => none

/-- The entry that an event shows to an observer. -/
def observedEntry? : Event → Option Entry
  | observed entry => some entry
  | _ => none

/-- The entry of a completed step. -/
def steppedEntry? : Event → Option Entry
  | stepped entry => some entry
  | _ => none

end Event

/-- The entries that the observer was shown. -/
def observedEntries (journal : Journal) : List Entry :=
  journal.toList.filterMap Event.observedEntry?

/-- The entries of all completed steps. -/
def steppedEntries (journal : Journal) : List Entry :=
  journal.toList.filterMap Event.steppedEntry?

/-- The log lines of a journal from a severity upwards. -/
def logLines (threshold : Severity) (journal : Journal) : List LogLine :=
  (journal.toList.filterMap Event.logLine?).filter fun line =>
    threshold.rank ≤ line.severity.rank

end Chip8
