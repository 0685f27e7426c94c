import Chip8.CommandLine.Options
import Chip8.Machine.Summary

/-!
# The headless runner

Runs a program for a number of frames with some keys held all the time, and prints the screen and the
final figures.  The verdict is the exit code: zero exactly if the program could be loaded and no fault
was reported.

Lines that the options refuse, a program file that does not exist and a program that does not fit are
outcomes of their own.  What the runner makes no provision for, such as a directory in place of the file
or a blank where a number is needed, is an `Error`.

* `Outcome` — exit code, printed text and log.
* `Pace` — how many frames of how many steps.
* `runProgram` — the run, given what the name of the program file leads to.
* `runLine` — the same from the words of a command line.
-/

namespace Chip8.CommandLine

/-- What a run leaves behind. -/
structure Outcome where
  exitCode : Nat
  output : String := ""
  log : List LogLine := []
  deriving DecidableEq, Repr

/-- The exit code of a refused command line. -/
def refusedCode : Nat := 2

/-- The outcome of a refused command line. -/
def Outcome.refused (refusal : Refusal) : Outcome :=
  ⟨refusedCode, Text.ofLines [s!"Error: {refusal.message}"], []⟩

/-- How long to run. -/
structure Pace where
  frames : Nat
  /-- Instructions in each frame. -/
  steps : Nat
  deriving DecidableEq, Repr

/-- How long a line asks to run, unless one of the counts is negative.  The frames are looked at first,
and the second count only if the first will do. -/
def Options.pace? (options : Options) : Except Error (Option Pace) := do
  let frames ← options.frames.value "--frames"
  if frames < 0 then return none
  let steps ← options.frameSteps.value "--steps-per-frame"
  if steps < 0 then return none
  return some ⟨frames.toNat, steps.toNat⟩

/-- A rule as wide as the screen. -/
def screenRule : String := String.ofList (List.replicate screenWidth '-')

/-- The final figures, one line each. -/
def figureLines (machine : Machine) : List String :=
  let summary := machine.summary
  [s!"Cycles: {summary.cycles} ({emulatedSeconds summary.timerTicks}s emulated)",
   s!"PC: 0x{Text.hex 3 summary.pc}  I: 0x{Text.hex 3 summary.index}",
   s!"Registers: {machine.state.registerLine}",
   "Stack: " ++
    Text.bracketed (summary.stack.map fun address => Text.quoted (Text.hexLiteral address)),
   s!"Timers: {summary.timersText}"] ++
  (if summary.isWaiting then ["Waiting for key"] else []) ++
  (if summary.faults.isEmpty then [] else [s!"Faults: {summary.faults.text}"])

/-- The text printed about a run. -/
def report (options : Options) (machine : Machine) : String :=
  Text.ofLines (if options.quiet then [] else [s!"Loading ROM: {options.program}", screenRule]) ++
  (if options.trace then machine.traceReport else "") ++
  Text.ofLines [machine.state.screen.render] ++
  Text.ofLines (if options.quiet then [] else screenRule :: figureLines machine)

/-- The log of a run. -/
def logOf (options : Options) (session : Session) : List LogLine :=
  logLines (if options.debug then .debug else .info) session.journal

/-- The outcome if the program is refused. -/
def failed (options : Options) (error : Error) (session : Session) : Outcome :=
  ⟨1, Text.ofLines [s!"Error: {error.message}"], logOf options session⟩

/-- Loads a program and runs it as the options say. -/
def runMachine (options : Options) (pace : Pace) (program : List Int) (machine : Machine) :
    Except Error Outcome :=
  match (Machine.load program).run { machine } with
  | .error error session => .ok (failed options error session)
  | .ok _ session =>
    let keys := HostReport.states (keysFromHost options.keys).toList
    match (Machine.run pace.frames pace.steps (some keys)).run session with
    | .error error _ => .error error
    | .ok _ session =>
      .ok {
        exitCode := if session.machine.faults.isEmpty then 0 else 1
        output := report options session.machine
        log := logOf options session }

/-- The seed of the random numbers: the one that the options name, or else `entropy`. -/
def Options.seedOr (options : Options) (entropy : Int) : Except Error Int :=
  match options.seed with
  | some amount => amount.value "--seed"
  | none => .ok entropy

/-- Runs the program in a file.  That there is something under the name is checked first; it is read when
the machine stands ready. -/
def runProgram (options : Options) (pace : Pace) (file : ProgramFile) (entropy : Int) :
    Except Error Outcome :=
  match file with
  | .missing => .ok ⟨1, Text.ofLines [s!"Error: ROM file not found: {options.program}"], []⟩
  | .nameTooLong => .error .fileNameTooLong
  | .directory | .regular _ => do
    let seed ← options.seedOr entropy
    let machine ← Machine.create { random := .seeded seed, tracing := options.trace }
    runMachine options pace (← readProgram file) machine

/-- The text for a user who asks for help. -/
def usage : String :=
  Text.ofLines
    ["usage: chip8 [options] PROGRAM",
     "  -f, --frames N            frames to run (60 per second)",
     "  -s, --steps-per-frame N   instructions per frame",
     "      --seed N              seed of the random numbers",
     "  -k, --keys KEY ...        keys held for the whole run",
     "  -t, --trace               print every step",
     "  -q, --quiet               print the screen only",
     "      --debug               log every instruction",
     "  -h, --help                print this text"]

/-- A file name without the parts that lead nowhere, which are empty or a single point.  A name without
other parts is that of the current directory, or of the root. -/
def plainName (name : String) : String :=
  let parts := (name.splitOn "/").filter fun part => part != "" && part != "."
  if name.startsWith "/" then "/" ++ "/".intercalate parts
  else if parts.isEmpty then "."
  else "/".intercalate parts

/-- Runs a command line.  The files are given by a function on their plain names. -/
def runLine (line : List String) (file : String → ProgramFile) (entropy : Int) :
    Except Error Outcome :=
  match Options.read line with
  | .error refusal => .ok (.refused refusal)
  | .ok options =>
    if options.help then .ok ⟨0, usage, []⟩
    else do
      match ← options.pace? with
      | none => return .refused .negativeCount
      | some pace => runProgram options pace (file (plainName options.program)) entropy

end Chip8.CommandLine
