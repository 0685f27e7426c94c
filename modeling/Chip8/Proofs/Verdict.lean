import Chip8.Proofs.HeldKeys
import Chip8.Proofs.Observation

/-!
# The verdict of a command line

Scripts look at the exit code.  It is drawn from the fault counts of the machine, and the text from its
screen and its cycle counter.  Both tell the truth about the run: the code is zero exactly if the program
was loaded and no step has met a fault, and then the cycle counter has counted all steps.  How much of the
run is shown is a matter of the text alone.

* `Request`, `Options.Asks` — what a line asks for, apart from how much is to be shown.
* `FaultCounts.isEmpty_record`, **`Spotless`** — nothing has been counted exactly if no entry has a fault;
  `cycleCount_of_faultless` — and then every entry has been counted.
* `report_lines` — the screen stands in the text line by line.
* `runProgram_fits`, `runProgram_long` — a program that fits is run and another refused; `Outcome.Tells`,
  `runProgram_tells` — what the outcome tells of it; `unrecorded_request` — tracing does not matter.
* **`exit_code_tells_faults`** — the exit code, the screen and the printed cycles, for every file and every
  line that is accepted.
-/

namespace Chip8

/-! ## Faults and cycles -/

/-- A report is not forgotten. -/
lemma FaultCounts.isEmpty_record (counts : FaultCounts) (kind : FaultKind) :
    (counts.record kind).isEmpty = false := by
  obtain ⟨entries⟩ := counts
  cases entries with
  | nil => rfl
  | cons first rest =>
      simp only [record, bump, isEmpty]
      split <;> rfl

/-- Nothing has been counted exactly if no entry has a fault. -/
structure Spotless (session : Session) (entries : List Entry) : Prop where
  sound : session.machine.Sound
  isEmpty : session.machine.faults.isEmpty = true ↔ ∀ entry ∈ entries, entry.fault = none

namespace Spotless

variable {session done : Session} {entries : List Entry} {entry : Entry}

/-- A step with a fault is counted, and one without is not. -/
lemma completed (spotless : Spotless session entries) (charged : Charged session entry done)
    (sound : (done.completed entry).machine.Sound) :
    Spotless (done.completed entry) (entries ++ [entry]) where
  sound
  isEmpty := by
    rw [Session.completed_machine, charged.faults]
    cases fault : entry.fault with
    | none => simp [spotless.isEmpty, or_imp, forall_and, fault]
    | some met => simp [FaultCounts.isEmpty_record, or_imp, forall_and, fault]

/-- **Every elementary operation keeps it so.** -/
theorem perform (spotless : Spotless session entries) {command : Command}
    (elementary : command.isElementary = true) :
    Spotless (session.after command.perform) (session.entriesAfter entries command) :=
  Session.books_perform spotless.sound spotless
    (fun sound => ⟨sound, iff_of_true rfl (List.forall_mem_nil _)⟩)
    (fun sound aside => ⟨sound, by rw [aside.faults]; exact spotless.isEmpty⟩)
    (fun sound charged => spotless.completed charged sound) elementary

/-- The fault counts of a created machine are empty as long as no step has met a fault. -/
theorem reached {settings : Settings} {machine : Machine}
    (created : Machine.create settings = .ok machine) (commands : List Command) :
    Spotless (Session.performAll { machine } commands) (({ machine } : Session).entries commands) := by
  refine Session.entries_keeps Spotless (fun _ _ _ elementary spotless => spotless.perform elementary) ?_
    commands
  have sound := Machine.create_sound created
  obtain ⟨traceBound, font, -, -, rfl⟩ := Machine.create_eq_ok_iff.1 created
  exact ⟨sound, iff_of_true rfl (List.forall_mem_nil _)⟩

end Spotless

/-- Steps without a fault have all been counted. -/
lemma cycleCount_of_faultless {settings : Settings} {machine : Machine}
    (created : Machine.create settings = .ok machine) {commands : List Command}
    (faultless : ∀ entry ∈ ({ machine } : Session).entries commands, entry.fault = none) :
    (Session.performAll { machine } commands).machine.state.cycleCount =
      (({ machine } : Session).entries commands).length := by
  have counted : ∀ entry ∈ ({ machine } : Session).entries commands, entry.isCounted = true := by
    intro entry member
    simp [Entry.isCounted, Entry.faultKind?, faultless entry member]
  rw [(Accounts.reached created commands).cycles, List.countP_eq_length.2 counted]

namespace CommandLine

/-! ## What a line asks for -/

/-- What a line asks for, apart from how much of it is to be shown.  A line on which a number is left blank
asks for nothing. -/
structure Request where
  program : String
  pace : Pace
  /-- The seed, if one is named. -/
  seed : Option Int
  keys : List String

/-- The options ask for this.  Nothing is said about `--trace`, `--quiet` and `--debug`. -/
structure Options.Asks (options : Options) (request : Request) : Prop where
  help : options.help = false
  program : options.program = request.program
  frames : options.frames = .number request.pace.frames
  frameSteps : options.frameSteps = .number request.pace.steps
  seed : options.seed = request.seed.map .number
  keys : options.keys = request.keys

namespace Request

variable (request : Request)

/-- What is done with a program file: it is loaded and run, with the keys held. -/
def commands (bytes : List UInt8) : List Command :=
  [.loadFile (.regular bytes),
   .run request.pace.frames request.pace.steps (some (.states (keysFromHost request.keys).toList))]

/-- The settings of the machine. -/
def settings (entropy : Int) (tracing : Bool) : Settings :=
  { random := .seeded (request.seed.getD entropy), tracing }

/-- Everything that was attempted in the run. -/
def attempts (machine : Machine) (bytes : List UInt8) : List Entry :=
  ({ machine } : Session).entries (request.commands bytes)

/-- The session after the run. -/
def reached (machine : Machine) (bytes : List UInt8) : Session :=
  Session.performAll { machine } (request.commands bytes)

/-- The screen after the run, line by line. -/
def screen (machine : Machine) (bytes : List UInt8) : List String :=
  (request.reached machine bytes).machine.state.screen.lines "#" "."

end Request

/-! ## The text -/

/-- **The screen stands in the text line by line**, and the figures follow unless they are not wanted. -/
lemma report_lines (options : Options) (machine : Machine) :
    ∃ earlier, report options machine = Text.ofLines (earlier ++ machine.state.screen.lines "#" "." ++
      if options.quiet then [] else screenRule :: figureLines machine) := by
  obtain ⟨traced, trace⟩ : ∃ traced, machine.traceReport = Text.ofLines traced := ⟨_, rfl⟩
  have filled : machine.state.screen.lines "#" "." ≠ [] := by
    intro empty
    have count := machine.state.screen.length_lines "#" "."
    rw [empty] at count
    cases count
  refine ⟨(if options.quiet then [] else [s!"Loading ROM: {options.program}", screenRule]) ++
    (if options.trace then traced else []), ?_⟩
  rw [report, Screen.render, Text.ofLines_intercalate filled, trace]
  simp only [Text.ofLines_append]
  cases options.trace <;> rfl

/-- The figures begin with the cycles. -/
lemma figureLines_cycles {machine : Machine} {count : Nat} (counted : machine.state.cycleCount = count) :
    ∃ figures, figureLines machine =
      s!"Cycles: {count} ({emulatedSeconds machine.ticks}s emulated)" :: figures := by
  simp only [figureLines, Machine.summary, counted]
  exact ⟨_, rfl⟩

/-! ## Outcomes -/

section

variable {options : Options} {request : Request} {machine : Machine} {bytes : List UInt8} {entropy : Int}

/-- A line that is accepted and that asks for a run gets it. -/
lemma runLine_asks {line : List String} (accepted : Options.read line = .ok options)
    (asks : options.Asks request) (files : String → ProgramFile) :
    runLine line files entropy =
      runProgram options request.pace (files (plainName request.program)) entropy := by
  have counts : ¬ (request.pace.frames : Int) < 0 ∧ ¬ (request.pace.steps : Int) < 0 := by omega
  have paced : options.pace? = .ok (some request.pace) := by
    simp only [Options.pace?, asks.frames, asks.frameSteps, Amount.value, bind, Except.bind, counts,
      if_false]
    rfl
  rw [runLine, accepted]
  simp only [asks.help, asks.program, paced, Bool.false_eq_true, if_false]
  rfl

lemma Options.Asks.seedOr (asks : options.Asks request) (entropy : Int) :
    options.seedOr entropy = .ok (request.seed.getD entropy) := by
  rw [Options.seedOr, asks.seed]
  cases request.seed <;> rfl

variable (asks : options.Asks request)
  (created : Machine.create (request.settings entropy options.trace) = .ok machine)
include asks created

/-- A program that fits is loaded and run. -/
lemma runProgram_fits (fits : bytes.length ≤ 3584) :
    let reached := request.reached machine bytes
    runProgram options request.pace (.regular bytes) entropy = .ok {
      exitCode := if reached.machine.faults.isEmpty then 0 else 1
      output := report options reached.machine
      log := logOf options reached } := by
  intro reached
  have full : ({ machine } : Session).machine.state.memory.size = memorySize :=
    (Machine.create_sound created).state.memory_size
  have loaded : (Machine.loadFile (.regular bytes)).run { machine } =
      .ok () (({ machine } : Session).loaded (wordsOfBytes .big bytes)) :=
    Machine.load_run full (Machine.checkProgram_wordsOfBytes .big fits)
  have complete := (running_of_loadFile created loaded).1
  obtain ⟨trace, ran⟩ := run_returns complete (accepted_keysFromHost options.keys) request.pace.frames
    request.pace.steps
  have after : reached = Session.performAll (({ machine } : Session).loaded (wordsOfBytes .big bytes))
      [.run request.pace.frames request.pace.steps
        (some (.states (keysFromHost options.keys).toList))] := by
    have first : ({ machine } : Session).after (Command.loadFile (.regular bytes)).perform = _ :=
      (Session.after_reply _ _).trans (Session.after_of_ok loaded)
    rw [asks.keys, ← first]
    rfl
  rw [after, ← Session.performAll_unrolled]
  exact runProgram_of_run (asks.seedOr entropy) created loaded ran

/-- A program that does not fit is refused. -/
lemma runProgram_long (long : 3584 < bytes.length) :
    ∃ error, runProgram options request.pace (.regular bytes) entropy =
      .ok (failed options error { machine }) := by
  have refused : (Machine.load (wordsOfBytes .big bytes)).run { machine } = .error _ { machine } :=
    Machine.load_run_refused (Machine.checkProgram_wordsOfBytes_of_lt .big long)
  rw [runProgram_regular (asks.seedOr entropy) created, runMachine, refused]
  exact ⟨_, rfl⟩

end

/-! ## Verdicts -/

/-- What an outcome has to tell about a run, given what the program file holds, if there is one. -/
structure Outcome.Tells (outcome : Outcome) (request : Request) (machine : Machine)
    (content : Option (List UInt8)) (quiet : Bool) : Prop where
  code : outcome.exitCode = 0 ∨ outcome.exitCode = 1
  /-- Zero means that the program was loaded and that nothing went wrong. -/
  passed : outcome.exitCode = 0 ↔ ∃ bytes, content = some bytes ∧ bytes.length ≤ 3584 ∧
    ∀ entry ∈ request.attempts machine bytes, entry.fault = none
  /-- If it was loaded then the screen is printed, and if nothing went wrong then the cycles are those of
  all steps. -/
  shown : ∀ bytes, content = some bytes → bytes.length ≤ 3584 →
    ∃ earlier later, outcome.output = Text.ofLines (earlier ++ request.screen machine bytes ++ later) ∧
      (outcome.exitCode = 0 → quiet = false →
        let count := (request.attempts machine bytes).length
        let seconds := emulatedSeconds (request.reached machine bytes).machine.ticks
        ∃ figures, later = screenRule :: s!"Cycles: {count} ({seconds}s emulated)" :: figures)

section

variable {options : Options} {request : Request} {machine : Machine} {entropy : Int}

/-- The outcome of a run tells of it. -/
lemma runProgram_tells (asks : options.Asks request)
    (created : Machine.create (request.settings entropy options.trace) = .ok machine)
    (content : Option (List UInt8)) :
    ∃ outcome, runProgram options request.pace (content.elim .missing .regular) entropy = .ok outcome ∧
      outcome.Tells request machine content options.quiet := by
  cases content with
  | none => exact ⟨_, rfl, .inr rfl, by simp, nofun⟩
  | some bytes =>
      by_cases fits : bytes.length ≤ 3584
      · have spotless : Spotless (request.reached machine bytes) (request.attempts machine bytes) :=
          .reached created _
        refine ⟨_, runProgram_fits asks created fits, ?_, ?_, ?_⟩
        · dsimp only
          split <;> simp
        · simp [fits, ← spotless.isEmpty]
        · rintro _ ⟨⟩ -
          obtain ⟨earlier, printed⟩ := report_lines options (request.reached machine bytes).machine
          refine ⟨earlier, _, printed, ?_⟩
          intro passed loud count seconds
          have nothing : (request.reached machine bytes).machine.faults.isEmpty = true := by
            simpa using passed
          have counted := cycleCount_of_faultless created (spotless.isEmpty.1 nothing)
          obtain ⟨figures, first⟩ := figureLines_cycles counted
          refine ⟨figures, ?_⟩
          rw [loud]
          exact congrArg (screenRule :: ·) first
      · obtain ⟨error, refused⟩ := runProgram_long asks created (Nat.lt_of_not_le fits)
        refine ⟨_, refused, .inr rfl, ?_, ?_⟩
        · simp [failed, fits]
        · rintro _ ⟨⟩ short
          exact absurd short fits

/-- Whether the steps are recorded changes neither the faults of a run nor its screen. -/
lemma unrecorded_request {twin : Machine} {tracing tracing' : Bool}
    (created : Machine.create (request.settings entropy tracing) = .ok machine)
    (again : Machine.create (request.settings entropy tracing') = .ok twin) (bytes : List UInt8) :
    request.screen twin bytes = request.screen machine bytes ∧
      ((∀ entry ∈ request.attempts twin bytes, entry.fault = none) ↔
        ∀ entry ∈ request.attempts machine bytes, entry.fault = none) := by
  have alike : Likeness.unrecorded.Holds { machine } { machine := twin } :=
    Likeness.unrecorded_created created again
  have same := Likeness.unrecorded_iff.1
    (Likeness.unrecorded_lawful.performAll alike (request.commands bytes))
  have faults := congrArg Machine.faults same
  have state := congrArg Machine.state same
  have first := (Spotless.reached created (request.commands bytes)).isEmpty
  have second := (Spotless.reached again (request.commands bytes)).isEmpty
  constructor
  · rw [Request.screen, Request.reached, state]
    rfl
  · rw [Request.attempts, Request.attempts, ← first, ← second, faults]

end

/-- **The exit code tells whether anything went wrong.**  For every program file, of any content or
missing, and for every line that is accepted and asks for a run of it, the exit code is zero if the file
exists and fits and if no step of the run has met a fault, and otherwise it is one.  If the program was
loaded then the 32 lines of the screen are printed, and if the exit code is zero and the figures are wanted
then the cycles that they tell are all steps that were attempted.  Any other line that asks for the same has
the same exit code and the same screen. -/
theorem exit_code_tells_faults {request : Request} {files : String → ProgramFile}
    {content : Option (List UInt8)}
    (found : files (plainName request.program) = content.elim .missing .regular)
    {line : List String} {options : Options} (accepted : Options.read line = .ok options)
    (asks : options.Asks request) (entropy : Int) :
    ∃ machine outcome, Machine.create (request.settings entropy options.trace) = .ok machine ∧
      runLine line files entropy = .ok outcome ∧
      outcome.Tells request machine content options.quiet ∧
      (∀ bytes, (request.screen machine bytes).length = 32 ∧
        ∀ row ∈ request.screen machine bytes, row.length = 64) ∧
      ∀ otherLine other, Options.read otherLine = .ok other → other.Asks request →
        ∃ twin, runLine otherLine files entropy = .ok twin ∧ twin.exitCode = outcome.exitCode ∧
          ∀ bytes, content = some bytes → bytes.length ≤ 3584 → ∃ earlier later,
            twin.output = Text.ofLines (earlier ++ request.screen machine bytes ++ later) := by
  have made (tracing : Bool) :
      ∃ machine, Machine.create (request.settings entropy tracing) = .ok machine := ⟨_, rfl⟩
  obtain ⟨machine, created⟩ := made options.trace
  obtain ⟨outcome, ran, tells⟩ := runProgram_tells asks created content
  refine ⟨machine, outcome, created, ?_, tells, ?_, ?_⟩
  · rw [runLine_asks accepted asks, found, ran]
  · intro bytes
    exact ⟨Screen.length_lines _ _ _, fun row member => Screen.length_of_mem_lines rfl rfl member⟩
  · intro otherLine other accepted' asks'
    obtain ⟨machine', created'⟩ := made other.trace
    obtain ⟨twin, ran', tells'⟩ := runProgram_tells asks' created' content
    refine ⟨twin, ?_, ?_, ?_⟩
    · rw [runLine_asks accepted' asks', found, ran']
    · have passed := tells'.passed
      simp only [(unrecorded_request created created' _).2, ← tells.passed] at passed
      have code := tells.code
      have code' := tells'.code
      omega
    · intro bytes given fits
      obtain ⟨earlier, later, printed, -⟩ := tells'.shown bytes given fits
      rw [(unrecorded_request created created' bytes).1] at printed
      exact ⟨earlier, later, printed⟩

/-- A program that jumps in place, and one that returns from nowhere. -/
theorem exit_code_tells_faults_both :
    let line := ["-t", "rom", "-f", "1", "-s", "3", "--seed", "7", "-k", "w"]
    (∃ outcome earlier later, runLine line (fun _ => .regular [0x12, 0x00]) 0 = .ok outcome ∧
      outcome.exitCode = 0 ∧
      outcome.output = Text.ofLines (earlier ++ screenRule :: "Cycles: 3 (0.02s emulated)" :: later)) ∧
    ∃ outcome, runLine line (fun _ => .regular [0x00, 0xEE]) 0 = .ok outcome ∧
      outcome.exitCode = 1 := by
  intro line
  let request : Request := ⟨"rom", ⟨1, 3⟩, some 7, ["w"]⟩
  let options : Options :=
    { program := "rom", frames := .number 1, frameSteps := .number 3, seed := some (.number 7)
      keys := ["w"], trace := true }
  have accepted : Options.read line = .ok options := by
    unfold line options
    decide +kernel
  have asks : options.Asks request := ⟨rfl, rfl, rfl, rfl, rfl, rfl⟩
  let files (bytes : List UInt8) : String → ProgramFile := fun _ => .regular bytes
  have found (bytes : List UInt8) :
      files bytes (plainName request.program) = (some bytes).elim .missing .regular := rfl
  constructor
  · obtain ⟨machine, outcome, created, ran, tells, -⟩ :=
      exit_code_tells_faults (found [0x12, 0x00]) accepted asks 0
    obtain ⟨faultless, count, seconds⟩ :
        (∀ entry ∈ request.attempts machine [0x12, 0x00], entry.fault = none) ∧
          (request.attempts machine [0x12, 0x00]).length = 3 ∧
          emulatedSeconds (request.reached machine [0x12, 0x00]).machine.ticks = "0.02" := by
      cases created
      unfold request
      decide +kernel
    have zero : outcome.exitCode = 0 := tells.passed.2 ⟨_, rfl, by decide, faultless⟩
    obtain ⟨earlier, later, printed, figures⟩ := tells.shown _ rfl (by decide)
    obtain ⟨rest, rfl⟩ := figures zero rfl
    rw [count, seconds] at printed
    exact ⟨outcome, _, rest, ran, zero, printed⟩
  · obtain ⟨machine, outcome, created, ran, tells, -⟩ :=
      exit_code_tells_faults (found [0x00, 0xEE]) accepted asks 0
    have met : ¬ ∀ entry ∈ request.attempts machine [0x00, 0xEE], entry.fault = none := by
      cases created
      unfold request
      decide +kernel
    refine ⟨outcome, ran, tells.code.resolve_left ?_⟩
    intro zero
    obtain ⟨_, ⟨⟩, -, faultless⟩ := tells.passed.1 zero
    exact met faultless

end CommandLine

end Chip8
