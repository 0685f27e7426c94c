import Chip8.CommandLine.Runner
import Chip8.Proofs.CallStack
import Chip8.Proofs.Keypad
import Chip8.Proofs.Loading
import Chip8.Proofs.Refusal

/-!
# Runs with keys that are held all the time

A run tells the machine the same keys in every frame.  They can only go down in the first one: when a
report is repeated it says nothing new, the keypad is that of the latch already, and no instruction
touches either of the two.  So a program that waits for a key has waited long enough only if it did so
before the run began; a wait that begins in the run goes on to its end.

* `Latch.take_again` — a report that is repeated says nothing new.
* `Settled`, `Settled.perform` — keypad, latch and report agree, and in a run they keep agreeing.
* `Machine.Dozes`, `dozes_perform` — what a machine that waits does from then on.
* `State.Suspended`, `Unanswered` — what is said of a run.
* **`held_keys_answer_no_wait`** — it is true of every run, and of every run of the command line.
-/

namespace Chip8

/-! ## Reports that are repeated -/

namespace Latch

variable {latch after : Latch} {keys : Option HostReport}

/-- **A report that is repeated says nothing new.** -/
theorem take_again (accepted : ∀ report ∈ keys, report.Accepted)
    (taken : latch.take keys = .ok after) : after.take keys = .ok after := by
  obtain ⟨again, retaken⟩ := after.take_accepted accepted
  have same : again = after := by
    rw [take_ok retaken]
    refine congrArg (fun physical => { after with physical }) ?_
    ext position inside
    have told : after.physical[position] =
        (keys.bind (·.tells? ⟨position, inside⟩)).getD latch.physical[position] := by
      rw [take_ok taken, Vector.getElem_ofFn]
      rfl
    rw [Vector.getElem_ofFn]
    cases known : keys.bind (·.tells? ⟨position, inside⟩) with
    | none => rfl
    | some pressed =>
        rw [told, known]
        rfl
  rw [retaken, same]

/-- No key of a keypad that is up to date can go down. -/
lemma raises_merged (latch : Latch) (key : Key) : latch.raises latch.merged key = false := by
  rw [raises, getElem?_merged]
  cases latch.pressed key <;> rfl

end Latch

/-- The keypad is that of the latch, and the report would not change the latch. -/
structure Settled (keys : Option HostReport) (session : Session) : Prop where
  complete : session.machine.Complete
  repeated : session.machine.latch.take keys = .ok session.machine.latch
  mirrored : session.machine.state.keypad = session.machine.latch.merged

/-- A stage of a run with these keys. -/
def Clockwork (keys : Option HostReport) (stage : Command) : Prop :=
  stage = .advanceTimers ∨ stage = .step ∨ stage = .syncKeys keys

namespace Settled

variable {keys : Option HostReport} {session : Session}

/-- The first synchronisation settles the keys. -/
lemma start (complete : session.machine.Complete) (accepted : ∀ report ∈ keys, report.Accepted) :
    Settled keys (session.after (Machine.syncKeys keys)) := by
  obtain ⟨latch, taken⟩ := session.machine.latch.take_accepted accepted
  have synced := Session.after_of_ok (syncKeys_run_of_complete complete taken)
  have elementary : (Command.syncKeys keys).isElementary = true := rfl
  have moved := move_perform elementary session
  rw [← Session.after_eq_leaves, Session.after_syncKeys] at moved
  refine ⟨complete_invariant _ _ _ complete moved, ?_, ?_⟩
  · rw [synced, Session.synced_machine]
    exact Latch.take_again accepted taken
  · rw [synced, Session.synced_machine]
    exact State.synced_keypad

/-- A later one changes nothing and answers nothing. -/
lemma sync (settled : Settled keys session) :
    ∃ left, (Machine.syncKeys keys).run session = .ok none left ∧ left.machine = session.machine := by
  have quiet : session.machine.state.resolution? session.machine.latch = none := by
    refine State.resolution?_eq_none.2 (.inr fun key => ?_)
    rw [settled.mirrored]
    exact Latch.raises_merged _ key
  refine ⟨session.synced keys session.machine.latch, ?_, ?_⟩
  · rw [syncKeys_run_of_complete settled.complete settled.repeated, quiet]
    rfl
  · rw [Session.synced_machine, State.synced, quiet, ← settled.mirrored]
    rfl

/-- What touches neither keypad nor latch leaves them settled. -/
lemma aside (settled : Settled keys session) {stage : Command} (elementary : stage.isElementary = true)
    (kept : stage ≠ .reset) (other : stage.isSync = false)
    (apart : ∀ number pressed, stage ≠ .holdKey number pressed) :
    Settled keys (session.after stage.perform) := by
  have moved := Session.move_after elementary session
  have keypad := keypad_of_move moved kept other
  have latch := latch_of_move moved kept other apart
  refine ⟨complete_invariant stage _ _ settled.complete moved, ?_, ?_⟩
  · rw [latch]
    exact settled.repeated
  · rw [keypad, latch]
    exact settled.mirrored

/-- **Keys that have settled stay so**, whatever instructions are executed. -/
theorem perform (settled : Settled keys session) {stage : Command} (clockwork : Clockwork keys stage) :
    Settled keys (session.after stage.perform) := by
  rcases clockwork with rfl | rfl | rfl
  · exact settled.aside rfl nofun rfl nofun
  · exact settled.aside rfl nofun rfl nofun
  · obtain ⟨left, run, same⟩ := settled.sync
    rw [Session.after_syncKeys, Session.after_of_ok run]
    exact ⟨same ▸ settled.complete, same ▸ settled.repeated, same ▸ settled.mirrored⟩

end Settled

/-! ## Machines that doze -/

/-- Nothing but the clock and the timers has changed. -/
def Machine.Dozes (machine after : Machine) : Prop :=
  ∃ (ticks : Nat) (delayTimer soundTimer : Int),
    after = { machine with ticks, state := { machine.state with delayTimer, soundTimer } }

lemma Machine.Dozes.refl (machine : Machine) : Dozes machine machine := ⟨_, _, _, rfl⟩

section

variable {machine : Machine} {keys : Option HostReport} {session : Session}
  (waiting : machine.state.mode.isWaiting = true)
include waiting

lemma waiting_of_dozes (dozes : machine.Dozes session.machine) :
    session.machine.state.mode.isWaiting = true := by
  obtain ⟨_, _, _, same⟩ := dozes
  rw [same]
  exact waiting

/-- **A machine that waits with settled keys dozes on.** -/
theorem dozes_perform (settled : Settled keys session) (dozes : machine.Dozes session.machine)
    {stage : Command} (clockwork : Clockwork keys stage) :
    machine.Dozes (session.after stage.perform).machine := by
  have asleep := waiting_of_dozes waiting dozes
  rcases clockwork with rfl | rfl | rfl
  · obtain ⟨ticks, delayTimer, soundTimer, same⟩ := dozes
    refine ⟨ticks + 1, max 0 (delayTimer - 1), max 0 (soundTimer - 1), ?_⟩
    change session.clocked.machine = _
    rw [Session.clocked, same]
    rfl
  · rw [Session.after_step, Session.after_of_ok (Machine.step_run_waiting asleep)]
    exact dozes
  · obtain ⟨left, run, same⟩ := settled.sync
    rw [Session.after_syncKeys, Session.after_of_ok run, same]
    exact dozes

end

/-! ## The moments of a run -/

section

variable {session : Session} {frames steps : Int} {keys : Option HostReport}

/-- A run has no stages, or its stages begin with those of a frame. -/
lemma stages_run (frames steps : Int) (keys : Option HostReport) :
    (Command.run frames steps keys).stages = [] ∨
      ∃ rest, (Command.run frames steps keys).stages = .advanceTimers :: .syncKeys keys :: rest := by
  rw [Command.stages]
  cases frames.toNat with
  | zero => exact .inl rfl
  | succ count => exact .inr ⟨_, rfl⟩

lemma clockwork_of_mem {stage : Command} (member : stage ∈ session.unrolled [.run frames steps keys]) :
    Clockwork keys stage := by
  obtain ⟨command, among, inside⟩ := Session.mem_unrolled member
  obtain rfl := List.mem_singleton.1 among
  rcases Command.mem_stages inside with rfl | clockwork
  · cases Command.isElementary_of_mem inside
  · exact clockwork

/-- Where a run stands before one of its synchronisations and steps: in front of the first
synchronisation, or somewhere behind it. -/
lemma moment_cases {earlier : List Command} {stage : Command} (late : stage ≠ .advanceTimers)
    (moment : earlier ++ [stage] <+: session.unrolled [.run frames steps keys]) :
    (earlier = [.advanceTimers] ∧ stage = .syncKeys keys) ∨
      ∃ later, earlier = .advanceTimers :: .syncKeys keys :: later ∧
        ∀ other ∈ later, Clockwork keys other := by
  have clockwork (other : Command) (member : other ∈ earlier) : Clockwork keys other :=
    clockwork_of_mem (moment.subset (List.mem_append_left _ member))
  have unrolled : session.unrolled [.run frames steps keys] <+:
      (Command.run frames steps keys).stages := by
    rw [Session.unrolled, Session.unrolled, List.append_nil]
    exact session.carried_prefix _
  have inside := moment.trans unrolled
  rcases stages_run frames steps keys with empty | ⟨rest, stages⟩
  · rw [empty, List.prefix_nil] at inside
    simp at inside
  · rw [stages] at inside
    rcases earlier with _ | ⟨first, _ | ⟨second, later⟩⟩
    · exact absurd (List.cons_prefix_cons.1 inside).1 late
    · obtain ⟨rfl, tail⟩ := List.cons_prefix_cons.1 inside
      exact .inl ⟨rfl, (List.cons_prefix_cons.1 tail).1⟩
    · obtain ⟨rfl, tail⟩ := List.cons_prefix_cons.1 inside
      obtain ⟨rfl, -⟩ := List.cons_prefix_cons.1 tail
      exact .inr ⟨later, rfl, fun other member => clockwork other (by simp [member])⟩

/-- Behind the first synchronisation the keys have settled. -/
lemma settled_later (complete : session.machine.Complete) (accepted : ∀ report ∈ keys, report.Accepted)
    {later : List Command} (clockwork : ∀ other ∈ later, Clockwork keys other) :
    Settled keys (session.performAll (.advanceTimers :: .syncKeys keys :: later)) := by
  have clocked : (session.after (Command.perform .advanceTimers)).machine.Complete :=
    complete_invariant .advanceTimers _ _ complete .clocked
  rw [Session.performAll_cons, Session.performAll_cons, Session.after_syncKeys]
  exact performAll_keeps (Settled keys)
    (fun other member _ settled => settled.perform (clockwork other member)) (.start clocked accepted)

end

/-! ## Waits that begin in a run -/

/-- The state has been suspended by an instruction that waits with a register: besides the mode and the
cycle counter, only the timers have changed. -/
def State.Suspended (before : State) (register : Int) (after : State) : Prop :=
  after = { before with
    mode := .awaitingKey register
    cycleCount := before.cycleCount + 1
    delayTimer := after.delayTimer
    soundTimer := after.soundTimer }

section

variable {session : Session} {keys : Option HostReport}

/-- An instruction that waits for a key suspends the machine. -/
lemma step_awaitKey (complete : session.machine.Complete) (next : session.next? = some .awaitKey) :
    ∃ word, fetch session.machine.state.memory session.machine.state.pc = .ok word ∧
      Kind.awaitKey.Form ⟨word⟩ ∧
      (session.after Machine.step).machine.state = { session.machine.state with
        mode := .awaitingKey (⟨word⟩ : Instruction).x
        cycleCount := session.machine.state.cycleCount + 1 } := by
  obtain ⟨word, fetched, kind, -, state⟩ := step_of_next next
  refine ⟨word, fetched, Kind.ofOpcode_eq_iff.1 kind, ?_⟩
  have run := Machine.execution_run complete.shaped complete.listed word
  rw [kind] at run
  rw [state, leaves_of_ok run]
  rfl

lemma stepUpTo_waiting (waiting : session.machine.state.mode.isWaiting = true) (taken count : Nat) :
    (Machine.stepUpTo taken count).run session = .ok taken session := by
  cases count with
  | zero => rfl
  | succ count =>
      rw [Machine.stepUpTo, EStateM.run_bind, Machine.step_run_waiting waiting]
      rfl

/-- **A frame of a machine that waits with settled keys** ticks the timers and attempts no step. -/
theorem frame_waiting (settled : Settled keys session)
    (waiting : session.machine.state.mode.isWaiting = true) (steps : Int) :
    ∃ left, (Machine.frame keys steps).run session = .ok 0 left ∧
      left.machine = { session.machine with
        ticks := session.machine.ticks + 1
        state := session.machine.state.clocked } := by
  have clocked : Settled keys session.clocked := settled.perform (.inl rfl)
  obtain ⟨left, run, same⟩ := clocked.sync
  have asleep : left.machine.state.mode.isWaiting = true := by
    rw [same]
    exact waiting
  refine ⟨left, ?_, same⟩
  rw [Machine.frame, EStateM.run_bind, Machine.advanceTimers_run]
  dsimp only
  rw [EStateM.run_bind, run]
  exact stepUpTo_waiting asleep 0 _

/-- From the instruction that waits to any later moment of the run. -/
lemma suspended_later (settled : Settled keys session) (next : session.next? = some .awaitKey) :
    ∃ word, fetch session.machine.state.memory session.machine.state.pc = .ok word ∧
      Kind.awaitKey.Form ⟨word⟩ ∧
      ∀ later : List Command, (∀ stage ∈ later, Clockwork keys stage) →
        let here := session.performAll (.step :: later)
        Settled keys here ∧ here.machine.state.mode.isWaiting = true ∧
          session.machine.state.Suspended (⟨word⟩ : Instruction).x here.machine.state := by
  obtain ⟨word, fetched, form, state⟩ := step_awaitKey settled.complete next
  refine ⟨word, fetched, form, ?_⟩
  intro later clockwork here
  let asleep := session.after (Command.perform .step)
  have waiting : asleep.machine.state.mode.isWaiting = true := by
    change (session.after (Command.perform .step)).machine.state.mode.isWaiting = true
    rw [Session.after_step, state]
    rfl
  obtain ⟨still, dozes⟩ : Settled keys (asleep.performAll later) ∧
      asleep.machine.Dozes (asleep.performAll later).machine := by
    refine performAll_keeps
      (fun left => Settled keys left ∧ asleep.machine.Dozes left.machine)
      (fun stage member left holds => ?_) ⟨settled.perform (.inr (.inl rfl)), .refl _⟩
    obtain ⟨settled, dozes⟩ := holds
    exact ⟨settled.perform (clockwork stage member),
      dozes_perform waiting settled dozes (clockwork stage member)⟩
  refine ⟨still, waiting_of_dozes waiting dozes, ?_⟩
  obtain ⟨ticks, delayTimer, soundTimer, same⟩ := dozes
  change session.machine.state.Suspended _ (asleep.performAll later).machine.state
  rw [State.Suspended, same]
  change { (session.after (Command.perform .step)).machine.state with delayTimer, soundTimer } = _
  rw [Session.after_step, state]

end

/-! ## Runs -/

/-- Keys that are held for a whole run answer no wait that begins in it. -/
structure Unanswered (session : Session) (frames steps : Int) (keys : Option HostReport) : Prop where
  /-- Only the first synchronisation can end a wait, and only one that there was before the run. -/
  first : ∀ earlier key left,
    earlier ++ [.syncKeys keys] <+: session.unrolled [.run frames steps keys] →
    (Machine.syncKeys keys).run (session.performAll earlier) = .ok (some key) left →
      earlier = [.advanceTimers] ∧ session.machine.state.mode.isWaiting = true
  /-- An instruction that waits for a key is the last one.  From there to the end of the run, where the
  machine still waits, steps are not taken and frames only tick the timers. -/
  last : ∃ trace left, (Machine.run frames steps keys).run session = .ok trace left ∧
    ∀ earlier, earlier ++ [.step] <+: session.unrolled [.run frames steps keys] →
      let before := session.performAll earlier
      before.next? = some .awaitKey →
        ∃ word, fetch before.machine.state.memory before.machine.state.pc = .ok word ∧
          Kind.awaitKey.Form ⟨word⟩ ∧
          before.machine.state.Suspended (⟨word⟩ : Instruction).x left.machine.state ∧
          ∀ later, earlier ++ .step :: later <+: session.unrolled [.run frames steps keys] →
            let here := session.performAll (earlier ++ .step :: later)
            before.machine.state.Suspended (⟨word⟩ : Instruction).x here.machine.state ∧
              Machine.step.run here = .ok none here ∧
              ∀ count, ∃ next, (Machine.frame keys count).run here = .ok 0 next ∧
                next.machine = { here.machine with
                  ticks := here.machine.ticks + 1
                  state := here.machine.state.clocked }

section

variable {session : Session} {keys : Option HostReport} (complete : session.machine.Complete)
  (accepted : ∀ report ∈ keys, report.Accepted)
include complete accepted

/-- Nobody answers the synchronisation of a first frame if nobody waits. -/
lemma first_sync_quiet (running : session.machine.state.mode = .running) :
    ∃ left, (Machine.syncKeys keys).run (session.performAll [.advanceTimers]) = .ok none left := by
  have clocked : session.clocked.machine.Complete :=
    complete_invariant .advanceTimers _ _ complete .clocked
  obtain ⟨latch, taken⟩ := session.clocked.machine.latch.take_accepted accepted
  have quiet : session.clocked.machine.state.resolution? latch = none :=
    State.resolution?_eq_none.2 (.inl running)
  refine ⟨session.clocked.synced keys latch, ?_⟩
  change (Machine.syncKeys keys).run session.clocked = _
  rw [syncKeys_run_of_complete clocked taken, quiet]
  rfl

/-- A run ends at the last of its moments. -/
lemma run_returns (frames steps : Int) :
    ∃ trace, (Machine.run frames steps keys).run session =
      .ok trace (session.performAll (session.unrolled [.run frames steps keys])) := by
  have returns : Returns (Command.run frames steps keys).perform session :=
    clockwork_returns complete accepted rfl
  obtain ⟨trace, left, run⟩ := (returns_reply _ _).1 returns
  have after : session.performAll [.run frames steps keys] = left :=
    (Session.after_reply _ _).trans (Session.after_of_ok run)
  rw [Session.performAll_unrolled, after]
  exact ⟨trace, run⟩

/-- **Held keys answer no wait**, on machines that lack nothing and with keys that exist. -/
theorem unanswered (frames steps : Int) : Unanswered session frames steps keys where
  first := by
    intro earlier key left moment answered
    have late : Command.syncKeys keys ≠ .advanceTimers := nofun
    rcases moment_cases late moment with ⟨rfl, -⟩ | ⟨later, rfl, clockwork⟩
    · refine ⟨rfl, ?_⟩
      cases mode : session.machine.state.mode with
      | awaitingKey register => rfl
      | running =>
          obtain ⟨_, quiet⟩ := first_sync_quiet complete accepted mode
          rw [quiet] at answered
          cases answered
    · obtain ⟨_, quiet, -⟩ := (settled_later complete accepted clockwork).sync
      rw [quiet] at answered
      cases answered
  last := by
    obtain ⟨trace, ran⟩ := run_returns complete accepted frames steps
    refine ⟨trace, _, ran, ?_⟩
    intro earlier moment before next
    have late : Command.step ≠ .advanceTimers := nofun
    obtain ⟨-, ⟨⟩⟩ | ⟨first, rfl, clockwork⟩ := moment_cases late moment
    obtain ⟨word, fetched, form, suspended⟩ :=
      suspended_later (settled_later complete accepted clockwork) next
    have lasts (later : List Command)
        (moment : .advanceTimers :: .syncKeys keys :: first ++ .step :: later <+:
          session.unrolled [.run frames steps keys]) :=
      suspended later fun stage member => clockwork_of_mem (moment.subset (by simp [member]))
    refine ⟨word, fetched, form, ?_, ?_⟩
    · obtain ⟨rest, whole⟩ := moment
      rw [List.append_assoc] at whole
      have state := (lasts rest ⟨[], by rw [List.append_nil]; exact whole⟩).2.2
      rw [← whole, Session.performAll_append]
      exact state
    · intro later moment here
      obtain ⟨settled, waiting, state⟩ := lasts later moment
      have same : here = before.performAll (.step :: later) := Session.performAll_append _ _
      rw [same]
      exact ⟨state, Machine.step_run_waiting waiting, frame_waiting settled waiting⟩

end

/-! ## The command line -/

section

variable {session : Session}

/-- The keys of a command line are keys that exist. -/
lemma accepted_keysFromHost (names : List String) :
    ∀ report ∈ some (HostReport.states (keysFromHost names).toList), report.Accepted := by
  rintro report ⟨⟩
  exact Vector.length_toList

/-- A program that was loaded into a new machine is about to begin. -/
lemma running_of_loadFile {settings : Settings} {machine : Machine}
    (created : Machine.create settings = .ok machine) {file : ProgramFile}
    (loaded : (Machine.loadFile file).run { machine } = .ok () session) :
    session.machine.Complete ∧ session.machine.state.mode = .running := by
  have elementary : (Command.loadFile file).isElementary = true := rfl
  have moved := move_perform elementary { machine }
  rw [Command.perform, leaves_reply, leaves_of_ok loaded] at moved
  refine ⟨complete_invariant _ _ _ (Machine.create_sound created).complete moved, ?_⟩
  obtain ⟨traceBound, font, -, -, rfl⟩ := Machine.create_eq_ok_iff.1 created
  generalize session.machine = after at moved
  cases moved with
  | stored => rfl

section

open CommandLine

variable {options : Options} {bytes : List UInt8} {entropy seed : Int} {machine : Machine}
  (seeded : options.seedOr entropy = .ok seed)
  (created : Machine.create { random := .seeded seed, tracing := options.trace } = .ok machine)
include seeded created

/-- The machine of a command line gets the words of the program file. -/
lemma runProgram_regular (pace : Pace) :
    runProgram options pace (.regular bytes) entropy =
      runMachine options pace (wordsOfBytes .big bytes) machine := by
  simp only [runProgram, seeded, created, readProgram, bind, Except.bind]

/-- The command line runs the program that it has loaded and reports on the machine. -/
lemma runProgram_of_run {pace : Pace} {trace : List Entry} {left : Session}
    (loaded : (Machine.loadFile (.regular bytes)).run { machine } = .ok () session)
    (ran : (Machine.run pace.frames pace.steps
      (some (.states (keysFromHost options.keys).toList))).run session = .ok trace left) :
    runProgram options pace (.regular bytes) entropy = .ok {
      exitCode := if left.machine.faults.isEmpty then 0 else 1
      output := report options left.machine
      log := logOf options left } := by
  have loaded : (Machine.load (wordsOfBytes .big bytes)).run { machine } = .ok () session := loaded
  rw [runProgram_regular seeded created, runMachine, loaded]
  dsimp only
  rw [ran]

end
end

/-- **Keys that are held for a whole run answer no wait that begins in it.**  This is so for every report
that is accepted or none, for all numbers of frames and steps, and for machines in any state; and so it
is for every program file and all keys of a command line. -/
theorem held_keys_answer_no_wait :
    (∀ (session : Session) (keys : Option HostReport), session.machine.Complete →
      (∀ report ∈ keys, report.Accepted) →
        ∀ frames steps, Unanswered session frames steps keys) ∧
    ∀ (options : CommandLine.Options) (pace : CommandLine.Pace) (bytes : List UInt8)
      (entropy seed : Int), options.seedOr entropy = .ok seed →
      ∃ machine, Machine.create { random := .seeded seed, tracing := options.trace } = .ok machine ∧
        ∀ session, (Machine.loadFile (.regular bytes)).run { machine } = .ok () session →
          let keys := some (HostReport.states (keysFromHost options.keys).toList)
          session.machine.state.mode = .running ∧
            Unanswered session pace.frames pace.steps keys ∧
            ∃ trace left, (Machine.run pace.frames pace.steps keys).run session = .ok trace left ∧
              CommandLine.runProgram options pace (.regular bytes) entropy = .ok {
                exitCode := if left.machine.faults.isEmpty then 0 else 1
                output := CommandLine.report options left.machine
                log := CommandLine.logOf options left } := by
  refine ⟨fun session keys complete accepted frames steps => unanswered complete accepted frames steps,
    ?_⟩
  intro options pace bytes entropy seed seeded
  obtain ⟨machine, created⟩ : ∃ machine,
      Machine.create { random := .seeded seed, tracing := options.trace } = .ok machine := ⟨_, rfl⟩
  refine ⟨machine, created, ?_⟩
  intro session loaded keys
  obtain ⟨complete, running⟩ := running_of_loadFile created loaded
  have held := unanswered complete (accepted_keysFromHost options.keys) pace.frames pace.steps
  obtain ⟨trace, left, ran, -⟩ := held.last
  exact ⟨running, held, trace, left, ran, runProgram_of_run seeded created loaded ran⟩

/-- Key 5 is held while a program waits in `V3`; and so is the key `w`, for a program file with the same
word. -/
theorem held_keys_answer_no_wait_pressed :
    (∃ session trace left, session.machine.state.pc = 0x200 ∧ session.machine.state.mode = .running ∧
      (Machine.run 2 3 (some (.changes [(5, true)]))).run session = .ok trace left ∧
        left.machine.state.pc = 0x200 ∧ left.machine.state.mode = .awaitingKey 3) ∧
    ∃ machine session left, Machine.create { random := .seeded 7 } = .ok machine ∧
      (Machine.loadFile (.regular [0xF3, 0x0A])).run { machine } = .ok () session ∧
      session.machine.state.mode = .running ∧
      CommandLine.runProgram { keys := ["w"], quiet := true } ⟨2, 3⟩ (.regular [0xF3, 0x0A]) 7 =
        .ok {
          exitCode := if left.machine.faults.isEmpty then 0 else 1
          output := CommandLine.report { keys := ["w"], quiet := true } left.machine
          log := CommandLine.logOf { keys := ["w"], quiet := true } left } := by
  constructor
  · have accepted : ∀ report ∈ some (HostReport.changes [(5, true)]), report.Accepted := by
      rintro report ⟨⟩ entry member
      rw [List.mem_singleton.1 member]
      decide
    let earlier : List Command := [.advanceTimers, .syncKeys (some (.changes [(5, true)]))]
    obtain ⟨session, complete, pc, running, moment, next, place, fetched⟩ : ∃ session : Session,
        session.machine.Complete ∧ session.machine.state.pc = 0x200 ∧
          session.machine.state.mode = .running ∧
          earlier ++ [.step] <+: session.unrolled [.run 2 3 (some (.changes [(5, true)]))] ∧
          (session.performAll earlier).next? = some .awaitKey ∧
          (session.performAll earlier).machine.state.pc = 0x200 ∧
          fetch (session.performAll earlier).machine.state.memory 0x200 = .ok 0xF30A := by
      refine ⟨
        { machine := { Machine.ofSettings { random := .sequence (fun _ => 0) 0 } 0 .standard with
            state := { memory := (Memory.zeroed memorySize).writeBlock 0x200 [0xF3, 0x0A] } } },
        ⟨⟨by simp [Memory.zeroed], rfl, rfl⟩, Kind.mem_all, nofun⟩, rfl, rfl, ?_⟩
      unfold earlier
      decide +kernel
    obtain ⟨trace, left, ran, waits⟩ := (held_keys_answer_no_wait.1 session _ complete accepted 2 3).last
    obtain ⟨word, found, -, suspended, -⟩ := waits earlier moment next
    obtain rfl : 0xF30A = word := by
      rw [place, fetched] at found
      exact Except.ok.inj found
    refine ⟨session, trace, left, pc, running, ran, ?_, ?_⟩
    · rw [suspended]
      exact place
    · rw [suspended]
      rfl
  · obtain ⟨machine, created, runs⟩ :=
      held_keys_answer_no_wait.2 { keys := ["w"], quiet := true } ⟨2, 3⟩ [0xF3, 0x0A] 7 7 rfl
    have full : ({ machine } : Session).machine.state.memory.size = memorySize :=
      (Machine.create_sound created).state.memory_size
    have accepted := Machine.checkProgram_wordsOfBytes .big (show [0xF3, 0x0A].length ≤ 3584 by decide)
    have loaded := Machine.load_run full accepted
    obtain ⟨running, -, trace, left, -, outcome⟩ := runs _ loaded
    exact ⟨machine, _, left, created, loaded, running, outcome⟩

end Chip8
