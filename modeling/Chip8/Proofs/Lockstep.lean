import Chip8.Proofs.Accounting

/-!
# Sessions in lockstep

Two sessions that are alike in what operations look at do the same for ever.  What "alike" means differs
from case to case: the journals may have begun differently, one machine may be traced and the other not.
The way through the operations is the same each time, and it is gone here once.

* `Recording`, `Surroundings` — what is recorded of a session, and what stands around its state.
* **`Likeness`**, `Likeness.Lawful` — in what two sessions are alike, and what has to be shown about it.
* `Likeness.Lawful.perform` — everything that a host can do keeps such sessions in lockstep.
* **`Likeness.Lawful.performAll`**, `replies`, `unrolled`, `entries` — the same for runs, their answers, their
  elementary operations and the entries of their steps.
-/

namespace Chip8

namespace Lockstep

variable {related : Session → Session → Prop}

lemma accept {α : Type} (result : Except Error α) :
    Lockstep related Eq (Machine.accept result) (Machine.accept result) := by
  cases result with
  | ok value => exact pure rfl
  | error error => exact throw error

lemma catchFault {operation twin : Operation Unit} (inner : Lockstep related Eq operation twin) :
    Lockstep related Eq (Machine.catchFault operation) (Machine.catchFault twin) := by
  intro session other alike
  have ended := inner session other alike
  rw [Machine.catchFault_eq, Machine.catchFault_eq]
  generalize operation.run session = outcome, twin.run other = outcome' at ended ⊢
  cases ended with
  | ok _ states => exact .ok rfl states
  | @error error _ _ states =>
      cases error with
      | fault fault => exact .ok rfl states
      | _ => exact .error states

end Lockstep

/-! ## What two sessions share -/

/-- What is recorded of a session, and the settings that decide about it. -/
structure Recording where
  tracing : Bool
  hasObserver : Bool
  trace : Recent Entry
  journal : Journal

/-- The recording of a session. -/
def Session.recording (session : Session) : Recording where
  tracing := session.machine.tracing
  hasObserver := session.machine.hasObserver
  trace := session.machine.trace
  journal := session.journal

/-- The recording after one more event. -/
def Recording.logged (recording : Recording) (event : Event) : Recording :=
  { recording with journal := recording.journal.push event }

/-- The recording after a step was recorded and shown. -/
def Recording.completed (recording : Recording) (entry : Entry) : Recording :=
  { recording with
    trace := if recording.tracing then recording.trace.push entry else recording.trace
    journal :=
      if recording.hasObserver then (recording.journal.push (.stepped entry)).push (.observed entry)
      else recording.journal.push (.stepped entry) }

lemma Session.recording_completed (session : Session) (entry : Entry) :
    (session.completed entry).recording = session.recording.completed entry := by
  rw [recording, completed_machine, completed_journal]
  rfl

/-- The parts of a machine that stand around its state. -/
structure Surroundings where
  font : Font
  instructions : InstructionSet
  random : RandomSupply
  faults : FaultCounts
  ticks : Nat
  latch : Latch

/-- The surroundings of a machine's state. -/
def Machine.surroundings (machine : Machine) : Surroundings where
  font := machine.font
  instructions := machine.instructions
  random := machine.random
  faults := machine.faults
  ticks := machine.ticks
  latch := machine.latch

/-- In what two sessions are alike: in their states, in their recordings and in the entries of their
steps.  The surroundings are equal. -/
structure Likeness where
  state : State → State → Prop
  recording : Recording → Recording → Prop
  entry : Entry → Entry → Prop

namespace Likeness

/-- Two sessions are alike. -/
structure Holds (like : Likeness) (session twin : Session) : Prop where
  state : like.state session.machine.state twin.machine.state
  recording : like.recording session.recording twin.recording
  around : twin.machine.surroundings = session.machine.surroundings

/-- Machines of sessions that are alike. -/
def Seen (like : Likeness) (machine twin : Machine) : Prop :=
  ∃ session other, like.Holds session other ∧ session.machine = machine ∧ other.machine = twin

/-- Answers that agree: entries do as the likeness says, traces are those of machines that are alike,
and all other answers are equal. -/
inductive Answers (like : Likeness) : Reply → Reply → Prop
  | nothing : like.Answers .nothing .nothing
  | key (resolved : Option Key) : like.Answers (.key resolved) (.key resolved)
  | suspended : like.Answers (.entry none) (.entry none)
  | entry {entry other : Entry} (entries : like.entry entry other) :
      like.Answers (.entry (some entry)) (.entry (some other))
  | count (steps : Nat) : like.Answers (.count steps) (.count steps)
  | trace {machine twin : Machine} (seen : like.Seen machine twin) :
      like.Answers (.trace machine.trace.toList) (.trace twin.trace.toList)

/-- Two operations answer alike, or are refused for the same reason. -/
inductive Replies (like : Likeness) : Except Error Reply → Except Error Reply → Prop
  | ok {answer other : Reply} (answers : like.Answers answer other) :
      like.Replies (.ok answer) (.ok other)
  | error (error : Error) : like.Replies (.error error) (.error error)

/-- What a likeness has to respect. -/
structure Lawful (like : Likeness) : Prop where
  fresh : ∀ font, like.state (.fresh font) (.fresh font)
  /-- A step looks at these parts before it does anything. -/
  reads : ∀ {state twin : State}, like.state state twin → twin.memory = state.memory ∧
    twin.pc = state.pc ∧ twin.mode = state.mode ∧ twin.cycleCount = state.cycleCount
  clocked : ∀ {state twin : State}, like.state state twin → like.state state.clocked twin.clocked
  store : ∀ address data,
    Lockstep like.state Eq (State.writeBlock address data) (State.writeBlock address data)
  sense : ∀ key pressed,
    Lockstep like.state Eq (Machine.setKeypad key pressed) (Machine.setKeypad key pressed)
  resolve : ∀ register value,
    Lockstep like.state Eq (Machine.resolve register value) (Machine.resolve register value)
  execute : ∀ (set : InstructionSet) byte kind ins,
    Lockstep like.state Eq (set.execute byte kind ins) (set.execute byte kind ins)
  logged : ∀ {recording twin : Recording} (event : Event), like.recording recording twin →
    like.recording (recording.logged event) (twin.logged event)
  cleared : ∀ {recording twin : Recording}, like.recording recording twin →
    like.recording { recording with trace := recording.trace.clear }
      { twin with trace := twin.trace.clear }
  completed : ∀ {recording twin : Recording} {entry other : Entry},
    like.recording recording twin → like.entry entry other →
      like.recording (recording.completed entry) (twin.completed other)
  entry : ∀ {before before' after after' : Machine}, like.Seen before before' → like.Seen after after' →
    ∀ cycle pc decoding error fault,
      like.entry
        { cycle, pc, decoding, error, fault, before := before.snapshot?, after := after.snapshot? }
        { cycle, pc, decoding, error, fault, before := before'.snapshot?, after := after'.snapshot? }

namespace Holds

variable {like : Likeness} {session twin : Session}

lemma withState (holds : like.Holds session twin) {state other : State} (states : like.state state other) :
    like.Holds (Machine.withState session state) (Machine.withState twin other) :=
  ⟨states, holds.recording, holds.around⟩

lemma seen (holds : like.Holds session twin) : like.Seen session.machine twin.machine :=
  ⟨session, twin, holds, rfl, rfl⟩

lemma font (holds : like.Holds session twin) : twin.machine.font = session.machine.font :=
  congrArg Surroundings.font holds.around

lemma instructions (holds : like.Holds session twin) :
    twin.machine.instructions = session.machine.instructions :=
  congrArg Surroundings.instructions holds.around

lemma random (holds : like.Holds session twin) : twin.machine.random = session.machine.random :=
  congrArg Surroundings.random holds.around

lemma latch (holds : like.Holds session twin) : twin.machine.latch = session.machine.latch :=
  congrArg Surroundings.latch holds.around

end Holds

/-- Where the states are the same, the recordings are all that has to be looked at. -/
lemma Lawful.of_same_state {recording : Recording → Recording → Prop} {entry : Entry → Entry → Prop}
    (logged : ∀ {before twin : Recording} (event : Event), recording before twin →
      recording (before.logged event) (twin.logged event))
    (cleared : ∀ {before twin : Recording}, recording before twin →
      recording { before with trace := before.trace.clear } { twin with trace := twin.trace.clear })
    (completed : ∀ {before twin : Recording} {step other : Entry},
      recording before twin → entry step other →
        recording (before.completed step) (twin.completed other))
    (entries : ∀ {before before' after after' : Machine},
      Seen ⟨Eq, recording, entry⟩ before before' → Seen ⟨Eq, recording, entry⟩ after after' →
        ∀ cycle pc decoding error fault,
          entry
            { cycle, pc, decoding, error, fault, before := before.snapshot?, after := after.snapshot? }
            { cycle, pc, decoding, error, fault, before := before'.snapshot?, after := after'.snapshot? }) :
    Lawful ⟨Eq, recording, entry⟩ where
  fresh _ := rfl
  reads := by
    rintro state _ rfl
    exact ⟨rfl, rfl, rfl, rfl⟩
  clocked := congrArg State.clocked
  store _ _ := .refl _
  sense _ _ := .refl _
  resolve _ _ := .refl _
  execute _ _ _ _ := .refl _
  logged
  cleared
  completed
  entry := entries

/-! ### Building blocks -/

section

variable {like : Likeness}

lemma look {α β : Type} {agree : α → β → Prop} {next : Machine → Operation α}
    {next' : Machine → Operation β}
    (rest : ∀ {session twin : Session}, like.Holds session twin →
      Lockstep like.Holds agree (next session.machine) (next' twin.machine)) :
    Lockstep like.Holds agree (Machine.look >>= next) (Machine.look >>= next') :=
  fun session twin holds => rest holds session twin holds

lemma change {f : Machine → Machine}
    (keeps : ∀ {session twin : Session}, like.Holds session twin →
      like.Holds { session with machine := f session.machine } { twin with machine := f twin.machine }) :
    Lockstep like.Holds Eq (Machine.change f) (Machine.change f) :=
  fun _ _ holds => .ok rfl (keeps holds)

lemma onState {α : Type} {action twin : Action α} (same : Lockstep like.state Eq action twin) :
    Lockstep like.Holds Eq (Machine.onState action) (Machine.onState twin) := by
  intro session other holds
  have ended := same _ _ holds.state
  rw [Machine.onState_run, Machine.onState_run]
  generalize action.run session.machine.state = outcome, twin.run other.machine.state = outcome'
    at ended ⊢
  cases ended with
  | ok answers states => exact .ok answers (holds.withState states)
  | error states => exact .error (holds.withState states)

lemma setLatch (latch : Latch) :
    Lockstep like.Holds Eq (Machine.change fun machine => { machine with latch })
      (Machine.change fun machine => { machine with latch }) :=
  change fun holds =>
    ⟨holds.state, holds.recording, congrArg (fun around => { around with latch }) holds.around⟩

lemma byteFor (kind : Kind) :
    Lockstep like.Holds Eq (Machine.byteFor kind) (Machine.byteFor kind) := by
  refine .ite (look fun {session twin} holds => ?_) (.pure rfl)
  rw [holds.random]
  exact (change fun holds => ⟨holds.state, holds.recording,
    congrArg (fun around => { around with random := session.machine.random.draw.2 })
      holds.around⟩).bind_eq fun _ => .pure rfl

end

namespace Lawful

variable {like : Likeness} (lawful : like.Lawful)
include lawful

lemma emit (event : Event) :
    Lockstep like.Holds Eq (Machine.emit event) (Machine.emit event) :=
  fun _ _ holds => .ok rfl ⟨holds.state, lawful.logged event holds.recording, holds.around⟩

/-! ### Loads and resets -/

lemma load (words : List Int) : Lockstep like.Holds Eq (Machine.load words) (Machine.load words) :=
  (Lockstep.accept _).bind_eq fun _ => (onState (lawful.store _ _)).bind_eq fun _ => lawful.emit _

lemma loadFile (file : ProgramFile) :
    Lockstep like.Holds Eq (Machine.loadFile file) (Machine.loadFile file) :=
  (Lockstep.accept _).bind_eq fun _ => lawful.load _

lemma loadFont (glyphs : List Int) :
    Lockstep like.Holds Eq (Machine.loadFont glyphs) (Machine.loadFont glyphs) :=
  (Lockstep.accept _).bind_eq fun font => (onState (lawful.store _ _)).bind_eq fun _ =>
    change fun holds =>
      ⟨holds.state, holds.recording, congrArg (fun around => { around with font }) holds.around⟩

lemma reset : Lockstep like.Holds Eq Machine.reset Machine.reset := by
  refine (change fun {session twin} holds => ⟨?_, lawful.cleared holds.recording, ?_⟩).bind_eq
    fun _ => lawful.emit _
  · dsimp only
    rw [holds.font]
    exact lawful.fresh _
  · exact congrArg (fun around => { around with ticks := 0, latch := {}, faults := {} }) holds.around

/-! ### Timers and keys -/

lemma advanceTimers : Lockstep like.Holds Eq Machine.advanceTimers Machine.advanceTimers :=
  (change fun holds =>
    ⟨lawful.clocked holds.state, holds.recording,
      congrArg (fun around => { around with ticks := around.ticks + 1 }) holds.around⟩).bind_eq
    fun _ => lawful.emit _

lemma holdKey (key : Int) (pressed : Bool) :
    Lockstep like.Holds Eq (Machine.holdKey key pressed) (Machine.holdKey key pressed) := by
  refine look fun holds => ?_
  rw [holds.latch]
  exact (Lockstep.accept _).bind_eq fun _ => (setLatch _).bind_eq fun _ => lawful.emit _

lemma syncKey (key : Key) : Lockstep like.Holds Eq (Machine.syncKey key) (Machine.syncKey key) := by
  refine look fun {session twin} holds => ?_
  rw [holds.latch]
  refine (onState (lawful.sense _ _)).bind_eq fun before => .ite ?_ (.pure rfl)
  refine look fun {session twin} holds => ?_
  obtain ⟨-, -, mode, -⟩ := lawful.reads holds.state
  rw [mode]
  cases session.machine.state.mode with
  | running => exact .pure rfl
  | awaitingKey register =>
      exact (onState (lawful.resolve _ _)).bind_eq fun _ => (lawful.emit _).bind_eq fun _ => .pure rfl

lemma syncKeysFrom (found : Option Key) (keys : List Key) :
    Lockstep like.Holds Eq (Machine.syncKeysFrom found keys) (Machine.syncKeysFrom found keys) := by
  induction keys generalizing found with
  | nil => exact .pure rfl
  | cons key rest ih => exact (lawful.syncKey key).bind_eq fun _ => .ite (ih _) (ih _)

lemma syncKeys (report : Option HostReport) :
    Lockstep like.Holds Eq (Machine.syncKeys report) (Machine.syncKeys report) := by
  have brought : Lockstep like.Holds Eq
      (do
        let resolved ← Machine.syncKeysFrom none (List.finRange keyCount)
        Machine.emit (.synced report)
        return resolved : Operation (Option Key))
      (do
        let resolved ← Machine.syncKeysFrom none (List.finRange keyCount)
        Machine.emit (.synced report)
        return resolved) :=
    (lawful.syncKeysFrom _ _).bind_eq fun _ => (lawful.emit _).bind_eq fun _ => .pure rfl
  cases report with
  | none => exact brought
  | some report =>
      refine look fun holds => ?_
      rw [holds.latch]
      exact (Lockstep.accept _).bind_eq fun _ => (setLatch _).bind_eq fun _ => brought

/-! ### Steps -/

lemma report (fault : Fault) :
    Lockstep like.Holds Eq (Machine.report fault) (Machine.report fault) :=
  (change fun holds =>
    ⟨holds.state, holds.recording,
      congrArg (fun around => { around with faults := around.faults.record fault.kind })
        holds.around⟩).bind_eq fun _ => lawful.emit _

lemma complete {entry other : Entry} (entries : like.entry entry other) :
    Lockstep like.Holds like.entry (Machine.complete entry) (Machine.complete other) := by
  intro session twin holds
  rw [Machine.complete_run, Machine.complete_run]
  refine .ok entries ⟨?_, ?_, ?_⟩
  · rw [Session.completed_machine, Session.completed_machine]
    exact holds.state
  · rw [Session.recording_completed, Session.recording_completed]
    exact lawful.completed holds.recording entries
  · rw [Session.completed_machine, Session.completed_machine]
    exact holds.around

lemma executeWith (set : InstructionSet) (kind : Kind) (ins : Instruction) :
    Lockstep like.Holds Eq (Machine.executeWith set kind ins) (Machine.executeWith set kind ins) :=
  (byteFor kind).bind_eq fun _ => onState (lawful.execute _ _ _ _)

/-- What follows the warning about a word without a meaning. -/
lemma reportFault (trouble : Option String × Option Fault) (kind : Kind) (ins : Instruction) :
    let operation : Operation (Option String × Option Fault) := do
      match ← Machine.catchFault (Machine.executeWith (← Machine.look).instructions kind ins) with
      | some fault => do
        Machine.report fault
        return (some fault.report, some fault)
      | none => return trouble
    Lockstep like.Holds Eq operation operation := by
  refine look fun holds => ?_
  rw [holds.instructions]
  refine (Lockstep.catchFault (lawful.executeWith _ _ _)).bind_eq fun met => ?_
  cases met with
  | none => exact .pure rfl
  | some fault => exact (lawful.report fault).bind_eq fun _ => .pure rfl

lemma executeDecoded (pc : Int) (decoding : Decoding) :
    Lockstep like.Holds Eq (Machine.executeDecoded pc decoding) (Machine.executeDecoded pc decoding) := by
  rw [Machine.executeDecoded]
  obtain ⟨problem, unknown⟩ := Machine.wordTrouble pc decoding
  cases unknown with
  | none => exact lawful.reportFault _ _ _
  | some fault => exact (lawful.report fault).bind_eq fun _ => lawful.reportFault _ _ _

/-- **Steps of sessions that are alike** end alike, with entries that agree or with none. -/
theorem step : Lockstep like.Holds (Option.Rel like.entry) Machine.step Machine.step := by
  refine look fun {session twin} holds => ?_
  have seen := holds.seen
  obtain ⟨memory, pc, mode, cycle⟩ := lawful.reads holds.state
  rw [memory, pc, mode, cycle]
  refine .ite (.pure .none) ?_
  dsimp only
  cases fetch session.machine.state.memory session.machine.state.pc with
  | ok opcode =>
      exact (Lockstep.accept _).bind_eq fun decoding => (lawful.emit _).bind_eq fun _ =>
        (lawful.executeDecoded _ _).bind_eq fun _ => look fun after =>
          (lawful.complete (lawful.entry seen after.seen _ _ _ _ _)).bind fun _ _ entries =>
            .pure (.some entries)
  | error error =>
      cases error with
      | fault fault =>
          exact (lawful.report fault).bind_eq fun _ => look fun after =>
            (lawful.complete (lawful.entry seen after.seen _ _ _ _ _)).bind fun _ _ entries =>
              .pure (.some entries)
      | _ => exact .throw _

/-! ### Ticks, frames and runs -/

lemma stepUpTo (taken count : Nat) :
    Lockstep like.Holds Eq (Machine.stepUpTo taken count) (Machine.stepUpTo taken count) := by
  induction count generalizing taken with
  | zero => exact .pure rfl
  | succ count ih =>
      refine lawful.step.bind fun answer other answers => ?_
      cases answers with
      | none => exact .pure rfl
      | some _ => exact ih _

lemma tick (keys : Option HostReport) :
    Lockstep like.Holds (Option.Rel like.entry) (Machine.tick keys) (Machine.tick keys) :=
  lawful.advanceTimers.bind_eq fun _ => (lawful.syncKeys keys).bind_eq fun _ => lawful.step

lemma frame (keys : Option HostReport) (steps : Int) :
    Lockstep like.Holds Eq (Machine.frame keys steps) (Machine.frame keys steps) :=
  lawful.advanceTimers.bind_eq fun _ => (lawful.syncKeys keys).bind_eq fun _ => lawful.stepUpTo _ _

lemma frames (keys : Option HostReport) (steps : Int) (count : Nat) :
    Lockstep like.Holds Eq (Machine.frames keys steps count) (Machine.frames keys steps count) := by
  induction count with
  | zero => exact .pure rfl
  | succ count ih => exact (lawful.frame keys steps).bind_eq fun _ => ih

/-- **Everything that a host can do keeps two sessions in lockstep.** -/
theorem perform (command : Command) :
    Lockstep like.Holds like.Answers command.perform command.perform := by
  have unanswered {operation : Operation Unit} (same : Lockstep like.Holds Eq operation operation) :
      Lockstep like.Holds like.Answers (operation >>= fun _ => pure .nothing)
        (operation >>= fun _ => pure .nothing) :=
    same.bind_eq fun _ => .pure .nothing
  have answered {operation : Operation (Option Entry)}
      (same : Lockstep like.Holds (Option.Rel like.entry) operation operation) :
      Lockstep like.Holds like.Answers (operation >>= fun entry => pure (.entry entry))
        (operation >>= fun entry => pure (.entry entry)) := by
    refine same.bind fun entry other entries => .pure ?_
    cases entries with
    | none => exact .suspended
    | some entries => exact .entry entries
  cases command with
  | load words => exact unanswered (lawful.load words)
  | loadFile file => exact unanswered (lawful.loadFile file)
  | loadFont glyphs => exact unanswered (lawful.loadFont glyphs)
  | reset => exact unanswered lawful.reset
  | advanceTimers => exact unanswered lawful.advanceTimers
  | syncKeys keys => exact (lawful.syncKeys keys).bind_eq fun _ => .pure (.key _)
  | holdKey key pressed => exact unanswered (lawful.holdKey key pressed)
  | step => exact answered lawful.step
  | tick keys => exact answered (lawful.tick keys)
  | frame keys steps => exact (lawful.frame keys steps).bind_eq fun _ => .pure (.count _)
  | run frames steps keys =>
      rw [Command.perform, Machine.run, bind_assoc]
      refine (lawful.frames keys steps frames.toNat).bind_eq fun _ => ?_
      rw [bind_assoc]
      refine look fun holds => ?_
      rw [pure_bind]
      exact .pure (.trace holds.seen)

/-! ### Runs -/

variable {session twin : Session} (holds : like.Holds session twin)
include holds

lemma outcomes (command : Command) :
    Corresponds like.Holds like.Answers (command.perform.run session) (command.perform.run twin) :=
  lawful.perform command session twin holds

lemma after (command : Command) :
    like.Holds (session.after command.perform) (twin.after command.perform) := by
  have ended := lawful.outcomes holds command
  rw [Session.after, Session.after]
  generalize command.perform.run session = outcome, command.perform.run twin = outcome' at ended ⊢
  cases ended with
  | ok _ states => exact states
  | error states => exact states

/-- **Sessions that are alike stay alike**, whatever is done to both. -/
theorem performAll (commands : List Command) :
    like.Holds (session.performAll commands) (twin.performAll commands) := by
  induction commands generalizing session twin with
  | nil => exact holds
  | cons command rest ih => exact ih (lawful.after holds command)

lemma reply (command : Command) : like.Replies (session.reply command) (twin.reply command) := by
  have ended := lawful.outcomes holds command
  rw [Session.reply, Session.reply]
  generalize command.perform.run session = outcome, command.perform.run twin = outcome' at ended ⊢
  cases ended with
  | ok answers _ => exact .ok answers
  | error _ => exact .error _

/-- **Sessions that are alike answer alike.** -/
theorem replies (commands : List Command) :
    List.Forall₂ like.Replies (session.replies commands) (twin.replies commands) := by
  induction commands generalizing session twin with
  | nil => exact .nil
  | cons command rest ih => exact .cons (lawful.reply holds command) (ih (lawful.after holds command))

lemma carried (stages : List Command) : twin.carried stages = session.carried stages := by
  induction stages generalizing session twin with
  | nil => rfl
  | cons stage rest ih =>
      have ended := lawful.outcomes holds stage
      rw [Session.carried, Session.carried]
      generalize stage.perform.run session = outcome, stage.perform.run twin = outcome' at ended ⊢
      cases ended with
      | ok _ states => exact congrArg (stage :: ·) (ih states)
      | error _ => rfl

/-- They go through the same elementary operations. -/
lemma unrolled (commands : List Command) : twin.unrolled commands = session.unrolled commands := by
  induction commands generalizing session twin with
  | nil => rfl
  | cons command rest ih =>
      rw [Session.unrolled, Session.unrolled, lawful.carried holds, ih (lawful.after holds command)]

lemma entry? : Option.Rel like.entry session.entry? twin.entry? := by
  have ended := lawful.step session twin holds
  rw [Session.entry?, Session.entry?]
  generalize Machine.step.run session = outcome, Machine.step.run twin = outcome' at ended ⊢
  cases ended with
  | ok entries _ => exact entries
  | error _ => exact .none

lemma entriesFrom {earlier earlier' : List Entry} (same : List.Forall₂ like.entry earlier earlier')
    (stages : List Command) :
    List.Forall₂ like.entry (session.entriesFrom earlier stages) (twin.entriesFrom earlier' stages) := by
  induction stages generalizing session twin earlier earlier' with
  | nil => exact same
  | cons stage rest ih =>
      refine ih (lawful.after holds stage) ?_
      cases stage with
      | reset => exact .nil
      | step =>
          refine List.rel_append same ?_
          have asked := lawful.entry? holds
          generalize session.entry? = entry, twin.entry? = other at asked ⊢
          cases asked with
          | none => exact .nil
          | some entries => exact .cons entries .nil
      | _ => exact same

/-- **The entries of all steps agree**, those inside frames and runs included. -/
theorem entries (commands : List Command) :
    List.Forall₂ like.entry (session.entries commands) (twin.entries commands) := by
  rw [Session.entries, Session.entries, lawful.unrolled holds]
  exact lawful.entriesFrom holds .nil _

end Lawful
end Likeness
end Chip8
