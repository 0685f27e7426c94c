import Chip8.Proofs.Observation

/-!
# The sound timer is inert

The sound timer is there for the host's loudspeaker.  A program can set it, and it counts down, but nothing
that the machine does comes from it.  Two machines that differ in the sound timer go through the same run,
whatever the program is: the difference stays in the sound timer and in the snapshots of it.

* `Snapshot.muted`, `Entry.muted`, `Event.muted`, `Reply.muted` — what is recorded and answered, without the
  sound timer; `Entry.Agrees`, `agrees_of_muted` — what that says of two steps.
* `State.twins_tone` — states that differ in the sound timer are twins.
* `Likeness.tone`, **`tone_lawful`** — such sessions, as a likeness that every operation respects.
* **`sound_timer_is_inert`** — two runs from machines that differ in the sound timer.
-/

namespace Chip8

/-! ## Without the sound timer -/

/-- A snapshot without the sound timer. -/
def Snapshot.muted (snapshot : Snapshot) : Snapshot := { snapshot with soundTimer := 0 }

/-- An entry with muted snapshots. -/
def Entry.muted (entry : Entry) : Entry :=
  { entry with before := entry.before.map Snapshot.muted, after := entry.after.map Snapshot.muted }

/-- An event with muted snapshots. -/
def Event.muted : Event → Event
  | .stepped entry => .stepped entry.muted
  | .observed entry => .observed entry.muted
  | event => event

/-- A reply with muted snapshots. -/
def Reply.muted : Reply → Reply
  | .entry step => .entry (step.map Entry.muted)
  | .trace entries => .trace (entries.map Entry.muted)
  | reply => reply

/-- Two entries tell the same of a step. -/
structure Entry.Agrees (entry other : Entry) : Prop where
  cycle : other.cycle = entry.cycle
  pc : other.pc = entry.pc
  opcode : other.opcode? = entry.opcode?
  mnemonic : other.mnemonic = entry.mnemonic
  kind : other.kind? = entry.kind?
  error : other.error = entry.error
  fault : other.fault = entry.fault

/-- Entries that differ in tones alone tell the same. -/
lemma Entry.agrees_of_muted {entry other : Entry} (same : other.muted = entry.muted) :
    entry.Agrees other := by
  simp only [muted, mk.injEq] at same
  obtain ⟨cycle, pc, decoding, error, fault, -⟩ := same
  exact
    { cycle, pc, error, fault
      opcode := by simp only [opcode?, decoding]
      mnemonic := by simp only [mnemonic, decoding]
      kind := by simp only [kind?, decoding] }

/-- Lists of kept values that look alike still do so after one more value. -/
lemma Recent.map_toList_push {α β : Type} {f : α → β} {recent twin : Recent α} {value other : α}
    (bound : twin.bound = recent.bound) (alike : twin.toList.map f = recent.toList.map f)
    (same : f other = f value) :
    (twin.push other).toList.map f = (recent.push value).toList.map f := by
  have size : twin.size = recent.size := by
    simpa [toList, Recent.size] using congrArg List.length alike
  simp [toList_push, List.map_drop, alike, same, size, bound]

/-! ## States and recordings that differ in tones -/

/-- The states differ in the sound timer at most. -/
def State.DifferInTone (state twin : State) : Prop := ∃ soundTimer, twin = { state with soundTimer }

namespace State

variable {state twin : State}

/-- **States that differ in the sound timer are twins.** -/
lemma twins_tone : Twins DifferInTone := by
  constructor
  case same => exact fun differ => differ
  case soundTimer =>
      rintro state _ soundTimer ⟨_, rfl⟩
      exact ⟨soundTimer, rfl⟩
  -- all other updates leave the difference where it is
  all_goals
    intros
    obtain ⟨soundTimer, rfl⟩ := ‹DifferInTone _ _›
    exact ⟨soundTimer, rfl⟩

/-- New stacks do not matter either. -/
lemma DifferInTone.stack (differ : DifferInTone state twin) (stack : List Int) :
    DifferInTone { state with stack } { twin with stack } := by
  obtain ⟨soundTimer, rfl⟩ := differ
  exact ⟨soundTimer, rfl⟩

lemma DifferInTone.keypad (differ : DifferInTone state twin) (keypad : Array Bool) :
    DifferInTone { state with keypad } { twin with keypad } := by
  obtain ⟨soundTimer, rfl⟩ := differ
  exact ⟨soundTimer, rfl⟩

/-- Nothing but the sound timer comes from the sound timer when both count down. -/
lemma DifferInTone.clocked (differ : DifferInTone state twin) :
    DifferInTone state.clocked twin.clocked := by
  obtain ⟨soundTimer, rfl⟩ := differ
  exact ⟨max 0 (soundTimer - 1), rfl⟩

lemma DifferInTone.muted (differ : DifferInTone state twin) :
    twin.snapshot.muted = state.snapshot.muted := by
  obtain ⟨soundTimer, rfl⟩ := differ
  rfl

end State

/-- The recordings differ in the sound timers of snapshots at most. -/
structure Recording.DifferInTone (recording twin : Recording) : Prop where
  tracing : twin.tracing = recording.tracing
  hasObserver : twin.hasObserver = recording.hasObserver
  bound : twin.trace.bound = recording.trace.bound
  trace : twin.trace.toList.map Entry.muted = recording.trace.toList.map Entry.muted
  journal : twin.journal.map Event.muted = recording.journal.map Event.muted

namespace Recording.DifferInTone

variable {recording twin : Recording} (differ : recording.DifferInTone twin)
include differ

lemma logged {event other : Event} (same : other.muted = event.muted) :
    (recording.logged event).DifferInTone (twin.logged other) where
  tracing := differ.tracing
  hasObserver := differ.hasObserver
  bound := differ.bound
  trace := differ.trace
  journal := by simp [Recording.logged, differ.journal, same]

lemma completed {entry other : Entry} (same : other.muted = entry.muted) :
    (recording.completed entry).DifferInTone (twin.completed other) where
  tracing := differ.tracing
  hasObserver := differ.hasObserver
  bound := by
    simp only [Recording.completed, differ.tracing]
    split
    · simp [Recent.bound_push, differ.bound]
    · exact differ.bound
  trace := by
    simp only [Recording.completed, differ.tracing]
    split
    · exact Recent.map_toList_push differ.bound differ.trace same
    · exact differ.trace
  journal := by
    simp only [Recording.completed, differ.hasObserver]
    split <;> simp [Event.muted, differ.journal, same]

end Recording.DifferInTone

/-! ## Sessions that differ in tones -/

/-- Sessions that differ in the sound timer and in the snapshots of it. -/
def Likeness.tone : Likeness where
  state := State.DifferInTone
  recording := Recording.DifferInTone
  entry entry other := other.muted = entry.muted

namespace Likeness

lemma tone_snapshot {machine twin : Machine} (seen : tone.Seen machine twin) :
    twin.snapshot?.map Snapshot.muted = machine.snapshot?.map Snapshot.muted := by
  obtain ⟨session, other, alike, rfl, rfl⟩ := seen
  have tracing : other.machine.tracing = session.machine.tracing := alike.recording.tracing
  simp only [Machine.snapshot?, tracing]
  split
  · exact congrArg some alike.state.muted
  · rfl

/-- **Nothing that a host can do depends on the sound timer.** -/
theorem tone_lawful : tone.Lawful where
  fresh font := ⟨_, rfl⟩
  reads := by
    rintro state _ ⟨soundTimer, rfl⟩
    exact ⟨rfl, rfl, rfl, rfl⟩
  clocked differ := differ.clocked
  store := State.twins_tone.writeBlock
  sense key pressed := by
    refine State.twins_tone.get_then (fun state => ?_) fun _ _ => rfl
    cases state.keypad[key.1]? with
    | none => exact .throw _
    | some before =>
        exact Lockstep.bind_eq
          (State.twins_tone.update fun state soundTimer differ => differ.keypad _) fun _ => .pure rfl
  resolve register value :=
    (State.twins_tone.setRegister register value).bind_eq fun _ =>
      State.twins_tone.resume.bind_eq fun _ => State.twins_tone.advance 2
  execute set byte kind ins :=
    State.twins_tone.execute set (fun _ _ _ stack differ => differ.stack stack) byte ins
  logged event differ := differ.logged rfl
  cleared differ :=
    { tracing := differ.tracing
      hasObserver := differ.hasObserver
      bound := differ.bound
      trace := rfl
      journal := differ.journal }
  completed differ same := differ.completed same
  entry start final cycle pc decoding error fault := by
    simp only [tone, Entry.muted, tone_snapshot start, tone_snapshot final]

variable {session twin : Session}

lemma tone_machine (alike : tone.Holds session twin) :
    let left := session.machine
    let right := twin.machine
    right = { left with
      state := { left.state with soundTimer := right.state.soundTimer }
      trace := right.trace } := by
  obtain ⟨⟨⟩, _⟩ := session
  obtain ⟨⟨⟩, _⟩ := twin
  obtain ⟨⟨soundTimer, state⟩, recording, around⟩ := alike
  have tracing := recording.tracing
  have hasObserver := recording.hasObserver
  cases state
  cases around
  cases tracing
  cases hasObserver
  rfl

lemma tone_answers {answer other : Reply} (answers : tone.Answers answer other) :
    other.muted = answer.muted := by
  cases answers with
  | entry entries => exact congrArg (fun step => Reply.entry (some step)) entries
  | trace seen =>
      obtain ⟨session, twin, alike, rfl, rfl⟩ := seen
      exact congrArg Reply.trace alike.recording.trace
  | _ => rfl

lemma tone_replies {answer other : Except Error Reply} (replies : tone.Replies answer other) :
    other.map Reply.muted = answer.map Reply.muted := by
  cases replies with
  | ok answers => exact congrArg Except.ok (tone_answers answers)
  | error error => rfl

end Likeness

/-! ## Runs -/

/-- **The sound timer is inert.**  The same operations are done to a machine and to the same machine with
another value in its sound timer.  After them the machines still agree in everything but the sound timer
and the snapshots of it on the trace, and so do their journals and all that they have answered, refusals
included.  They have gone through the same elementary operations, and the entries of all steps tell the
same. -/
theorem sound_timer_is_inert (machine : Machine) (soundTimer : Int) (commands : List Command) :
    let session : Session := { machine }
    let other : Session := { machine := { machine with state := { machine.state with soundTimer } } }
    let left := session.performAll commands
    let right := other.performAll commands
    right.machine = { left.machine with
        state := { left.machine.state with soundTimer := right.machine.state.soundTimer }
        trace := right.machine.trace } ∧
      right.machine.trace.bound = left.machine.trace.bound ∧
      right.machine.trace.toList.map Entry.muted = left.machine.trace.toList.map Entry.muted ∧
      right.journal.map Event.muted = left.journal.map Event.muted ∧
      (other.replies commands).map (Except.map Reply.muted) =
        (session.replies commands).map (Except.map Reply.muted) ∧
      other.unrolled commands = session.unrolled commands ∧
      List.Forall₂ Entry.Agrees (session.entries commands) (other.entries commands) ∧
      (other.entries commands).map Entry.muted = (session.entries commands).map Entry.muted := by
  intro session other left right
  have lawful := Likeness.tone_lawful
  have start : Likeness.tone.Holds session other := ⟨⟨soundTimer, rfl⟩, ⟨rfl, rfl, rfl, rfl, rfl⟩, rfl⟩
  have alike : Likeness.tone.Holds left right := lawful.performAll start commands
  have entries := lawful.entries start commands
  refine ⟨Likeness.tone_machine alike, alike.recording.bound, alike.recording.trace,
    alike.recording.journal, ?_, lawful.unrolled start commands, ?_, ?_⟩
  · exact map_eq_of_forall₂ (fun _ _ => Likeness.tone_replies) (lawful.replies start commands)
  · exact entries.imp fun _ _ => Entry.agrees_of_muted
  · exact map_eq_of_forall₂ (fun _ _ same => same) entries

end Chip8
