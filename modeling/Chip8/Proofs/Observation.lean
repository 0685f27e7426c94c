import Chip8.Proofs.Lockstep

/-!
# Observation changes nothing

Whether steps are recorded, how many of them are kept and whether an observer is shown them is a matter of
the recording alone.  Two machines that differ in these settings do the same in every step: a run that is
being debugged is the run that was to be debugged.

* `Entry.bare`, `Reply.bare` — entries and replies without what only a recording can tell.
* `Likeness.unrecorded` — sessions that agree in everything but their recordings.
* **`observation_changes_nothing`** — two machines with different settings of this sort go through the same
  states and answer alike, refusals included.
-/

namespace Chip8

/-! ## Without the recording -/

/-- An entry without its snapshots. -/
def Entry.bare (entry : Entry) : Entry := { entry with before := none, after := none }

/-- A reply without snapshots and without the trace. -/
def Reply.bare : Reply → Reply
  | .entry step => .entry (step.map Entry.bare)
  | .trace _ => .trace []
  | reply => reply

/-- Sessions that agree in everything but their recordings. -/
def Likeness.unrecorded : Likeness where
  state := Eq
  recording _ _ := True
  entry entry other := other.bare = entry.bare

namespace Likeness

variable {session twin : Session}

lemma unrecorded_iff :
    unrecorded.Holds session twin ↔
      twin.machine = { session.machine with
        tracing := twin.machine.tracing
        hasObserver := twin.machine.hasObserver
        trace := twin.machine.trace } := by
  obtain ⟨⟨⟩, _⟩ := session
  obtain ⟨⟨⟩, _⟩ := twin
  constructor
  · rintro ⟨state, -, around⟩
    cases state
    cases around
    rfl
  · intro same
    cases same
    exact ⟨rfl, trivial, rfl⟩

lemma unrecorded_lawful : unrecorded.Lawful :=
  .of_same_state (fun _ _ => trivial) (fun _ => trivial) (fun _ _ => trivial) fun _ _ _ _ _ _ _ => rfl

/-- Machines that are made alike, the recording apart. -/
lemma unrecorded_created {settings : Settings} {machine twin : Machine} {tracing hasObserver : Bool}
    {traceBound : Int} (created : Machine.create settings = .ok machine)
    (again : Machine.create { settings with tracing, traceBound, hasObserver } = .ok twin) :
    unrecorded.Holds { machine } { machine := twin } := by
  obtain ⟨bound, font, -, table, new⟩ := Machine.create_eq_ok_iff.1 created
  obtain ⟨bound', font', -, table', new'⟩ := Machine.create_eq_ok_iff.1 again
  have same : font' = font := Except.ok.inj (table'.symm.trans table)
  rw [unrecorded_iff]
  simp only [new, new', same]
  rfl

lemma unrecorded_answers {answer other : Reply} (answers : unrecorded.Answers answer other) :
    other.bare = answer.bare := by
  cases answers with
  | entry entries => exact congrArg (fun step => Reply.entry (some step)) entries
  | _ => rfl

lemma unrecorded_replies {answer other : Except Error Reply} (replies : unrecorded.Replies answer other) :
    other.map Reply.bare = answer.map Reply.bare := by
  cases replies with
  | ok answers => exact congrArg Except.ok (unrecorded_answers answers)
  | error error => rfl

end Likeness

/-! ## Runs -/

lemma map_eq_of_forall₂ {α β : Type} {agree : α → α → Prop} {f : α → β} {first second : List α}
    (same : ∀ one other, agree one other → f other = f one) (agreed : List.Forall₂ agree first second) :
    second.map f = first.map f := by
  induction agreed with
  | nil => rfl
  | cons head _ ih => rw [List.map_cons, List.map_cons, same _ _ head, ih]

/-- **Observation changes nothing.**  Two machines are made with the same glyphs and the same random
supply; tracing, the bound of the trace and the observer are as one likes.  Then the same sequence of
operations leads them through the same elementary operations to machines that differ in these settings and
in the trace only.  They answer alike, refusals included, and the entries of all steps are the same, their
snapshots apart. -/
theorem observation_changes_nothing {settings : Settings} {machine twin : Machine}
    {tracing hasObserver : Bool} {traceBound : Int} (created : Machine.create settings = .ok machine)
    (again : Machine.create { settings with tracing, traceBound, hasObserver } = .ok twin)
    (commands : List Command) :
    let session : Session := { machine }
    let other : Session := { machine := twin }
    let left := (session.performAll commands).machine
    let right := (other.performAll commands).machine
    right = { left with tracing, hasObserver, trace := right.trace } ∧
      (other.replies commands).map (Except.map Reply.bare) =
        (session.replies commands).map (Except.map Reply.bare) ∧
      (other.entries commands).map Entry.bare = (session.entries commands).map Entry.bare ∧
      other.unrolled commands = session.unrolled commands := by
  intro session other left right
  have lawful := Likeness.unrecorded_lawful
  have alike : Likeness.unrecorded.Holds session other := Likeness.unrecorded_created created again
  have same := Likeness.unrecorded_iff.1 (lawful.performAll alike commands)
  have accounts := Accounts.reached again commands
  refine ⟨?_, ?_, ?_, lawful.unrolled alike commands⟩
  · rw [accounts.tracing, accounts.hasObserver] at same
    exact same
  · exact map_eq_of_forall₂ (fun _ _ => Likeness.unrecorded_replies) (lawful.replies alike commands)
  · exact map_eq_of_forall₂ (fun _ _ same => same) (lawful.entries alike commands)

/-- A word without a meaning, a random byte, a wait and a report with a seventeenth key: once unrecorded, and
once with an observer and room for a single entry. -/
theorem observation_changes_nothing_waiting :
    let settings : Settings := { random := .sequence (fun draw => draw) 7 }
    let commands : List Command :=
      [.load [0x5AB1, 0xC0FF, 0xF30A], .run 1 2 none, .tick (some (.changes [(16, true)])), .step]
    ∃ machine twin, Machine.create settings = .ok machine ∧
      Machine.create { settings with tracing := true, traceBound := 1, hasObserver := true } = .ok twin ∧
      let left := Session.performAll { machine } commands
      let right := Session.performAll { machine := twin } commands
      (left.machine.state.mode = .awaitingKey 3 ∧ left.machine.state.registers[0]? = some 7 ∧
        left.machine.ticks = 2 ∧ left.machine.trace.size = 0 ∧
        right.machine.trace.size = 1 ∧ (observedEntries right.journal).length = 3) ∧
      right.machine =
        { left.machine with tracing := true, hasObserver := true, trace := right.machine.trace } := by
  intro settings commands
  obtain ⟨machine, twin, created, again, told⟩ : ∃ machine twin,
      Machine.create settings = .ok machine ∧
      Machine.create { settings with tracing := true, traceBound := 1, hasObserver := true } = .ok twin ∧
      let left := Session.performAll { machine } commands
      let right := Session.performAll { machine := twin } commands
      left.machine.state.mode = .awaitingKey 3 ∧ left.machine.state.registers[0]? = some 7 ∧
        left.machine.ticks = 2 ∧ left.machine.trace.size = 0 ∧
        right.machine.trace.size = 1 ∧ (observedEntries right.journal).length = 3 := by
    refine ⟨_, _, rfl, rfl, ?_⟩
    unfold settings commands
    decide +kernel
  exact ⟨machine, twin, created, again, told,
    (observation_changes_nothing created again commands).1⟩

end Chip8
