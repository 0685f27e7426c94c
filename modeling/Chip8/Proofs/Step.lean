import Chip8.Machine.Lemmas
import Chip8.Proofs.Effect

/-!
# What one step does

A suspended machine does nothing; a program counter outside memory is reported; a word that was fetched
is executed, and the instruction either runs through or meets a fault.  What remains are accesses that
find no cell and kinds that are not in the set, and a machine of the right shape with the complete set
has neither.

* `Session.reported`, `Session.completed` — a reported fault and a completed step, as functions.
* `Machine.execution` — what carrying out a word does to the state.
* `step_run_waiting`, `step_run_lost`, **`step_run_fetched`** — the equations of a step.
* **`StepEnd`**, `step_end` — the same as a list of cases, to be read backwards: from the answer of a
  step to how it came about.
* `execution_ran`, `execution_met` — what is known of a word that was executed, or that met a fault.
* `Machine.nextState`, **`step_returns`** — the state after a step, on a machine of the right shape.
* `Machine.faultOf`, **`step_executes`** — the entry and the machine after a word was executed.
-/

namespace Chip8

/-! ## The bookkeeping of a step as functions -/

namespace Session

/-- The session with one more event. -/
def logged (session : Session) (event : Event) : Session :=
  { session with journal := session.journal.push event }

/-- The session after a fault was counted. -/
def reported (session : Session) (fault : Fault) : Session :=
  { session with
    machine := { session.machine with faults := session.machine.faults.record fault.kind } }.logged
      (.faulted fault)

/-- The session after a warning about a word without a meaning, if there is one. -/
def warned (session : Session) : Option Fault → Session
  | some fault => session.reported fault
  | none => session

/-- The session after a step was recorded and shown. -/
def completed (session : Session) (entry : Entry) : Session :=
  let traced : Session :=
    if session.machine.tracing then
      { session with machine := { session.machine with trace := session.machine.trace.push entry } }
    else session
  let stepped := traced.logged (.stepped entry)
  if session.machine.hasObserver then stepped.logged (.observed entry) else stepped

/-- The session after a random byte was taken for a kind of instruction that needs one. -/
def drawn (session : Session) (kind : Kind) : Session :=
  if kind = .random then
    { session with machine := { session.machine with random := session.machine.random.draw.2 } }
  else session

/-! ### What they do to the machine -/

variable (session : Session)

@[simp] lemma logged_machine (event : Event) : (session.logged event).machine = session.machine := rfl

@[simp] lemma reported_machine (fault : Fault) :
    (session.reported fault).machine =
      { session.machine with faults := session.machine.faults.record fault.kind } := rfl

@[simp] lemma warned_machine (warning : Option Fault) :
    (session.warned warning).machine =
      { session.machine with
        faults := warning.elim session.machine.faults
          fun fault => session.machine.faults.record fault.kind } := by
  cases warning with
  | none => rfl
  | some fault => rfl

@[simp] lemma completed_machine (entry : Entry) :
    (session.completed entry).machine =
      { session.machine with
        trace := if session.machine.tracing then session.machine.trace.push entry
          else session.machine.trace } := by
  simp only [completed]
  split_ifs <;> rfl

@[simp] lemma drawn_machine (kind : Kind) :
    (session.drawn kind).machine =
      { session.machine with
        random := if kind = .random then session.machine.random.draw.2
          else session.machine.random } := by
  by_cases random : kind = .random <;> simp [drawn, random]

end Session

/-- What is wrong with a word as such. -/
def Kind.warning? (word pc : Int) (kind : Kind) : Option Fault :=
  if kind = .invalid then some (.unknownOpcode word pc) else none

namespace Session

/-- The session in which the instruction that a word stands for begins. -/
def ready (session : Session) (word : Int) : Session :=
  let pc := session.machine.state.pc
  let kind := Kind.ofOpcode word
  ((session.logged (.decoded pc (.ofOpcode word))).warned (kind.warning? word pc)).drawn kind

@[simp] lemma ready_machine (session : Session) (word : Int) :
    (session.ready word).machine =
      { session.machine with
        faults := ((Kind.ofOpcode word).warning? word session.machine.state.pc).elim
          session.machine.faults fun fault => session.machine.faults.record fault.kind
        random := if Kind.ofOpcode word = .random then session.machine.random.draw.2
          else session.machine.random } := by
  simp [ready]

end Session

/-- The random byte for a kind of instruction. -/
def Machine.byteOf (machine : Machine) (kind : Kind) : Int :=
  if kind = .random then machine.random.draw.1 else 0

/-- What carrying out a word does to the state. -/
def Machine.execution (machine : Machine) (word : Int) : Action Unit :=
  machine.instructions.execute (machine.byteOf (.ofOpcode word)) (.ofOpcode word) ⟨word⟩

namespace Machine

variable {session : Session}

@[simp] lemma withState_machine (state : State) :
    (withState session state).machine = { session.machine with state } := rfl

lemma report_run (fault : Fault) : (report fault).run session = .ok () (session.reported fault) := rfl

lemma complete_run (entry : Entry) :
    (complete entry).run session = .ok entry (session.completed entry) := by
  by_cases tracing : session.machine.tracing = true <;>
    by_cases observed : session.machine.hasObserver = true <;>
      simp only [complete, Session.completed, Session.logged, EStateM.run_bind, EStateM.run_pure,
        look_run, change_run, emit_run, tracing, observed, Bool.false_eq_true, ↓reduceIte]

lemma byteFor_run (kind : Kind) :
    (byteFor kind).run session = .ok (session.machine.byteOf kind) (session.drawn kind) := by
  by_cases random : kind = .random <;>
    simp only [byteFor, byteOf, Session.drawn, random, EStateM.run_bind, EStateM.run_pure, look_run,
      change_run, ↓reduceIte]

lemma executeWith_run (set : InstructionSet) (kind : Kind) (ins : Instruction) :
    (executeWith set kind ins).run session =
      (onState (set.execute (session.machine.byteOf kind) kind ins)).run (session.drawn kind) := by
  rw [executeWith, EStateM.run_bind, byteFor_run]

lemma onState_run {α : Type} (action : Action α) :
    (onState action).run session =
      match action.run session.machine.state with
      | .ok value state => .ok value (withState session state)
      | .error error state => .error error (withState session state) := rfl

/-- Executing with faults caught: an instruction runs through, meets a fault or finds a cell missing. -/
lemma catchFault_run (set : InstructionSet) (kind : Kind) (ins : Instruction) :
    (catchFault (executeWith set kind ins)).run session =
      match (set.execute (session.machine.byteOf kind) kind ins).run session.machine.state with
      | .ok _ state => .ok none (withState (session.drawn kind) state)
      | .error (.fault fault) state => .ok (some fault) (withState (session.drawn kind) state)
      | .error error state => .error error (withState (session.drawn kind) state) := by
  have drawn : (session.drawn kind).machine.state = session.machine.state := by simp
  rw [catchFault_eq, executeWith_run, onState_run, drawn]
  cases (set.execute (session.machine.byteOf kind) kind ins).run session.machine.state with
  | ok value state => rfl
  | error error state => cases error <;> rfl

/-- What follows the warning: the instruction is carried out, and a fault that it meets is reported. -/
lemma reportFault_run (session : Session) (trouble : Option String × Option Fault) (kind : Kind)
    (ins : Instruction) :
    (do
      match ← catchFault (executeWith (← look).instructions kind ins) with
      | some fault => do
        report fault
        return (some fault.report, some fault)
      | none => return trouble : Operation (Option String × Option Fault)).run session =
      match (session.machine.instructions.execute (session.machine.byteOf kind) kind ins).run
        session.machine.state with
      | .ok _ state => .ok trouble (withState (session.drawn kind) state)
      | .error (.fault fault) state =>
        .ok (some fault.report, some fault) ((withState (session.drawn kind) state).reported fault)
      | .error error state => .error error (withState (session.drawn kind) state) := by
  simp only [EStateM.run_bind, look_run, catchFault_run]
  cases (session.machine.instructions.execute (session.machine.byteOf kind) kind ins).run
    session.machine.state with
  | ok value state => rfl
  | error error state => cases error <;> rfl

/-- A word without a meaning is told of in the same words as its fault. -/
lemma wordTrouble_ofOpcode (word pc : Int) :
    let warning := (Kind.ofOpcode word).warning? word pc
    wordTrouble pc (.ofOpcode word) = (warning.map Fault.note, warning) := by
  intro warning
  by_cases meaningless : Kind.ofOpcode word = .invalid
  · have warned : warning = some (.unknownOpcode word pc) := if_pos meaningless
    have invalid : ¬ (Decoding.ofOpcode word).isValid = true := by
      simp [Decoding.isValid, Decoding.ofOpcode, meaningless]
    rw [warned, wordTrouble, Decoding.problem?, if_neg invalid, if_neg invalid]
    rfl
  · have quiet : warning = none := if_neg meaningless
    have valid : (Decoding.ofOpcode word).isValid = true := by
      simp [Decoding.isValid, Decoding.ofOpcode, meaningless]
    rw [quiet, wordTrouble, if_pos valid]
    rfl

/-- A word without a meaning is warned of first, and then carried out like any other. -/
lemma executeDecoded_run (session : Session) (word pc : Int) :
    let kind := Kind.ofOpcode word
    let warning := kind.warning? word pc
    let ready := (session.warned warning).drawn kind
    (executeDecoded pc (.ofOpcode word)).run session =
      match (session.machine.instructions.execute (session.machine.byteOf kind) kind ⟨word⟩).run
        session.machine.state with
      | .ok _ state => .ok (warning.map Fault.note, warning) (withState ready state)
      | .error (.fault fault) state =>
        .ok (some fault.report, some fault) ((withState ready state).reported fault)
      | .error error state => .error error (withState ready state) := by
  intro kind warning ready
  have trouble : wordTrouble pc (.ofOpcode word) = (warning.map Fault.note, warning) :=
    wordTrouble_ofOpcode word pc
  have begun := reportFault_run (session.warned warning) (warning.map Fault.note, warning) kind ⟨word⟩
  have same : (session.warned warning).machine =
      { session.machine with faults := (session.warned warning).machine.faults } := by
    cases warning <;> rfl
  rw [same] at begun
  refine Eq.trans ?_ begun
  rw [executeDecoded, trouble]
  cases warning <;> rfl

lemma fetch_range {memory : Memory} {pc word : Int} (fetched : fetch memory pc = .ok word) :
    (0 ≤ pc ∧ pc + 1 < memorySize) ∧ 0 ≤ word ∧ word ≤ 0xFFFF := by
  unfold fetch at fetched
  split at fetched
  · cases fetched
  · next inside =>
      split at fetched
      · next high low _ _ =>
          have := high.toNat_lt
          have := low.toNat_lt
          cases fetched
          omega
      · cases fetched

lemma fetch_error {memory : Memory} (full : memory.size = memorySize) {pc : Int} {error : Error}
    (lost : fetch memory pc = .error error) : ∃ fault, error = .fault fault := by
  unfold fetch at lost
  split at lost
  · cases lost
    exact ⟨_, rfl⟩
  · next inside =>
      have first : pc.toNat < memory.size := by rw [full]; omega
      have second : pc.toNat + 1 < memory.size := by rw [full]; omega
      simp [first, second] at lost

/-- Only a program counter that is outside memory is a fault. -/
lemma fault_of_fetch {memory : Memory} {pc : Int} {fault : Fault}
    (lost : fetch memory pc = .error (.fault fault)) : fault = .badPc pc := by
  unfold fetch at lost
  split at lost
  · cases lost
    rfl
  · split at lost <;> cases lost

lemma decode_of_fetch {memory : Memory} {pc word : Int} (fetched : fetch memory pc = .ok word) :
    decode word = .ok (.ofOpcode word) :=
  if_pos (fetch_range fetched).2

/-- The entry of a step on a machine, with the machine that it left. -/
def entryOf (machine : Machine) (decoding : Option Decoding) (error : Option String)
    (fault : Option Fault) (left : Machine) : Entry where
  cycle := machine.state.cycleCount
  pc := machine.state.pc
  decoding
  error
  fault
  before := machine.snapshot?
  after := left.snapshot?

/-! ## The equations of a step -/

section

variable (running : session.machine.state.mode = .running)
include running

/-- **A program counter outside memory is reported, and that is all.** -/
theorem step_run_lost {fault : Fault}
    (lost : fetch session.machine.state.memory session.machine.state.pc = .error (.fault fault)) :
    let left := session.reported fault
    let entry := session.machine.entryOf none (some fault.report) (some fault) left.machine
    step.run session = .ok (some entry) (left.completed entry) := by
  simp only [step, EStateM.run_bind, look_run, running, Mode.isWaiting, Bool.false_eq_true, ↓reduceIte,
    lost, report_run, complete_run]
  rfl

/-- A cell that is missing ends the step before it has begun. -/
lemma step_run_missing {error : Error} (host : ∀ fault, error ≠ .fault fault)
    (missing : fetch session.machine.state.memory session.machine.state.pc = .error error) :
    step.run session = .error error session := by
  simp only [step, EStateM.run_bind, look_run, running, Mode.isWaiting, Bool.false_eq_true, ↓reduceIte,
    missing]
  cases error with
  | fault fault => exact absurd rfl (host fault)
  | _ => rfl

/-- **A word that was fetched is executed.**  The step has an entry unless a cell is missing. -/
theorem step_run_fetched {word : Int}
    (fetched : fetch session.machine.state.memory session.machine.state.pc = .ok word) :
    step.run session =
      match (session.machine.execution word).run session.machine.state with
      | .ok _ state =>
        let left := withState (session.ready word) state
        let warning := (Kind.ofOpcode word).warning? word session.machine.state.pc
        let entry := session.machine.entryOf (some (.ofOpcode word)) (warning.map Fault.note) warning
          left.machine
        .ok (some entry) (left.completed entry)
      | .error (.fault fault) state =>
        let left := (withState (session.ready word) state).reported fault
        let entry := session.machine.entryOf (some (.ofOpcode word)) (some fault.report) (some fault)
          left.machine
        .ok (some entry) (left.completed entry)
      | .error error state => .error error (withState (session.ready word) state) := by
  simp only [step, EStateM.run_bind, look_run, running, Mode.isWaiting, Bool.false_eq_true, ↓reduceIte,
    fetched, decode_of_fetch fetched, accept_run_ok, emit_run]
  have executed := executeDecoded_run
    (session.logged (.decoded session.machine.state.pc (.ofOpcode word))) word
    session.machine.state.pc
  simp only [Session.logged] at executed ⊢
  rw [executed, execution]
  cases (session.machine.instructions.execute (session.machine.byteOf (.ofOpcode word))
    (.ofOpcode word) ⟨word⟩).run session.machine.state with
  | ok value state =>
      simp only [complete_run, EStateM.run_pure]
      rfl
  | error error state =>
      cases error with
      | fault fault =>
          simp only [complete_run, EStateM.run_pure]
          rfl
      | _ => rfl

end

/-- The ends of a step. -/
inductive StepEnd (session : Session) : EStateM.Result Error Session (Option Entry) → Prop
  | suspended (waiting : session.machine.state.mode.isWaiting = true) :
      StepEnd session (.ok none session)
  | lost (running : session.machine.state.mode = .running) (fault : Fault)
      (lost : fetch session.machine.state.memory session.machine.state.pc = .error (.fault fault)) :
      StepEnd session
        (.ok
          (some (session.machine.entryOf none (some fault.report) (some fault)
            (session.reported fault).machine))
          ((session.reported fault).completed
            (session.machine.entryOf none (some fault.report) (some fault)
              (session.reported fault).machine)))
  | missing (running : session.machine.state.mode = .running) (error : Error)
      (missing : fetch session.machine.state.memory session.machine.state.pc = .error error) :
      StepEnd session (.error error session)
  | ran (running : session.machine.state.mode = .running) (word : Int)
      (fetched : fetch session.machine.state.memory session.machine.state.pc = .ok word) (state : State)
      (ran : (session.machine.execution word).run session.machine.state = .ok () state) :
      StepEnd session
        (.ok
          (some (session.machine.entryOf (some (.ofOpcode word))
            (((Kind.ofOpcode word).warning? word session.machine.state.pc).map Fault.note)
            ((Kind.ofOpcode word).warning? word session.machine.state.pc)
            (withState (session.ready word) state).machine))
          ((withState (session.ready word) state).completed
            (session.machine.entryOf (some (.ofOpcode word))
              (((Kind.ofOpcode word).warning? word session.machine.state.pc).map Fault.note)
              ((Kind.ofOpcode word).warning? word session.machine.state.pc)
              (withState (session.ready word) state).machine)))
  | met (running : session.machine.state.mode = .running) (word : Int)
      (fetched : fetch session.machine.state.memory session.machine.state.pc = .ok word) (fault : Fault)
      (state : State)
      (met : (session.machine.execution word).run session.machine.state = .error (.fault fault) state) :
      StepEnd session
        (.ok
          (some (session.machine.entryOf (some (.ofOpcode word)) (some fault.report) (some fault)
            ((withState (session.ready word) state).reported fault).machine))
          (((withState (session.ready word) state).reported fault).completed
            (session.machine.entryOf (some (.ofOpcode word)) (some fault.report) (some fault)
              ((withState (session.ready word) state).reported fault).machine)))
  /-- The kind is not in the set, or a cell is missing. -/
  | refused (running : session.machine.state.mode = .running) (word : Int)
      (fetched : fetch session.machine.state.memory session.machine.state.pc = .ok word) (error : Error)
      (state : State)
      (refused : (session.machine.execution word).run session.machine.state = .error error state) :
      StepEnd session (.error error (withState (session.ready word) state))

/-- **A step ends in one of these ways.** -/
theorem step_end (session : Session) : StepEnd session (step.run session) := by
  cases mode : session.machine.state.mode with
  | awaitingKey register =>
      have waiting : session.machine.state.mode.isWaiting = true := by rw [mode, Mode.isWaiting]
      rw [step_run_waiting waiting]
      exact .suspended waiting
  | running =>
      cases fetched : fetch session.machine.state.memory session.machine.state.pc with
      | error error =>
          by_cases host : ∃ fault, error = .fault fault
          · obtain ⟨fault, rfl⟩ := host
            rw [step_run_lost mode fetched]
            exact .lost mode fault fetched
          · rw [step_run_missing mode (not_exists.1 host) fetched]
            exact .missing mode error fetched
      | ok word =>
          rw [step_run_fetched mode fetched]
          cases run : (session.machine.execution word).run session.machine.state with
          | ok value state => exact .ran mode word fetched state run
          | error error state =>
              cases error with
              | fault fault => exact .met mode word fetched fault state run
              | _ => exact .refused mode word fetched _ state run

/-! ## Steps on a machine of the right shape -/

section

variable {machine : Machine} (shaped : machine.state.Shaped)
  (complete : ∀ kind, kind ∈ machine.instructions.kinds) {word : Int} {state : State}
include shaped complete

lemma execution_run (word : Int) :
    (machine.execution word).run machine.state =
      match (Kind.ofOpcode word).fault? machine.state with
      | some fault => .error (.fault fault) machine.state
      | none =>
        .ok () ((Kind.ofOpcode word).effect machine.instructions.glyphBase
          (machine.byteOf (.ofOpcode word)) ⟨word⟩ machine.state).counted :=
  InstructionSet.execute_run (complete _) shaped _ _

/-- A word that was executed has met no fault, and has had its effect. -/
lemma execution_ran (ran : (machine.execution word).run machine.state = .ok () state) :
    (Kind.ofOpcode word).fault? machine.state = none ∧
      state = ((Kind.ofOpcode word).effect machine.instructions.glyphBase
        (machine.byteOf (.ofOpcode word)) ⟨word⟩ machine.state).counted := by
  rw [execution_run shaped complete] at ran
  cases met : (Kind.ofOpcode word).fault? machine.state with
  | some fault =>
      rw [met] at ran
      cases ran
  | none =>
      rw [met] at ran
      cases ran
      exact ⟨rfl, rfl⟩

/-- A fault leaves the state as it was. -/
lemma execution_met {fault : Fault}
    (met : (machine.execution word).run machine.state = .error (.fault fault) state) :
    (Kind.ofOpcode word).fault? machine.state = some fault ∧ state = machine.state := by
  rw [execution_run shaped complete] at met
  cases known : (Kind.ofOpcode word).fault? machine.state with
  | some fault =>
      rw [known] at met
      cases met
      exact ⟨rfl, rfl⟩
  | none =>
      rw [known] at met
      cases met

end

/-- The state after a step. -/
def nextState (machine : Machine) : State :=
  if machine.state.mode.isWaiting then machine.state
  else
    match fetch machine.state.memory machine.state.pc with
    | .error _ => machine.state
    | .ok word =>
      let kind := Kind.ofOpcode word
      match kind.fault? machine.state with
      | some _ => machine.state
      | none =>
        (kind.effect machine.instructions.glyphBase (machine.byteOf kind) ⟨word⟩ machine.state).counted

lemma nextState_fetched {machine : Machine} (running : machine.state.mode = .running) {word : Int}
    (fetched : fetch machine.state.memory machine.state.pc = .ok word) :
    machine.nextState =
      match (Kind.ofOpcode word).fault? machine.state with
      | some _ => machine.state
      | none =>
        ((Kind.ofOpcode word).effect machine.instructions.glyphBase
          (machine.byteOf (.ofOpcode word)) ⟨word⟩ machine.state).counted := by
  have going : ¬ machine.state.mode.isWaiting = true := by rw [running, Mode.isWaiting]; decide
  rw [nextState, if_neg going, fetched]

/-- **A step on a machine of the right shape is never refused**, and the state that it leaves is
`nextState`.  Instructions, latch, clock and settings stay as they are. -/
theorem step_returns (shaped : session.machine.state.Shaped)
    (complete : ∀ kind, kind ∈ session.machine.instructions.kinds) :
    ∃ answer left, step.run session = .ok answer left ∧
      left.machine = { session.machine with
        state := session.machine.nextState
        random := left.machine.random
        trace := left.machine.trace
        faults := left.machine.faults } := by
  cases mode : session.machine.state.mode with
  | awaitingKey register =>
      have waiting : session.machine.state.mode.isWaiting = true := by rw [mode, Mode.isWaiting]
      refine ⟨none, session, step_run_waiting waiting, ?_⟩
      rw [nextState, if_pos waiting]
  | running =>
      have going : ¬ session.machine.state.mode.isWaiting = true := by rw [mode, Mode.isWaiting]; decide
      cases fetched : fetch session.machine.state.memory session.machine.state.pc with
      | error error =>
          obtain ⟨fault, rfl⟩ := fetch_error shaped.memory_size fetched
          refine ⟨_, _, step_run_lost mode fetched, ?_⟩
          rw [nextState, if_neg going, fetched]
          simp
      | ok word =>
          have step := step_run_fetched mode fetched
          rw [nextState_fetched mode fetched]
          rw [execution_run shaped complete] at step
          cases met : (Kind.ofOpcode word).fault? session.machine.state with
          | none =>
              rw [met] at step
              exact ⟨_, _, step, by simp⟩
          | some fault =>
              rw [met] at step
              exact ⟨_, _, step, by simp⟩

/-- The fault that the entry of a word tells of: the one that its instruction meets, or else what is
wrong with the word as such. -/
def faultOf (machine : Machine) (word : Int) : Option Fault :=
  ((Kind.ofOpcode word).fault? machine.state).or
    ((Kind.ofOpcode word).warning? word machine.state.pc)

/-- Only calls and returns meet faults, and they are not without a meaning. -/
lemma warning?_of_fault? {kind : Kind} {state : State} {fault : Fault}
    (met : kind.fault? state = some fault) (word pc : Int) : kind.warning? word pc = none := by
  rcases Kind.fault?_cases met with ⟨rfl, -⟩ | ⟨rfl, -⟩ <;> rfl

/-- **A word that was fetched is executed**, on a machine of the right shape.  The machine is known in
full, the trace apart. -/
theorem step_executes (shaped : session.machine.state.Shaped)
    (complete : ∀ kind, kind ∈ session.machine.instructions.kinds)
    (running : session.machine.state.mode = .running) {word : Int}
    (fetched : fetch session.machine.state.memory session.machine.state.pc = .ok word) :
    ∃ entry left, step.run session = .ok (some entry) left ∧
      entry.decoding = some (.ofOpcode word) ∧ entry.fault = session.machine.faultOf word ∧
      left.machine = { session.machine with
        state := session.machine.nextState
        random := if Kind.ofOpcode word = .random then session.machine.random.draw.2
          else session.machine.random
        trace := left.machine.trace
        faults := (session.machine.faultOf word).elim session.machine.faults
          fun fault => session.machine.faults.record fault.kind } := by
  have step := step_run_fetched running fetched
  rw [nextState_fetched running fetched]
  rw [execution_run shaped complete] at step
  cases met : (Kind.ofOpcode word).fault? session.machine.state with
  | none =>
      rw [met] at step
      have warned : session.machine.faultOf word =
          (Kind.ofOpcode word).warning? word session.machine.state.pc := by simp [faultOf, met]
      exact ⟨_, _, step, rfl, warned.symm, by simp [warned]⟩
  | some fault =>
      rw [met] at step
      have known : session.machine.faultOf word = some fault := by simp [faultOf, met]
      exact ⟨_, _, step, rfl, known.symm, by simp [known, warning?_of_fault? met]⟩

end Machine
end Chip8
