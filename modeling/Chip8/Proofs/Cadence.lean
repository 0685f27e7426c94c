import Chip8.Proofs.Forms
import Chip8.Proofs.Frames
import Chip8.Proofs.Snapshots

/-!
# Two clocks that do not disturb each other

The timers tick sixty times a second, and instructions are executed as fast as the host likes.  The two
meet in three kinds of instruction only: those that read the delay timer and those that set a timer.  All
others do the same before a tick and after it, so a host may put its ticks where it pleases.

* `Machine.TouchesTimer` — the next step reads or sets a timer.
* **`Kind.effect_clocked`** — instructions of other kinds commute with the ticks.
* `Ahead`, **`step_ahead`** — a machine that is a tick ahead makes the same step and stays a tick ahead;
  `stepAll_ahead` — the same for any number of steps.
* **`ticks_commute_with_steps`** — tick and step in either order.

Steps are not recorded here: a snapshot in the trace shows the timers, and these do differ.
-/

namespace Chip8

/-! ## Instructions between ticks -/

/-- The kinds of instruction that read or set a timer. -/
def Kind.timerKinds : List Kind := [.readDelay, .setDelay, .setSound]

/-- Loading registers does not look at the timers. -/
lemma State.load_clocked (state : State) (address : Int) (registers : List Nat) :
    state.clocked.load address registers = (state.load address registers).clocked :=
  List.foldl_hom State.clocked fun _ _ => rfl

lemma State.shaped_clocked {state : State} (shaped : state.Shaped) : state.clocked.Shaped :=
  ⟨shaped.memory_size, shaped.registers_size, shaped.keypad_size⟩

namespace Kind

variable {glyphBase byte : Int} {ins : Instruction} {state : State} {kind : Kind}

/-- **Instructions that leave the timers alone commute with their ticks.** -/
theorem effect_clocked (free : kind ∉ timerKinds) :
    kind.effect glyphBase byte ins state.clocked = (kind.effect glyphBase byte ins state).clocked := by
  cases kind with
  | readDelay | setDelay | setSound => simp [timerKinds] at free
  | loadRegisters => exact congrArg State.past (state.load_clocked _ _)
  | _ => rfl

lemma fault?_clocked (state : State) (kind : Kind) : kind.fault? state.clocked = kind.fault? state := by
  cases kind <;> rfl

end Kind

/-! ## Steps between ticks -/

/-- The next step reads or sets a timer. -/
def Machine.TouchesTimer (machine : Machine) : Prop :=
  ∃ word, machine.state.mode = .running ∧ fetch machine.state.memory machine.state.pc = .ok word ∧
    ∃ kind ∈ Kind.timerKinds, kind.Form ⟨word⟩

/-- The machine after one tick of the timers. -/
def Machine.ticked (machine : Machine) : Machine :=
  { machine with ticks := machine.ticks + 1, state := machine.state.clocked }

/-- The machine of the second session is one tick of the timers ahead. -/
def Ahead (session twin : Session) : Prop := twin.machine = session.machine.ticked

namespace Ahead

variable {session twin : Session} (ahead : Ahead session twin)
include ahead

lemma state : twin.machine.state = session.machine.state.clocked := congrArg Machine.state ahead

lemma pc : twin.machine.state.pc = session.machine.state.pc := by
  rw [ahead]
  rfl

lemma tracing : twin.machine.tracing = session.machine.tracing := by
  rw [ahead]
  rfl

lemma withState (state : State) :
    Ahead (Machine.withState session state) (Machine.withState twin state.clocked) := by
  rw [Ahead, Machine.withState_machine, ahead]
  rfl

lemma reported (fault : Fault) : Ahead (session.reported fault) (twin.reported fault) := by
  rw [Ahead, Session.reported_machine, ahead]
  rfl

lemma ready (word : Int) : Ahead (session.ready word) (twin.ready word) := by
  rw [Ahead, Session.ready_machine, ahead, Session.ready_machine]
  rfl

/-- A step that is not recorded is completed alike. -/
lemma completed (untraced : session.machine.tracing = false) (entry : Entry) :
    Ahead (session.completed entry) (twin.completed entry) := by
  rw [Ahead, Session.completed_machine, Session.completed_machine, ahead.tracing, untraced, ahead]
  rfl

/-- So is its entry. -/
lemma stepped {left other : Session} (after : Ahead left other)
    (untraced : session.machine.tracing = false) (silent : left.machine.tracing = false)
    (decoding : Option Decoding) (error : Option String) (fault : Option Fault) :
    let entry := session.machine.entryOf decoding error fault left.machine
    let later := twin.machine.entryOf decoding error fault other.machine
    Corresponds Ahead Eq (.ok (some entry) (left.completed entry) : EStateM.Result Error _ _)
      (.ok (some later) (other.completed later)) := by
  intro entry later
  have same : entry = later := by
    simp only [entry, later, Machine.entryOf, Machine.snapshot?, ahead.tracing, after.tracing, untraced,
      silent, ahead.state]
    rfl
  rw [← same]
  exact .ok rfl (after.completed silent entry)

end Ahead

namespace Machine

variable {machine : Machine} {session twin : Session}

/-- An instruction that leaves the timers alone is carried out alike a tick later. -/
lemma execution_ticked (shaped : machine.state.Shaped)
    (listed : ∀ kind, kind ∈ machine.instructions.kinds) {word : Int}
    (free : Kind.ofOpcode word ∉ Kind.timerKinds) :
    Corresponds (fun state later => later = state.clocked) Eq
      ((machine.execution word).run machine.state)
      ((machine.ticked.execution word).run machine.ticked.state) := by
  have ticked : machine.ticked.state.Shaped := State.shaped_clocked shaped
  have met : (Kind.ofOpcode word).fault? machine.ticked.state =
      (Kind.ofOpcode word).fault? machine.state := Kind.fault?_clocked _ _
  rw [execution_run shaped listed, execution_run ticked listed, met]
  cases (Kind.ofOpcode word).fault? machine.state with
  | some fault => exact .error rfl
  | none => exact .ok rfl (congrArg State.counted (Kind.effect_clocked free))

/-- **A step that leaves the timers alone is the same a tick later**, and what it leaves is a tick ahead
as before. -/
theorem step_ahead (ahead : Ahead session twin) (shaped : session.machine.state.Shaped)
    (listed : ∀ kind, kind ∈ session.machine.instructions.kinds)
    (untraced : session.machine.tracing = false) (free : ¬ session.machine.TouchesTimer) :
    Corresponds Ahead Eq (step.run session) (step.run twin) := by
  have mode_eq : twin.machine.state.mode = session.machine.state.mode := by rw [ahead]; rfl
  have fetch_eq : fetch twin.machine.state.memory twin.machine.state.pc =
      fetch session.machine.state.memory session.machine.state.pc := by rw [ahead]; rfl
  cases mode : session.machine.state.mode with
  | awaitingKey register =>
      have waiting : session.machine.state.mode.isWaiting = true := by rw [mode, Mode.isWaiting]
      rw [step_run_waiting waiting, step_run_waiting (mode_eq ▸ waiting)]
      exact .ok rfl ahead
  | running =>
      have running := mode_eq.trans mode
      cases fetched : fetch session.machine.state.memory session.machine.state.pc with
      | error error =>
          obtain ⟨fault, rfl⟩ := fetch_error shaped.memory_size fetched
          rw [step_run_lost mode fetched, step_run_lost running (fetch_eq.trans fetched)]
          exact ahead.stepped (ahead.reported fault) untraced untraced none (some fault.report)
            (some fault)
      | ok word =>
          have silent : (session.ready word).machine.tracing = false := by
            rw [Session.ready_machine]
            exact untraced
          have executed := execution_ticked shaped listed
            (fun member => free ⟨word, mode, fetched, _, member, Kind.form_ofOpcode word⟩)
          rw [← ahead] at executed
          rw [step_run_fetched mode fetched, step_run_fetched running (fetch_eq.trans fetched)]
          generalize (session.machine.execution word).run session.machine.state = outcome,
            (twin.machine.execution word).run twin.machine.state = outcome' at executed ⊢
          cases executed with
          | @ok _ _ state _ _ later =>
              subst later
              rw [ahead.pc]
              exact ahead.stepped ((ahead.ready word).withState state) untraced silent _ _ _
          | @error error state _ later =>
              subst later
              have after := (ahead.ready word).withState state
              cases error with
              | fault fault => exact ahead.stepped (after.reported fault) untraced silent _ _ _
              | _ => exact .error after

/-- **Any number of such steps** are the same a tick later. -/
theorem stepAll_ahead (ahead : Ahead session twin) (complete : session.machine.Complete)
    (untraced : session.machine.tracing = false) {count : Nat}
    (free : ∀ taken < count,
      ¬ (session.performAll (List.replicate taken .step)).machine.TouchesTimer) :
    Corresponds Ahead Eq ((stepAll count).run session) ((stepAll count).run twin) := by
  induction count generalizing session twin with
  | zero => exact .ok rfl ahead
  | succ count ih =>
      have here := step_ahead ahead complete.shaped complete.listed untraced (free 0 (Nat.succ_pos _))
      refine here.bind fun answer other left later stepped same ahead => ?_
      subst same
      have after : session.after (Command.perform .step) = left :=
        Session.after_step.trans (Session.after_of_ok stepped)
      have moved : Move session.machine .step left.machine := after ▸ Session.move_after rfl session
      have rest := ih ahead (complete_invariant .step _ _ complete moved)
        ((tracing_of_move moved).trans untraced) fun taken less => by
          have next := free (taken + 1) (by omega)
          rwa [List.replicate_succ, Session.performAll_cons, after] at next
      exact rest.bind fun _ _ _ _ _ answers states => .ok (congrArg _ answers) states

end Machine

/-- **Timer ticks and instructions commute**, unless the instruction reads or sets a timer: whether the
machine runs, waits or is about to meet a fault, and whatever stands at the program counter, the machine
that is left is the same and so is the entry. -/
theorem ticks_commute_with_steps (session : Session) (shaped : session.machine.state.Shaped)
    (listed : ∀ kind, kind ∈ session.machine.instructions.kinds)
    (untraced : session.machine.tracing = false) (free : ¬ session.machine.TouchesTimer) :
    ∃ answer early late,
      (do
        Machine.advanceTimers
        Machine.step : Operation (Option Entry)).run session = .ok answer early ∧
      (do
        let answer ← Machine.step
        Machine.advanceTimers
        return answer : Operation (Option Entry)).run session = .ok answer late ∧
      early.machine = late.machine := by
  obtain ⟨answer, left, stepped, -⟩ := Machine.step_returns shaped listed
  have later : Corresponds Ahead Eq (Machine.step.run session) (Machine.step.run session.clocked) :=
    Machine.step_ahead rfl shaped listed untraced free
  rw [stepped] at later
  generalize ticked : Machine.step.run session.clocked = outcome at later
  cases later with
  | @ok _ _ _ early same ahead =>
      subst same
      refine ⟨answer, early, left.clocked, ticked, ?_, ahead⟩
      rw [EStateM.run_bind, stepped]
      rfl

/-- A return with an empty stack meets a fault, before the delay timer runs out and after. -/
theorem ticks_commute_with_steps_underflow :
    ∃ session : Session, session.machine.state.delayTimer = 1 ∧ ∃ answer early late,
      (do
        Machine.advanceTimers
        Machine.step : Operation (Option Entry)).run session = .ok answer early ∧
      (do
        let answer ← Machine.step
        Machine.advanceTimers
        return answer : Operation (Option Entry)).run session = .ok answer late ∧
      early.machine = late.machine ∧ late.machine.state.delayTimer = 0 ∧ late.machine.ticks = 1 ∧
      late.machine.faults.count .stackUnderflow = 1 := by
  let session : Session :=
    { machine := { Machine.ofSettings { random := .sequence (fun _ => 0) 0 } 0 .standard with
        state := {
          memory := (Memory.zeroed memorySize).writeBlock 0x200 [0x00, 0xEE], delayTimer := 1 } } }
  have free : ¬ session.machine.TouchesTimer := by
    rintro ⟨word, -, fetched, kind, member, form⟩
    have found : fetch session.machine.state.memory session.machine.state.pc = .ok 0x00EE := by
      decide +kernel
    obtain rfl : 0x00EE = word := Except.ok.inj (found.symm.trans fetched)
    have unmatched : ∀ kind ∈ Kind.timerKinds, ¬ kind.Form ⟨0x00EE⟩ := by decide +kernel
    exact unmatched kind member form
  obtain ⟨answer, early, late, before, after, same⟩ := ticks_commute_with_steps session
    ⟨by simp [session, Memory.zeroed], rfl, rfl⟩ Kind.mem_all rfl free
  obtain rfl := Session.after_of_ok after
  refine ⟨session, rfl, answer, early, _, before, after, same, ?_⟩
  unfold session
  decide +kernel

end Chip8
