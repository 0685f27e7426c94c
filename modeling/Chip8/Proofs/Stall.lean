import Chip8.Proofs.Run

/-!
# Stalled machines

A fault other than an unknown word leaves the program counter where it is, so the next step meets it
again.  Timers and keys go on, but neither can reach what the fault depends on: the keypad is written to
a register only if the machine is suspended, and a stalled machine is not.

* `Machine.stall?` — the fault that a step would meet without executing anything.
* `step_stalled`, `stall_of_fault` — it is what the entry of the step says.
* `Machine.Frozen` — what can still change; `frozen_invariant` — nothing else does, and a program counter
  outside memory survives loads as well.
* **`faulted_frozen`** — the whole story of a machine after such a fault, up to the next reset.
-/

namespace Chip8

/-- The fault that keeps a machine from executing the instruction at its program counter. -/
def Machine.stall? (machine : Machine) : Option Fault :=
  if machine.state.mode.isWaiting then none
  else
    match fetch machine.state.memory machine.state.pc with
    | .error (.fault fault) => some fault
    | .error _ => none
    | .ok word =>
      if Kind.ofOpcode word ∈ machine.instructions.kinds then
        (Kind.ofOpcode word).fault? machine.state
      else none

/-! ## Stalls and steps -/

section

variable {machine : Machine} {fault : Fault}

lemma running_of_stall (stalled : machine.stall? = some fault) : machine.state.mode = .running := by
  cases mode : machine.state.mode with
  | running => rfl
  | awaitingKey register =>
      rw [Machine.stall?, mode, Mode.isWaiting, if_pos rfl] at stalled
      cases stalled

/-- A stall has two causes: there is no word, or its instruction meets a fault. -/
lemma stall_cases (stalled : machine.stall? = some fault) :
    fetch machine.state.memory machine.state.pc = .error (.fault fault) ∨
      ∃ word, fetch machine.state.memory machine.state.pc = .ok word ∧
        Kind.ofOpcode word ∈ machine.instructions.kinds ∧
        (Kind.ofOpcode word).fault? machine.state = some fault := by
  have running := running_of_stall stalled
  rw [Machine.stall?, running, Mode.isWaiting, if_neg Bool.false_ne_true] at stalled
  cases fetched : fetch machine.state.memory machine.state.pc with
  | error error =>
      rw [fetched] at stalled
      cases error with
      | fault cause =>
          cases stalled
          exact .inl rfl
      | _ => cases stalled
  | ok word =>
      rw [fetched] at stalled
      dsimp only at stalled
      split_ifs at stalled with listed
      exact .inr ⟨word, rfl, listed, stalled⟩

end

section

variable {session left : Session} {entry : Entry} {fault : Fault}

/-- **A stalled machine reports its fault and keeps its state.** -/
theorem step_stalled (shaped : session.machine.state.Shaped)
    (stalled : session.machine.stall? = some fault) :
    ∃ entry left, Machine.step.run session = .ok (some entry) left ∧ entry.fault = some fault ∧
      entry.pc = session.machine.state.pc ∧ left.machine.state = session.machine.state ∧
        left.machine.instructions = session.machine.instructions := by
  have running := running_of_stall stalled
  rcases stall_cases stalled with lost | ⟨word, fetched, listed, met⟩
  · have step := Machine.step_run_lost running lost
    refine ⟨_, _, step, rfl, rfl, ?_⟩
    rw [Session.completed_machine]
    exact ⟨rfl, rfl⟩
  · have step := Machine.step_run_fetched running fetched
    rw [Machine.execution, InstructionSet.execute_run listed shaped, met] at step
    refine ⟨_, _, step, rfl, rfl, ?_⟩
    rw [Session.completed_machine, Session.reported_machine, Machine.withState_machine,
      Session.ready_machine]
    exact ⟨rfl, rfl⟩

/-- A fault in an entry, unless it is about the word as such, is one that stalls. -/
theorem stall_of_fault (shaped : session.machine.state.Shaped)
    (stepped : Machine.step.run session = .ok (some entry) left) (faulted : entry.fault = some fault)
    (known : fault.kind ≠ .unknownOpcode) : session.machine.stall? = some fault := by
  have ended := Machine.step_end session
  rw [stepped] at ended
  cases ended with
  | lost running cause lost =>
      rw [Machine.stall?, running, Mode.isWaiting, if_neg Bool.false_ne_true, lost]
      exact faulted
  | ran running word fetched state run =>
      -- only a warning is left, and that is about the word
      rw [Machine.entryOf, Kind.warning?] at faulted
      split_ifs at faulted
      cases faulted
      exact absurd rfl known
  | met running word fetched cause state run =>
      rw [Machine.stall?, running, Mode.isWaiting, if_neg Bool.false_ne_true, fetched]
      dsimp only
      rw [Machine.execution] at run
      by_cases listed : Kind.ofOpcode word ∈ session.machine.instructions.kinds
      · rw [InstructionSet.execute_run listed shaped] at run
        rw [if_pos listed]
        cases met : (Kind.ofOpcode word).fault? session.machine.state with
        | some cause =>
            rw [met] at run
            cases run
            exact faulted
        | none =>
            rw [met] at run
            cases run
      · rw [InstructionSet.execute_run_unlisted listed] at run
        cases run

end

/-! ## What can still change -/

/-- The timers and the keypad may have changed, and memory if there were loads. -/
def Machine.Frozen (loads : Bool) (machine after : Machine) : Prop :=
  after.instructions = machine.instructions ∧
    ∃ (memory : Memory) (delayTimer soundTimer : Int) (keypad : Array Bool),
      memory.size = machine.state.memory.size ∧ (loads = false → memory = machine.state.memory) ∧
        keypad.size = machine.state.keypad.size ∧
        after.state = { machine.state with memory, delayTimer, soundTimer, keypad }

/-- No load can help a program counter that is outside memory. -/
lemma fetch_lost {memory : Memory} {pc : Int} {fault : Fault}
    (lost : fetch memory pc = .error (.fault fault)) (other : Memory) :
    fetch other pc = .error (.fault fault) := by
  rw [fetch] at lost ⊢
  split_ifs at lost ⊢ with outside
  · exact lost
  · split at lost <;> cases lost

lemma fault?_kind {state : State} {kind : Kind} {fault : Fault}
    (met : kind.fault? state = some fault) : fault.kind ≠ .badPc := by
  rcases Kind.fault?_cases met with ⟨-, rfl⟩ | ⟨-, rfl⟩ <;> exact nofun

namespace Machine.Frozen

variable {loads : Bool} {machine after : Machine} {fault : Fault}

lemma refl : Frozen loads machine machine :=
  ⟨rfl, machine.state.memory, machine.state.delayTimer, machine.state.soundTimer,
    machine.state.keypad, rfl, fun _ => rfl, rfl, rfl⟩

lemma shaped (frozen : Frozen loads machine after) (shaped : machine.state.Shaped) :
    after.state.Shaped := by
  obtain ⟨-, memory, _, _, keypad, size, -, same, state⟩ := frozen
  rw [state]
  exact ⟨size.trans shaped.memory_size, shaped.registers_size, same.trans shaped.keypad_size⟩

/-- What the fault depends on is frozen. -/
lemma stall (frozen : Frozen loads machine after) (stalled : machine.stall? = some fault)
    (harmless : loads = true → fault.kind = .badPc) : after.stall? = some fault := by
  have running := running_of_stall stalled
  obtain ⟨instructions, memory, _, _, keypad, -, kept, -, state⟩ := frozen
  rw [stall?, state]
  dsimp only
  rw [running, Mode.isWaiting, if_neg Bool.false_ne_true]
  rcases stall_cases stalled with lost | ⟨word, fetched, listed, met⟩
  · rw [fetch_lost lost memory]
  · have quiet : loads = false := by
      cases loads with
      | false => rfl
      | true => exact absurd (harmless rfl) (fault?_kind met)
    rw [kept quiet, fetched]
    dsimp only
    rw [instructions, if_pos listed, ← met]
    cases Kind.ofOpcode word <;> rfl

end Machine.Frozen

/-- **A stalled machine stays as it is.**  Only a reset, and a load unless the program counter is
outside memory, can change anything but timers and keys. -/
theorem frozen_invariant {loads : Bool} {machine : Machine} {fault : Fault}
    (shaped : machine.state.Shaped) (stalled : machine.stall? = some fault)
    (harmless : loads = true → fault.kind = .badPc) {command : Command} (kept : command ≠ .reset)
    (loaded : command.isLoad = true → loads = true) :
    Invariant (Machine.Frozen loads machine) command := by
  intro before after frozen move
  have still := frozen.stall stalled harmless
  have fits := frozen.shaped shaped
  obtain ⟨instructions, memory, delayTimer, soundTimer, keypad, size, quiet, same, state⟩ := frozen
  cases move with
  | stored load font written other =>
      refine ⟨instructions, written, delayTimer, soundTimer, keypad, ?_, fun unloaded => ?_, same, ?_⟩
      · rw [other, state]
        exact size
      · rw [loaded load] at unloaded
        cases unloaded
      · dsimp only
        rw [state]
  | cleared => exact absurd rfl kept
  | clocked =>
      refine ⟨instructions, memory, before.state.clocked.delayTimer,
        before.state.clocked.soundTimer, keypad, size, quiet, same, ?_⟩
      dsimp only [State.clocked]
      rw [state]
  | held =>
      exact ⟨instructions, memory, delayTimer, soundTimer, keypad, size, quiet, same, state⟩
  | sensed _ _ held other =>
      refine ⟨instructions, memory, delayTimer, soundTimer, held, size, quiet, ?_, ?_⟩
      · rw [other, state]
        exact same
      · dsimp only
        rw [state]
  | resolved _ _ _ _ _ _ waiting =>
      rw [running_of_stall still] at waiting
      cases waiting
  | idled =>
      exact ⟨instructions, memory, delayTimer, soundTimer, keypad, size, quiet, same, state⟩
  | executed _ _ _ word running fetched =>
      refine ⟨instructions, memory, delayTimer, soundTimer, keypad, size, quiet, same, ?_⟩
      rw [← state]
      rcases stall_cases still with lost | ⟨found, again, listed, met⟩
      · rw [fetched] at lost
        cases lost
      · rw [fetched] at again
        cases again
        exact leaves_of_error (by rw [Machine.execution, InstructionSet.execute_run listed fits, met])

/-! ## After a fault -/

/-- A step reports a fault at an address. -/
def Reports (session : Session) (fault : Fault) (pc : Int) : Prop :=
  ∃ entry left, Machine.step.run session = .ok (some entry) left ∧ entry.fault = some fault ∧
    entry.pc = pc

/-- After a reset there is a word at the program counter again. -/
lemma fetch_fresh (font : Font) :
    ∃ word, fetch (State.fresh font).memory (State.fresh font).pc = .ok word := by
  have size : (State.fresh font).memory.size = memorySize :=
    (Memory.size_writeBlock _ _ _).trans Array.size_replicate
  have high : programStart < (State.fresh font).memory.size := by
    rw [size]
    decide
  have low : programStart + 1 < (State.fresh font).memory.size := by
    rw [size]
    decide
  change ∃ word, fetch (State.fresh font).memory programStart = .ok word
  rw [fetch, if_neg (by decide), Int.toNat_natCast, Array.getElem?_eq_getElem high,
    Array.getElem?_eq_getElem low]
  exact ⟨_, rfl⟩

/-- All through a run without a reset the machine is frozen and reports its fault. -/
lemma stall_lasts {loads : Bool} {session : Session} {fault : Fault}
    (shaped : session.machine.state.Shaped) (stalled : session.machine.stall? = some fault)
    (harmless : loads = true → fault.kind = .badPc) {commands passed : List Command}
    (kept : .reset ∉ commands) (loaded : ∀ command ∈ commands, command.isLoad = true → loads = true)
    (moment : passed <+: session.unrolled commands) :
    Machine.Frozen loads session.machine (session.performAll passed).machine ∧
      Reports (session.performAll passed) fault session.machine.state.pc := by
  have frozen : Machine.Frozen loads session.machine (session.performAll passed).machine := by
    refine unrolled_invariant (fun command among stage inside => ?_) .refl moment
    refine frozen_invariant shaped stalled harmless ?_ fun load => ?_
    · rintro rfl
      rw [Command.eq_reset_of_mem inside] at among
      exact kept among
    · exact loaded command among (Command.isLoad_of_mem inside load)
  obtain ⟨entry, left, stepped, faulted, here, -⟩ :=
    step_stalled (frozen.shaped shaped) (frozen.stall stalled harmless)
  refine ⟨frozen, entry, left, stepped, faulted, ?_⟩
  obtain ⟨-, memory, _, _, keypad, -, -, -, state⟩ := frozen
  rw [here, state]

/-- **A machine that met a fault is frozen**, unless the fault was about the word as such.  The step
itself changes nothing.  At every moment of every later run without resets and loads only timers and
keys can differ, and a step reports the same fault at the same place.  A program counter outside memory
is not even helped by loads, and then a reset is the only way out. -/
theorem faulted_frozen {session after : Session} {entry : Entry} {fault : Fault}
    (shaped : session.machine.state.Shaped)
    (stepped : Machine.step.run session = .ok (some entry) after) (faulted : entry.fault = some fault)
    (stalling : fault.kind = .badPc ∨ fault.kind = .stackOverflow ∨ fault.kind = .stackUnderflow) :
    after.machine.state = session.machine.state ∧
      (∀ commands : List Command,
        (∀ command ∈ commands, command ≠ .reset ∧ command.isLoad = false) →
        ∀ passed, passed <+: after.unrolled commands →
          let here := (after.performAll passed).machine.state
          here = { session.machine.state with
            delayTimer := here.delayTimer
            soundTimer := here.soundTimer
            keypad := here.keypad } ∧
          Reports (after.performAll passed) fault session.machine.state.pc) ∧
      (fault.kind = .badPc → ∀ commands : List Command, .reset ∉ commands →
        ∀ passed, passed <+: after.unrolled commands →
          let here := (after.performAll passed).machine.state
          here = { session.machine.state with
            memory := here.memory
            delayTimer := here.delayTimer
            soundTimer := here.soundTimer
            keypad := here.keypad } ∧
          Reports (after.performAll passed) fault session.machine.state.pc ∧
          let revived := ((after.performAll passed).after Machine.reset).machine.state
          revived.mode = .running ∧ ∃ word, fetch revived.memory revived.pc = .ok word) := by
  have known : fault.kind ≠ .unknownOpcode := by
    rcases stalling with kind | kind | kind <;> rw [kind] <;> exact nofun
  have stalled := stall_of_fault shaped stepped faulted known
  obtain ⟨_, _, again, -, -, state, instructions⟩ := step_stalled shaped stalled
  rw [stepped] at again
  cases again
  have still : after.machine.stall? = some fault := by
    rw [← stalled, Machine.stall?, Machine.stall?, state, instructions]
  rw [← state] at shaped
  refine ⟨state, fun commands quiet passed moment => ?_, fun lost commands kept passed moment => ?_⟩
  · have harmless : false = true → fault.kind = .badPc := nofun
    have loaded : ∀ command ∈ commands, command.isLoad = true → false = true := by
      intro command among load
      rw [(quiet command among).2] at load
      exact load
    obtain ⟨frozen, reports⟩ := stall_lasts shaped still harmless
      (fun among => (quiet _ among).1 rfl) loaded moment
    obtain ⟨-, memory, _, _, keypad, -, same, -, here⟩ := frozen
    rw [state] at reports here same
    refine ⟨?_, reports⟩
    rw [here, same rfl]
  · obtain ⟨frozen, reports⟩ := stall_lasts shaped still (fun _ => lost) kept (fun _ _ _ => rfl) moment
    obtain ⟨-, memory, _, _, keypad, -, -, -, here⟩ := frozen
    rw [state] at reports here
    refine ⟨?_, reports, rfl, fetch_fresh _⟩
    rw [here]

/-- One byte before the end of memory there is no word, and the machine stays there for good. -/
theorem faulted_frozen_lost :
    ∃ (session after : Session) (entry : Entry), session.machine.state.pc = 4095 ∧
      Machine.step.run session = .ok (some entry) after ∧ entry.fault = some (.badPc 4095) ∧
      ∀ commands : List Command, .reset ∉ commands →
        (after.performAll commands).machine.state.pc = 4095 := by
  let machine : Machine :=
    { Machine.ofSettings { random := .sequence (fun _ => 0) 0 } 0 .standard with state := { pc := 4095 } }
  have shaped : machine.state.Shaped := ⟨Array.size_replicate, rfl, rfl⟩
  have lost : fetch machine.state.memory machine.state.pc = .error (.fault (.badPc 4095)) := rfl
  let session : Session := { machine }
  have running : session.machine.state.mode = .running := rfl
  have stepped := Machine.step_run_lost running lost
  refine ⟨session, _, _, rfl, stepped, rfl, fun commands kept => ?_⟩
  have frozen := (faulted_frozen shaped stepped rfl (.inl rfl)).2.2 rfl commands kept _
    (List.prefix_refl _)
  rw [Session.performAll_unrolled] at frozen
  rw [frozen.1]

end Chip8
