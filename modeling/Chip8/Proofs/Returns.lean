import Chip8.Proofs.Bounds
import Chip8.Proofs.Footprint
import Chip8.Proofs.Sync

/-!
# Emulation is never refused

A program cannot bring its host down: whatever word stands at the program counter, and whatever keys
the host reports, ticks, frames and runs return.  What a program does wrong is a fault, and faults are
entries of the trace; the refusals that remain are for hosts that name a key or a size that does not
exist.

* `HostReport.Accepted` — reports about keys that exist.
* `Machine.Complete` — nothing is missing; `complete_invariant` — every operation keeps it so.
* `syncKeys_run_of_complete` — the outcome of a synchronisation.
* `syncKeys_returns`, `stage_returns` — the stages that could be refused are not.
* **`emulation_returns`** — ticks, frames and runs of every reachable state return, with any memory.
-/

namespace Chip8

/-! ## Reports of the host -/

/-- A report names all keys, or only keys that exist. -/
def HostReport.Accepted : HostReport → Prop
  | .states pressed => pressed.length = keyCount
  | .changes entries => ∀ entry ∈ entries, 0 ≤ entry.1 ∧ entry.1 < keyCount

lemma Latch.validChanges_accepted {entries : List (Int × Bool)}
    (accepted : ∀ entry ∈ entries, 0 ≤ entry.1 ∧ entry.1 < keyCount) :
    ∃ changes, validChanges entries = .ok changes := by
  induction entries with
  | nil => exact ⟨[], rfl⟩
  | cons entry rest ih =>
      obtain ⟨key, pressed⟩ := entry
      obtain ⟨changes, valid⟩ := ih fun other later => accepted other (List.mem_cons_of_mem _ later)
      have named : Key.ofInt key = .ok ⟨key.toNat, _⟩ := dif_pos (accepted _ List.mem_cons_self)
      rw [validChanges, named, valid]
      exact ⟨_, rfl⟩

lemma Latch.report_accepted (latch : Latch) {report : HostReport} (accepted : report.Accepted) :
    ∃ after, latch.report report = .ok after := by
  cases report with
  | states pressed => exact ⟨_, dif_pos accepted⟩
  | changes entries =>
      obtain ⟨changes, valid⟩ := validChanges_accepted accepted
      rw [Latch.report, valid]
      exact ⟨_, rfl⟩

lemma Latch.take_accepted (latch : Latch) {keys : Option HostReport}
    (accepted : ∀ report ∈ keys, report.Accepted) : ∃ after, latch.take keys = .ok after := by
  cases keys with
  | none => exact ⟨latch, rfl⟩
  | some report => exact latch.report_accepted (accepted report rfl)

/-! ## Machines that lack nothing -/

/-- Nothing that an operation looks for is missing: memory, registers and keypad have their sizes, the
instruction set has all kinds, and a suspended machine waits with a register that exists.  The values
may be any. -/
structure Machine.Complete (machine : Machine) : Prop where
  shaped : machine.state.Shaped
  listed : ∀ kind, kind ∈ machine.instructions.kinds
  named : ∀ register, machine.state.mode = .awaitingKey register →
    0 ≤ register ∧ register < registerCount

lemma Machine.Sound.complete {machine : Machine} (sound : machine.Sound) : machine.Complete where
  shaped := sound.state.shaped
  listed := sound.listed
  named := by
    intro register waiting
    have := (sound.state.waiting_bounds register waiting).1
    change 0 ≤ register ∧ register < 16
    omega

/-- The register that a word waits with exists. -/
lemma Kind.effect_named {state : State} (running : state.mode = .running) (glyphBase byte : Int)
    (ins : Instruction) (kind : Kind) {register : Int}
    (waiting : (kind.effect glyphBase byte ins state).mode = .awaitingKey register) :
    0 ≤ register ∧ register < registerCount := by
  by_cases awaits : kind = .awaitKey
  · subst awaits
    cases waiting
    have := ins.x_lt
    exact ⟨Int.natCast_nonneg _, Int.ofNat_lt.2 this⟩
  · have other : kind ∉ State.Part.mode.changers := fun member => awaits (List.mem_singleton.1 member)
    have kept : (kind.effect glyphBase byte ins state).mode = state.mode := Kind.effect_keeps other
    rw [kept, running] at waiting
    cases waiting

/-- Every operation keeps a machine complete. -/
lemma complete_invariant (command : Command) : Invariant Machine.Complete command := by
  rintro before after ⟨shaped, listed, named⟩ move
  cases move with
  | stored _ _ _ size =>
      exact ⟨⟨size.trans shaped.memory_size, shaped.registers_size, shaped.keypad_size⟩, listed, named⟩
  | cleared => exact ⟨(State.Sound.fresh before.font).shaped, listed, nofun⟩
  | clocked => exact ⟨⟨shaped.memory_size, shaped.registers_size, shaped.keypad_size⟩, listed, named⟩
  | held => exact ⟨shaped, listed, named⟩
  | sensed _ _ _ size =>
      exact ⟨⟨shaped.memory_size, shaped.registers_size, size.trans shaped.keypad_size⟩, listed, named⟩
  | resolved _ _ _ size =>
      refine ⟨⟨shaped.memory_size, ?_, size.trans shaped.keypad_size⟩, listed, nofun⟩
      exact Array.size_setIfInBounds.trans shaped.registers_size
  | idled => exact ⟨shaped, listed, named⟩
  | executed _ _ _ word running =>
      rw [leaves, Machine.execution_run shaped listed]
      cases (Kind.ofOpcode word).fault? before.state with
      | some fault => exact ⟨shaped, listed, named⟩
      | none =>
          have fits := Kind.effect_shaped shaped before.instructions.glyphBase
            (before.byteOf (.ofOpcode word)) ⟨word⟩ (.ofOpcode word)
          exact ⟨State.shaped_counted.2 fits, listed,
            fun _ waiting => Kind.effect_named running _ _ _ _ waiting⟩

/-! ## Keys -/

section

variable {session : Session}

lemma syncKeys_run_of_complete (complete : session.machine.Complete) {keys : Option HostReport}
    {latch : Latch} (taken : session.machine.latch.take keys = .ok latch) :
    (Machine.syncKeys keys).run session =
      .ok ((session.machine.state.resolution? latch).map (·.1)) (session.synced keys latch) := by
  refine Machine.syncKeys_run taken complete.shaped.keypad_size fun register waiting => ?_
  have named := complete.named register waiting
  rw [complete.shaped.registers_size]
  exact ⟨named, by omega⟩

lemma syncKeys_returns (complete : session.machine.Complete) {keys : Option HostReport}
    (accepted : ∀ report ∈ keys, report.Accepted) : Returns (Machine.syncKeys keys) session := by
  obtain ⟨latch, taken⟩ := session.machine.latch.take_accepted accepted
  exact ⟨_, _, syncKeys_run_of_complete complete taken⟩

/-! ## Stages -/

/-- A reply changes nothing about an operation being refused. -/
lemma returns_reply {α : Type} (operation : Operation α) (reply : α → Reply) :
    Returns (operation >>= fun answer => return reply answer) session ↔ Returns operation session := by
  constructor
  · rintro ⟨_, left, run⟩
    obtain ⟨answer, ran, -⟩ := run_of_map run
    exact ⟨answer, left, ran⟩
  · rintro ⟨answer, left, ran⟩
    rw [Returns, EStateM.run_bind, ran]
    exact ⟨reply answer, left, rfl⟩

lemma step_returns_of_complete (complete : session.machine.Complete) : Returns Machine.step session := by
  obtain ⟨entry, left, stepped, -⟩ := Machine.step_returns complete.shaped complete.listed
  exact ⟨entry, left, stepped⟩

lemma stage_returns (complete : session.machine.Complete) {keys : Option HostReport}
    (accepted : ∀ report ∈ keys, report.Accepted) {stage : Command}
    (clockwork : stage = .advanceTimers ∨ stage = .step ∨ stage = .syncKeys keys) :
    Returns stage.perform session := by
  rcases clockwork with rfl | rfl | rfl
  · exact ⟨_, _, rfl⟩
  · exact (returns_reply _ _).2 (step_returns_of_complete complete)
  · exact (returns_reply _ _).2 (syncKeys_returns complete accepted)

/-- An operation made of timers, keys and steps returns. -/
lemma clockwork_returns (complete : session.machine.Complete) {command : Command}
    (accepted : ∀ report ∈ command.report, report.Accepted)
    (composed : command.isElementary = false) : Returns command.perform session := by
  refine perform_returns (fun stage _ => complete_invariant stage)
    (fun stage member next complete => ?_) complete
  rcases Command.mem_stages member with rfl | clockwork
  · have := Command.isElementary_of_mem member
    rw [composed] at this
    cases this
  · exact stage_returns complete accepted clockwork

/-- No report, no refusal. -/
lemma unreported_returns (complete : session.machine.Complete) {command : Command}
    (unreported : command.report = none) (composed : command.isElementary = false) :
    Returns command.perform session := by
  refine clockwork_returns complete (fun report reported => ?_) composed
  rw [unreported] at reported
  cases reported

/-- The only thing that can happen to an instruction is a fault, and it leaves no trace in the state. -/
lemma execute_error (sound : session.machine.Sound) {byte : Int} {kind : Kind} {ins : Instruction}
    {error : Error} {left : State}
    (run : (session.machine.instructions.execute byte kind ins).run session.machine.state =
      .error error left) : (∃ fault, error = .fault fault) ∧ left = session.machine.state := by
  rw [InstructionSet.execute_run (sound.listed kind) sound.state.shaped] at run
  cases met : kind.fault? session.machine.state with
  | some fault =>
      rw [met] at run
      cases run
      exact ⟨⟨fault, rfl⟩, rfl⟩
  | none =>
      rw [met] at run
      cases run

end

/-- **Ticks, frames and runs return**, whatever the machine has been through and whatever stands in its
memory by now: no fetch misses a cell, no word is beyond decoding, no instruction is missing from the
set or misses a register, and no fault gets past the step. -/
theorem emulation_returns {settings : Settings} {machine : Machine}
    (created : Machine.create settings = .ok machine) (commands : List Command) {memory : Memory}
    (full : memory.size = memorySize) :
    let reached := Session.performAll { machine } commands
    let session := Machine.withState reached { reached.machine.state with memory }
    Returns Machine.step session ∧
      (∀ keys : Option HostReport, (∀ report ∈ keys, report.Accepted) →
        Returns (Machine.syncKeys keys) session ∧ Returns (Machine.tick keys) session ∧
          (∀ steps, Returns (Machine.frame keys steps) session) ∧
          ∀ frames steps, Returns (Machine.run frames steps keys) session) ∧
      (∀ error, fetch memory session.machine.state.pc = .error error →
        ∃ fault, error = .fault fault) ∧
      (∀ word, fetch memory session.machine.state.pc = .ok word →
        decode word = .ok (.ofOpcode word)) ∧
      ∀ byte kind ins error left,
        (session.machine.instructions.execute byte kind ins).run session.machine.state =
          .error error left → (∃ fault, error = .fault fault) ∧ left = session.machine.state := by
  intro reached session
  have initial : ({ machine } : Session).machine.Sound := Machine.create_sound created
  have before : reached.machine.Sound :=
    performAll_invariant (fun _ _ stage _ => sound_invariant stage) initial
  have sound : session.machine.Sound :=
    ⟨before.standard, before.state.remember (full.trans before.state.memory_size.symm)⟩
  have complete := sound.complete
  refine ⟨step_returns_of_complete complete,
    fun keys accepted => ⟨syncKeys_returns complete accepted, ?_, ?_, ?_⟩,
    fun error lost => Machine.fetch_error full lost, fun word fetched => Machine.decode_of_fetch fetched,
    fun byte kind ins error left run => execute_error sound run⟩
  · have ticks : Returns (Command.tick keys).perform session := clockwork_returns complete accepted rfl
    exact (returns_reply _ _).1 ticks
  · intro steps
    have returns : Returns (Command.frame keys steps).perform session :=
      clockwork_returns complete accepted rfl
    exact (returns_reply _ _).1 returns
  · intro frames steps
    have returns : Returns (Command.run frames steps keys).perform session :=
      clockwork_returns complete accepted rfl
    exact (returns_reply _ _).1 returns

/-- A machine that waits for a key, over memory that holds no instruction any more. -/
theorem emulation_returns_suspended :
    ∃ machine, Machine.create { random := .sequence (fun draw => draw) 0 } = .ok machine ∧
      let reached := Session.performAll { machine } [.load [0xF50A], .step]
      Returns (Machine.run 2 3 (some (.changes [(0xC, true)]))) (Machine.withState reached
        { reached.machine.state with memory := Array.replicate memorySize 0xFF }) := by
  have created : Machine.create { random := .sequence (fun draw => draw) 0 } = .ok _ := rfl
  have full : (Array.replicate memorySize (0xFF : UInt8)).size = memorySize := Array.size_replicate
  have accepted : ∀ report ∈ some (HostReport.changes [(0xC, true)]), report.Accepted := by
    rintro report ⟨⟩ entry member
    rw [List.mem_singleton.1 member]
    decide
  have returns := (emulation_returns created [.load [0xF50A], .step] full).2.1 _ accepted
  exact ⟨_, created, returns.2.2.2 2 3⟩

end Chip8
