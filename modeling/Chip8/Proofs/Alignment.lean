import Chip8.Proofs.Accounting
import Chip8.Proofs.ProgramCounter

/-!
# What keeps a machine in step with its words

A word takes two bytes, and programs start at an even address.  From there nearly everything moves the
program counter by whole words: the next instruction, a skip, the end of a wait, and a return to behind
the call.  Only a jump goes to an address of its own, which may be odd.  So a machine that has got out of
step with its words has jumped to an odd address, whatever else has happened to it.

* `Instruction.target?`, `Entry.target?` — where a word, or a step, jumps to.
* `Session.targets` — where the steps since the last reset have jumped to.
* `State.Aligned` — the program counter is even, and so are the return addresses.
* `State.pcAfter_even`, `Kind.effect_aligned` — an instruction keeps a state aligned unless it jumps to an
  odd address; **`step_aligned`**, `aligned_of_move` — so do steps, and all other operations.
* **`even_jumps_keep_alignment`** — so do whole runs, at every moment since the last reset.
-/

namespace Chip8

/-! ## Jumps -/

/-- Where a word jumps to, by its digits: jumps and calls name the address, and a jump with an offset adds
`V0` to it. -/
def Instruction.target? (state : State) (ins : Instruction) : Option Int :=
  match ins.family with
  | 0x1 | 0x2 => some ins.nnn
  | 0xB => some (ins.nnn + state.reg 0)
  | _ => none

/-- Where a step has jumped to, by its entry and the state in which it began.  A step that met a fault has
not jumped. -/
def Entry.target? (before : State) (entry : Entry) : Option Int :=
  if entry.fault = none then entry.decoding.bind (·.instruction.target? before) else none

/-- Words without a meaning do not jump. -/
lemma Instruction.target?_of_invalid {ins : Instruction} (form : Kind.invalid.Form ins) (state : State) :
    ins.target? state = none := by
  simp only [Kind.Form] at form
  rcases form with ⟨family, -⟩ | ⟨family | family, -⟩ | ⟨family, -⟩ | ⟨family, -⟩ | ⟨family, -⟩ <;>
    simp [target?, family]

/-- A step that met nothing worse than a word without a meaning jumps where its word does. -/
lemma Entry.target?_of_warning {entry : Entry} {word pc : Int}
    (decoded : entry.decoding = some (.ofOpcode word))
    (warned : entry.fault = (Kind.ofOpcode word).warning? word pc) (state : State) :
    entry.target? state = (⟨word⟩ : Instruction).target? state := by
  by_cases meaningless : Kind.ofOpcode word = .invalid
  · rw [Instruction.target?_of_invalid (Kind.ofOpcode_eq_iff.1 meaningless)]
    simp [target?, warned, Kind.warning?, meaningless]
  · simp [target?, decoded, warned, Kind.warning?, meaningless, Decoding.ofOpcode]

/-! ## Even addresses -/

/-- The program counter and all return addresses are even. -/
structure State.Aligned (state : State) : Prop where
  pc : 2 ∣ state.pc
  stack : ∀ address ∈ state.stack, 2 ∣ address

section

variable {state : State} {ins : Instruction}

lemma State.Aligned.pcPast (aligned : state.Aligned) (skip : Prop) [Decidable skip] :
    2 ∣ state.pcPast skip := by
  have := aligned.pc
  unfold State.pcPast
  split <;> omega

/-- A word leads to an even address unless it jumps to an odd one. -/
lemma State.pcAfter_even (aligned : state.Aligned) (even : ∀ target ∈ ins.target? state, 2 ∣ target) :
    2 ∣ state.pcAfter ins := by
  have here := aligned.pc
  unfold State.pcAfter
  split
  case h_1 =>
      -- a return goes behind the call, and every other word of this family goes on
      split
      · split
        · exact here
        · next address rest top =>
          have := aligned.stack address (by simp [top])
          omega
      · omega
  case h_2 family => exact even _ (by simp [Instruction.target?, family])
  case h_3 family =>
      split
      · exact even _ (by simp [Instruction.target?, family])
      · exact here
  case h_8 family => exact even _ (by simp [Instruction.target?, family])
  case h_10 => split <;> omega
  case h_11 => omega
  all_goals exact aligned.pcPast _

/-- **An instruction keeps a state aligned** unless it jumps to an odd address. -/
lemma Kind.effect_aligned {kind : Kind} (form : kind.Form ins) (met : kind.fault? state = none)
    (aligned : state.Aligned) (even : ∀ target ∈ ins.target? state, 2 ∣ target) (byte : Int) :
    (kind.effect fontStart byte ins state).Aligned where
  pc := by
    rw [effect_pc form met]
    exact State.pcAfter_even aligned even
  stack := by
    intro address member
    rcases mem_effect_stack byte ins kind member with before | rfl
    · exact aligned.stack address before
    · have := aligned.pc
      change 2 ∣ state.pc % 4096
      omega

end

/-! ## Steps and other operations -/

/-- **A step keeps a machine aligned** unless it jumps to an odd address. -/
theorem step_aligned {session left : Session} {entry : Entry} (sound : session.machine.Sound)
    (aligned : session.machine.state.Aligned)
    (stepped : Machine.step.run session = .ok (some entry) left)
    (even : ∀ target ∈ entry.target? session.machine.state, 2 ∣ target) :
    left.machine.state.Aligned := by
  have ended := Machine.step_end session
  rw [stepped] at ended
  cases ended with
  | lost running fault lost =>
      rw [Session.completed_machine]
      exact aligned
  | ran running word fetched state run =>
      obtain ⟨met, rfl⟩ := Machine.execution_ran sound.state.shaped sound.listed run
      rw [Entry.target?_of_warning rfl rfl] at even
      rw [Session.completed_machine, sound.standard]
      have kept := Kind.effect_aligned (Kind.form_ofOpcode word) met aligned even
        (session.machine.byteOf (.ofOpcode word))
      exact ⟨kept.pc, kept.stack⟩
  | met running word fetched fault state run =>
      obtain ⟨-, rfl⟩ := Machine.execution_met sound.state.shaped sound.listed run
      rw [Session.completed_machine]
      exact aligned

lemma State.fresh_aligned (font : Font) : (State.fresh font).Aligned where
  pc := by
    change (2 : Int) ∣ 0x200
    decide
  stack := by
    intro address member
    cases member

/-- Everything else that a host does keeps a machine aligned. -/
lemma aligned_of_move {before after : Machine} {command : Command} (move : Move before command after)
    (idle : command ≠ .step) (aligned : before.state.Aligned) : after.state.Aligned := by
  have here := aligned.pc
  cases move with
  | stored | clocked | held | sensed => exact ⟨here, aligned.stack⟩
  | cleared => exact State.fresh_aligned before.font
  | resolved =>
      refine ⟨?_, aligned.stack⟩
      change 2 ∣ before.state.pc + 2
      omega
  | idled | executed => exact absurd rfl idle

/-! ## Runs -/

namespace Session

/-- The addresses jumped to since the last reset, after one more elementary operation. -/
def targetsAfter (session : Session) (earlier : List Int) : Command → List Int
  | .reset => []
  | .step => earlier ++ (session.entry?.bind (Entry.target? session.machine.state)).toList
  | _ => earlier

/-- Where the jumps, calls and jumps with an offset that were executed since the last reset have gone, be
they part of a tick, a frame or a run. -/
def targets (session : Session) (commands : List Command) : List Int :=
  session.collect targetsAfter [] (session.unrolled commands)

variable {session : Session} {found : List Int} {target : Int}

/-- Only a reset makes jumps forgotten. -/
lemma mem_targetsAfter (member : target ∈ found) {command : Command} (kept : command ≠ .reset) :
    target ∈ session.targetsAfter found command := by
  cases command with
  | reset => exact absurd rfl kept
  | step => exact List.mem_append_left _ member
  | _ => exact member

lemma mem_collect_targets (member : target ∈ found) {stages : List Command} (kept : .reset ∉ stages) :
    target ∈ session.collect targetsAfter found stages := by
  induction stages generalizing session found with
  | nil => exact member
  | cons stage rest ih =>
      simp only [List.mem_cons, not_or] at kept
      exact ih (mem_targetsAfter member (Ne.symm kept.1)) kept.2

end Session

/-- The machine is aligned unless one of the addresses is odd. -/
structure InStep (session : Session) (targets : List Int) : Prop where
  sound : session.machine.Sound
  aligned : (∀ target ∈ targets, 2 ∣ target) → session.machine.state.Aligned

namespace InStep

variable {session : Session} {targets : List Int}

/-- **Every elementary operation keeps it so.** -/
theorem perform (inStep : InStep session targets) {command : Command}
    (elementary : command.isElementary = true) :
    InStep (session.after command.perform) (session.targetsAfter targets command) := by
  have moved := Session.move_after elementary session
  refine ⟨Session.sound_after inStep.sound elementary, ?_⟩
  intro even
  by_cases idle : command = .step
  · subst idle
    have before := inStep.aligned fun target member => even target (List.mem_append_left _ member)
    rcases Session.entry?_cases inStep.sound.complete with ⟨-, same⟩ | ⟨entry, stepped, given⟩
    · rw [same]
      exact before
    · refine step_aligned inStep.sound before stepped fun target jumped => even target ?_
      simp [Session.targetsAfter, given, Option.mem_def.1 jumped]
  · by_cases kept : command = .reset
    · subst kept
      exact State.fresh_aligned _
    · refine aligned_of_move moved idle (inStep.aligned fun target member => even target ?_)
      exact Session.mem_targetsAfter member kept

end InStep

/-- **Only odd jumps put a machine out of step.**  If all jumps and calls since the last reset have led to
even addresses, then at every moment since then, inside frames and runs too, the program counter and all
return addresses are even, and the state is consistent as long as the program counter is inside memory.
The jumps of words that a program has written itself count like all others, and calls that found the
stack full do not count. -/
theorem even_jumps_keep_alignment {settings : Settings} {machine : Machine}
    (created : Machine.create settings = .ok machine) (commands : List Command)
    (even : ∀ target ∈ ({ machine } : Session).targets commands, 2 ∣ target) :
    let session : Session := { machine }
    ∀ passed rest, session.unrolled commands = passed ++ rest → .reset ∉ rest →
      let state := (session.performAll passed).machine.state
      2 ∣ state.pc ∧ (∀ address ∈ state.stack, 2 ∣ address) ∧
        (state.isConsistent = true ↔ state.pc ≤ 4094) := by
  intro session passed rest moment kept state
  have start : InStep session [] := by
    have sound : session.machine.Sound := Machine.create_sound created
    obtain ⟨traceBound, font, -, -, rfl⟩ := Machine.create_eq_ok_iff.1 created
    exact ⟨sound, fun _ => State.fresh_aligned font⟩
  have reached : InStep (session.performAll passed) (session.collect Session.targetsAfter [] passed) := by
    refine collect_keeps InStep (fun stage member _ _ inStep => inStep.perform ?_) start
    have inside : stage ∈ session.unrolled commands := by simp [moment, member]
    exact Session.isElementary_of_mem_unrolled inside
  have aligned : state.Aligned := by
    refine reached.aligned fun target member => even target ?_
    rw [Session.targets, moment, collect_append]
    exact Session.mem_collect_targets member kept
  refine ⟨aligned.pc, aligned.stack, ?_⟩
  have here := aligned.pc
  have consistent := reached.sound.state.isConsistent_eq_false
  rw [← Bool.not_eq_false, consistent]
  change ¬ (state.pc % 2 = 1 ∨ 4094 < state.pc) ↔ _
  omega

/-- A jump with an even offset leads to a word that waits for a key; the key comes with the next report,
and the machine goes on behind the word. -/
theorem even_jumps_keep_alignment_resolved :
    let commands : List Command := [.load [0x6004, 0xB202, 0, 0xF10A], .run 1 9 none,
      .syncKeys (some (.changes [(7, true)]))]
    ∃ machine, Machine.create { random := .sequence (fun _ => 0) 0 } = .ok machine ∧
      let state := (Session.performAll { machine } commands).machine.state
      (Session.targets { machine } commands = [0x206] ∧ state.pc = 0x208) ∧
        state.isConsistent = true := by
  intro commands
  obtain ⟨machine, created, told⟩ : ∃ machine,
      Machine.create { random := .sequence (fun _ => 0) 0 } = .ok machine ∧
        Session.targets { machine } commands = [0x206] ∧
        (Session.performAll { machine } commands).machine.state.pc = 0x208 := by
    refine ⟨_, rfl, ?_⟩
    unfold commands
    decide +kernel
  refine ⟨machine, created, told, ?_⟩
  have aligned := even_jumps_keep_alignment created commands (by simp [told.1]) _ []
    (List.append_nil _).symm List.not_mem_nil
  rw [Session.performAll_unrolled] at aligned
  refine aligned.2.2.2 ?_
  simp [told.2]

end Chip8
