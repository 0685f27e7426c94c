import Chip8.Proofs.Forms
import Chip8.Proofs.Step

/-!
# Where the program counter goes

Most instructions lead to the next word, two bytes on.  Jumps, calls and returns lead elsewhere, skips
may lead one word further, and a machine that waits for a key or meets a fault stays where it is.

* `State.pcAfter` — where a word leads, read off its digits and without regard to the table of patterns.
* `Kind.effect_pc`, `Kind.pcAfter_of_fault` — that is where the instruction of that form leads.
* **`pc_after_step`** — that is where a step leads, for every word.  A word that no instruction has is
  reported, counted as an instruction and stepped over.
-/

namespace Chip8

/-! ## Where a word leads -/

/-- Behind the next word, or behind the one after it. -/
def State.pcPast (state : State) (skip : Prop) [Decidable skip] : Int :=
  state.pc + if skip then 4 else 2

/-- Where a word leads. -/
def State.pcAfter (state : State) (ins : Instruction) : Int :=
  match ins.family with
  | 0x0 =>
    if ins.nnn = 0x0EE then
      match state.stack with
      | [] => state.pc
      | address :: _ => address + 2
    else state.pc + 2
  | 0x1 => ins.nnn
  | 0x2 => if state.stack.length < 48 then ins.nnn else state.pc
  | 0x3 => state.pcPast (state.reg ins.x = ins.nn)
  | 0x4 => state.pcPast (state.reg ins.x ≠ ins.nn)
  | 0x5 => state.pcPast (ins.n = 0x0 ∧ state.reg ins.x = state.reg ins.y)
  | 0x9 => state.pcPast (ins.n = 0x0 ∧ state.reg ins.x ≠ state.reg ins.y)
  | 0xB => ins.nnn + state.reg 0
  | 0xE =>
    state.pcPast (ins.nn = 0x9E ∧ state.keyAt (state.reg ins.x) = true ∨
      ins.nn = 0xA1 ∧ state.keyAt (state.reg ins.x) = false)
  | 0xF => if ins.nn = 0x0A then state.pc else state.pc + 2
  | _ => state.pc + 2

/-! ## Where an instruction leads -/

section

variable {state : State} {ins : Instruction}

/-- An instruction that meets no fault leads where its word says. -/
lemma Kind.effect_pc {kind : Kind} (form : kind.Form ins) (met : kind.fault? state = none)
    (glyphBase byte : Int) : (kind.effect glyphBase byte ins state).pc = state.pcAfter ins := by
  simp only [Form] at form
  cases kind with
  | ret =>
      obtain ⟨family, address⟩ := form
      cases top : state.stack with
      | nil => simp [fault?, top] at met
      | cons address rest => simp [effect, State.pcAfter, *]
  | call =>
      have room : state.stack.length < 48 := by simpa [fault?] using met
      simp [effect, State.pcAfter, form, room]
  | jump | jumpOffset => simp [effect, State.pcAfter, form]
  | awaitKey => simp [effect, State.pcAfter, form]
  | skipEqByte | skipNeByte | skipEqReg | skipNeReg | skipPressed | skipReleased =>
      simp [effect, State.pcAfter, State.pcPast, State.past, form]
  | loadRegisters =>
      obtain ⟨contents, loaded⟩ := state.load_frame state.index (List.range (ins.x + 1))
      rw [effect, loaded]
      simp [State.pcAfter, State.past, form]
  | invalid =>
      show state.pc + 2 = state.pcAfter ins
      simp only [List.mem_cons, List.not_mem_nil, or_false, not_or] at form
      rcases form with ⟨family, -, other⟩ | ⟨family | family, other⟩ | ⟨family, -⟩ |
        ⟨family, pressed, released⟩ | ⟨family, other⟩ <;>
        simp [State.pcAfter, State.pcPast, *]
  | _ =>
      show state.pc + 2 = state.pcAfter ins
      simp [State.pcAfter, form]

/-- A call or return that meets a fault leads nowhere. -/
lemma Kind.pcAfter_of_fault {kind : Kind} (form : kind.Form ins) {fault : Fault}
    (met : kind.fault? state = some fault) : state.pcAfter ins = state.pc := by
  simp only [Form] at form
  cases kind with
  | call =>
      have full : ¬ state.stack.length < 48 := by
        intro room
        simp [fault?, Nat.not_le.2 room] at met
      simp [State.pcAfter, form, full]
  | ret =>
      obtain ⟨family, address⟩ := form
      have empty : state.stack = [] := by
        by_contra depth
        simp [fault?, depth] at met
      simp [State.pcAfter, family, address, empty]
  | _ => simp [fault?] at met

end

/-- A machine warns of a word exactly if the word has no meaning. -/
lemma Machine.faultOf_eq_unknown_iff {machine : Machine} {word : Int} :
    machine.faultOf word = some (.unknownOpcode word machine.state.pc) ↔ Kind.invalid.Form ⟨word⟩ := by
  rw [← Kind.ofOpcode_eq_iff, faultOf]
  cases met : (Kind.ofOpcode word).fault? machine.state with
  | none => simp [Kind.warning?]
  | some fault =>
      rcases Kind.fault?_cases met with ⟨kind, rfl⟩ | ⟨kind, rfl⟩ <;> simp [kind]

/-! ## Steps -/

/-- **Where a step leads.**  Whatever word stands at the program counter, the program counter afterwards
is the one that the digits of the word demand, and of the words that no instruction has, and of no
others, the step reports that they are unknown; it counts them and goes on behind them. -/
theorem pc_after_step {session : Session} (shaped : session.machine.state.Shaped)
    (complete : ∀ kind, kind ∈ session.machine.instructions.kinds)
    (running : session.machine.state.mode = .running) {word : Int}
    (fetched : fetch session.machine.state.memory session.machine.state.pc = .ok word) :
    ∃ entry left, Machine.step.run session = .ok (some entry) left ∧
      left.machine.state.pc = session.machine.state.pcAfter ⟨word⟩ ∧
      (entry.fault = some (.unknownOpcode word session.machine.state.pc) ↔
        Kind.invalid.Form ⟨word⟩) ∧
      (Kind.invalid.Form ⟨word⟩ →
        left.machine.faults.count .unknownOpcode = session.machine.faults.count .unknownOpcode + 1 ∧
          left.machine.state.cycleCount = session.machine.state.cycleCount + 1 ∧
          left.machine.state.pc = session.machine.state.pc + 2) := by
  obtain ⟨entry, left, stepped, -, fault, machine⟩ :=
    Machine.step_executes shaped complete running fetched
  have form := Kind.form_ofOpcode word
  have state := Machine.nextState_fetched running fetched
  refine ⟨entry, left, stepped, ?_, ?_, fun unknown => ?_⟩
  · rw [machine]
    show session.machine.nextState.pc = _
    rw [state]
    cases met : (Kind.ofOpcode word).fault? session.machine.state with
    | some fault => exact (Kind.pcAfter_of_fault form met).symm
    | none => exact Kind.effect_pc form met _ _
  · rw [fault]
    exact Machine.faultOf_eq_unknown_iff
  · have kind : Kind.ofOpcode word = .invalid := Kind.ofOpcode_eq_iff.2 unknown
    rw [kind] at state
    rw [machine, Machine.faultOf_eq_unknown_iff.2 unknown]
    refine ⟨?_, ?_, ?_⟩
    · show (session.machine.faults.record .unknownOpcode).count .unknownOpcode = _
      rw [FaultCounts.count_record, if_pos rfl]
    · show session.machine.nextState.cycleCount = _
      rw [state]
      rfl
    · show session.machine.nextState.pc = _
      rw [state]
      rfl

/-- A word with the first digit of a skip and registers that are equal, but with a last digit that no
skip has. -/
theorem pc_after_step_unknown :
    ∃ (session : Session) (entry : Entry) (left : Session),
      fetch session.machine.state.memory session.machine.state.pc = .ok 0x5AB1 ∧
        Machine.step.run session = .ok (some entry) left ∧
        entry.fault = some (.unknownOpcode 0x5AB1 6) ∧
        left.machine.state.pc = 8 ∧ left.machine.state.cycleCount = 1 := by
  obtain ⟨memory, written⟩ : ∃ memory,
      memory = (Memory.zeroed memorySize).writeBlock 6 [0x5A, 0xB1] := ⟨_, rfl⟩
  have size : memory.size = memorySize := by simp [written, Memory.zeroed]
  have fetched : fetch memory 6 = .ok 0x5AB1 := by
    rw [written]
    decide +kernel
  let session : Session :=
    { machine := { Machine.ofSettings { random := .sequence (fun _ => 0) 0 } 0 .standard with
        state := { memory, pc := 6 } } }
  have shaped : session.machine.state.Shaped := ⟨size, rfl, rfl⟩
  have running : session.machine.state.mode = .running := rfl
  have unknown : Kind.invalid.Form ⟨0x5AB1⟩ := .inr (.inl (by decide))
  obtain ⟨entry, left, stepped, -, fault, counted⟩ :=
    pc_after_step shaped Kind.mem_all running fetched
  obtain ⟨-, cycle, pc⟩ := counted unknown
  exact ⟨session, entry, left, fetched, stepped, fault.2 unknown, pc, cycle⟩

end Chip8
