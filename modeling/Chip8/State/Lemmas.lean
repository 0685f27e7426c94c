import Chip8.State

/-!
# One equation per action of the state

On a state whose memory, registers and stack have their proper sizes every action has a closed form: an
answer and an updated record.  After these equations nobody needs to unfold an action again; those that
only set a field of their own are their own equations.

* `registerAt_run`, `setRegister_run`, `setFlag_run` — registers.
* `readByte_run`, `writeByte_run`, **`writeBlock_run`** — memory; the last says that the action does
  what `Memory.writeBlock` does, so facts about stores can be proved on memory alone.
* `push_run`, `push_run_full`, `pop_run_cons`, `pop_run_nil` — the stack, with both faults.
-/

namespace Chip8.State

variable {state : State}

/-! ## Registers -/

theorem registerAt_run {position : Nat} (inside : position < state.registers.size) :
    (registerAt position).run state = .ok state.registers[position] state := by
  simp [registerAt, EStateM.run_bind, EStateM.run_get, inside]

theorem replaceRegister_run {position : Nat} (inside : position < state.registers.size)
    (value : Int) :
    (replaceRegister position value).run state =
      .ok () { state with registers := state.registers.setIfInBounds position value } := by
  simp [replaceRegister, EStateM.run_bind, EStateM.run_get, EStateM.run_modify, inside]

theorem setRegister_run {register : Nat} (named : register < registerCount)
    (inside : register < state.registers.size) (value : Int) :
    (setRegister register value).run state =
      .ok () { state with registers := state.registers.setIfInBounds register (value % 256) } := by
  have range : 0 ≤ (register : Int) ∧ (register : Int) < registerCount := by omega
  rw [setRegister, if_pos range, Int.toNat_natCast]
  exact replaceRegister_run inside _

theorem setFlag_run (inside : flagRegister < state.registers.size) (condition : Bool) :
    (setFlag condition).run state =
      .ok () { state with
        registers := state.registers.setIfInBounds flagRegister (if condition then 1 else 0) } :=
  replaceRegister_run inside _

/-! ## Memory -/

theorem readByte_run (full : state.memory.size = memorySize) (address : Int) :
    (readByte address).run state =
      .ok ((state.memory.getD (Memory.cell address) 0).toNat : Int) state := by
  have inside : Memory.cell address < state.memory.size := full ▸ Memory.cell_lt address
  simp [readByte, Memory.read?, EStateM.run_bind, EStateM.run_get, inside]

theorem writeByte_run (full : state.memory.size = memorySize) (address value : Int) :
    (writeByte address value).run state =
      .ok () { state with memory := state.memory.write address value } := by
  have inside : Memory.cell address < state.memory.size := full ▸ Memory.cell_lt address
  simp [writeByte, EStateM.run_bind, EStateM.run_get, EStateM.run_modify, inside]

/-- **Storing a block through the state is storing it in memory.** -/
theorem writeBlock_run (full : state.memory.size = memorySize) (address : Int) (data : List Int) :
    (writeBlock address data).run state =
      .ok () { state with memory := state.memory.writeBlock address data } := by
  induction data generalizing state address with
  | nil => rfl
  | cons value rest ih =>
    rw [writeBlock, EStateM.run_bind, writeByte_run full]
    exact ih ((Memory.size_write ..).trans full) (address + 1)

/-! ## Program counter and index -/

theorem jumpTo_run (address : Int) :
    (jumpTo address).run state = .ok () { state with pc := address } := rfl

theorem setIndex_run (address : Int) :
    (setIndex address).run state = .ok () { state with index := address } := rfl

/-! ## The stack -/

theorem push_run (room : state.stack.length < stackCapacity) (address : Int) :
    (push address).run state = .ok () { state with stack := address :: state.stack } := by
  have : ¬ stackCapacity ≤ state.stack.length := Nat.not_le.2 room
  simp [push, EStateM.run_bind, EStateM.run_get, EStateM.run_modify, this]

theorem push_run_full (full : stackCapacity ≤ state.stack.length) (address : Int) :
    (push address).run state = .error (.fault (.stackOverflow address state.pc)) state := by
  simp [push, EStateM.run_bind, EStateM.run_get, full]

theorem pop_run_cons {address : Int} {rest : List Int} (top : state.stack = address :: rest) :
    pop.run state = .ok address { state with stack := rest } := by
  simp only [pop, EStateM.run_bind, EStateM.run_get, top]
  rfl

theorem pop_run_nil (empty : state.stack = []) :
    pop.run state = .error (.fault (.stackUnderflow state.pc)) state := by
  simp only [pop, EStateM.run_bind, EStateM.run_get, empty]
  rfl

end Chip8.State
