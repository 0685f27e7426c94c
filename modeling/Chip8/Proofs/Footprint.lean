import Chip8.Proofs.Forms
import Chip8.Proofs.Step
import Chip8.Proofs.Stores

/-!
# What an instruction can touch

An instruction reads what it likes and changes little.  Two tables say what: which kinds of instruction
may change a part of the state, and which registers a kind may write.  Everything outside the tables is
kept, whatever the state is.

* `State.Part.changers` — the kinds that may change a part of the state.
* `Kind.targets` — the registers that a kind may write.
* **`Kind.effect_keeps`**, **`Kind.effect_register`** — the rest is kept.
* `Kind.effect_cell`, `Kind.effect_stack` — which cells are stored to, and what happens to the stack.
* `Instruction.Footprint` — the same by the digits of a word, for the whole machine.
* **`step_footprint`** — every step that fetches a word stays within the footprint of the word.
-/

namespace Chip8

/-! ## Parts of the state -/

/-- The parts of a state that an instruction may change or keep as a whole. -/
inductive State.Part where
  | screen | memory | stack | index | delayTimer | soundTimer | mode | keypad
  deriving DecidableEq

/-- Two states agree on a part. -/
def State.Part.Kept (before after : State) : State.Part → Prop
  | screen => after.screen = before.screen
  | memory => after.memory = before.memory
  | stack => after.stack = before.stack
  | index => after.index = before.index
  | delayTimer => after.delayTimer = before.delayTimer
  | soundTimer => after.soundTimer = before.soundTimer
  | mode => after.mode = before.mode
  | keypad => after.keypad = before.keypad

/-- The kinds of instruction that may change a part. -/
def State.Part.changers : State.Part → List Kind
  | screen => [.clear, .draw]
  | memory => [.storeDigits, .storeRegisters]
  | stack => [.call, .ret]
  | index => [.setIndex, .addIndex, .pointGlyph]
  | delayTimer => [.setDelay]
  | soundTimer => [.setSound]
  | mode => [.awaitKey]
  | keypad => []

namespace Kind

/-- The registers that a kind of instruction may write. -/
def targets (ins : Instruction) : Kind → List Nat
  | setByte | addByte | copy | or | and | xor | random | readDelay => [ins.x]
  | add | subtract | subtractFrom | shiftRight | shiftLeft => [ins.x, flagRegister]
  | draw => [flagRegister]
  | loadRegisters => List.range (ins.x + 1)
  | _ => []

section

variable {glyphBase byte : Int} {ins : Instruction} {state : State} {kind : Kind}

/-- **A part is kept by every kind that does not change it.** -/
theorem effect_keeps {part : State.Part} (other : kind ∉ part.changers) :
    part.Kept state (kind.effect glyphBase byte ins state) := by
  cases kind with
  | loadRegisters =>
      obtain ⟨contents, loaded⟩ := state.load_frame state.index (List.range (ins.x + 1))
      rw [effect, loaded]
      cases part <;> rfl
  | _ => cases part <;> first | rfl | simp [State.Part.changers] at other

/-- Only the kinds that may change a part do. -/
lemma mem_changers (part : State.Part)
    (changed : ¬ part.Kept state (kind.effect glyphBase byte ins state)) :
    kind ∈ part.changers := by
  by_contra other
  exact changed (effect_keeps other)

/-! ## Registers -/

lemma put_register {register target : Nat} (other : register ≠ target) (value : Int) :
    (state.put target value).registers[register]? = state.registers[register]? := by
  rw [State.put, Array.getElem?_setIfInBounds_ne other.symm]

lemma load_register {register : Nat} (address : Int) {registers : List Nat}
    (other : register ∉ registers) :
    (state.load address registers).registers[register]? = state.registers[register]? := by
  suffices general : ∀ loaded : State,
      (registers.foldl (fun loaded (register : Nat) =>
        loaded.put register (state.byteAt (address + register))) loaded).registers[register]? =
          loaded.registers[register]? from general state
  induction registers with
  | nil => intro loaded; rfl
  | cons target rest ih =>
      intro loaded
      rw [List.mem_cons, not_or] at other
      exact (ih other.2 _).trans (put_register other.1 _)

/-- **A register is kept unless it is a target.** -/
theorem effect_register {register : Nat} (other : register ∉ kind.targets ins) :
    (kind.effect glyphBase byte ins state).registers[register]? = state.registers[register]? := by
  cases kind with
  | setByte | addByte | copy | or | and | xor | random | readDelay =>
      exact put_register (List.ne_of_not_mem_cons other) _
  | add | subtract | subtractFrom | shiftRight | shiftLeft =>
      simp only [targets, List.mem_cons, List.not_mem_nil, or_false, not_or] at other
      exact (put_register other.2 _).trans (put_register other.1 _)
  | draw => exact put_register (List.ne_of_not_mem_cons other) _
  | loadRegisters => exact load_register _ other
  | _ => rfl

/-- Only targets change. -/
lemma mem_targets {register : Nat}
    (changed : (kind.effect glyphBase byte ins state).registers[register]? ≠
      state.registers[register]?) : register ∈ kind.targets ins := by
  by_contra other
  exact changed (effect_register other)

/-- A target is the first operand or the flag register, unless a row of registers is loaded. -/
lemma targets_cases {register : Nat} (target : register ∈ kind.targets ins) :
    register = ins.x ∨ register = flagRegister ∨ (kind = .loadRegisters ∧ register ≤ ins.x) := by
  cases kind with
  | setByte | addByte | copy | or | and | xor | random | readDelay =>
      exact .inl (List.mem_singleton.1 target)
  | add | subtract | subtractFrom | shiftRight | shiftLeft =>
      rcases List.mem_pair.1 target with first | flag
      · exact .inl first
      · exact .inr (.inl flag)
  | draw => exact .inr (.inl (List.mem_singleton.1 target))
  | loadRegisters => exact .inr (.inr ⟨rfl, Nat.le_of_lt_succ (List.mem_range.1 target)⟩)
  | _ => cases target

/-- The flag register is a target of arithmetic and of drawing, unless it is the first operand. -/
lemma targets_flag (target : flagRegister ∈ kind.targets ins) (other : ins.x ≠ flagRegister) :
    kind ∈ [Kind.add, .subtract, .shiftRight, .subtractFrom, .shiftLeft, .draw] := by
  cases kind with
  | add | subtract | subtractFrom | shiftRight | shiftLeft | draw => decide
  | setByte | addByte | copy | or | and | xor | random | readDelay =>
      exact absurd (List.mem_singleton.1 target).symm other
  | loadRegisters =>
      -- the row would have to reach the last register
      have reached : 15 < ins.x + 1 := List.mem_range.1 target
      exact absurd (Nat.le_antisymm (Nat.le_of_lt_succ ins.x_lt) (Nat.le_of_lt_succ reached)) other
  | _ => cases target

end
end Kind

/-! ## Cells and calls -/

namespace Kind

variable {glyphBase byte : Int} {ins : Instruction} {state : State} {kind : Kind}

/-- Digits are stored in three cells, registers in as many as there are. -/
lemma effect_cell {cell : Nat}
    (changed : (kind.effect glyphBase byte ins state).memory[cell]? ≠ state.memory[cell]?) :
    (kind = .storeDigits ∧
      ∃ offset : Nat, offset ≤ 2 ∧ (cell : Int) = (state.index + offset) % 4096) ∨
    (kind = .storeRegisters ∧
      ∃ offset : Nat, offset ≤ ins.x ∧ (cell : Int) = (state.index + offset) % 4096) := by
  have listed : kind ∈ State.Part.memory.changers := by
    by_contra other
    have kept : (kind.effect glyphBase byte ins state).memory = state.memory := effect_keeps other
    exact changed (by rw [kept])
  have reached (data : List Int)
      (written : (state.memory.writeBlock state.index data)[cell]? ≠ state.memory[cell]?) :
      ∃ offset : Nat, offset < data.length ∧ (cell : Int) = (state.index + offset) % 4096 := by
    by_contra apart
    push Not at apart
    exact written (Memory.getElem?_writeBlock_of_ne _ _ _ apart)
  rcases List.mem_pair.1 listed with rfl | rfl
  · obtain ⟨offset, inside, place⟩ := reached _ changed
    exact .inl ⟨rfl, offset, Nat.le_of_lt_succ inside, place⟩
  · obtain ⟨offset, inside, place⟩ := reached _ changed
    rw [List.length_map, List.length_range] at inside
    exact .inr ⟨rfl, offset, Nat.le_of_lt_succ inside, place⟩

/-- Calls push and returns pop. -/
lemma effect_stack (met : kind.fault? state = none)
    (changed : (kind.effect glyphBase byte ins state).stack ≠ state.stack) :
    (kind = .call ∧ state.stack.length < 48 ∧
      ∃ address, (kind.effect glyphBase byte ins state).stack = address :: state.stack) ∨
    (kind = .ret ∧
      ∃ address, state.stack = address :: (kind.effect glyphBase byte ins state).stack) := by
  rcases List.mem_pair.1 (mem_changers .stack changed) with rfl | rfl
  · have room : state.stack.length < 48 := by simpa [fault?] using met
    exact .inl ⟨rfl, room, _, rfl⟩
  · cases top : state.stack with
    | nil => simp [fault?, top] at met
    | cons address rest => exact .inr ⟨rfl, address, by simp [effect, top]⟩

end Kind

/-! ## Footprints of words -/

/-- What a word can change of a state, by its digits. -/
structure Instruction.Footprint (ins : Instruction) (before after : State) : Prop where
  screen : after.screen ≠ before.screen → Kind.clear.Form ins ∨ Kind.draw.Form ins
  memory : ∀ cell : Nat, after.memory[cell]? ≠ before.memory[cell]? →
    (Kind.storeDigits.Form ins ∧
      ∃ offset : Nat, offset ≤ 2 ∧ (cell : Int) = (before.index + offset) % 4096) ∨
    (Kind.storeRegisters.Form ins ∧
      ∃ offset : Nat, offset ≤ ins.x ∧ (cell : Int) = (before.index + offset) % 4096)
  /-- A call with room adds one address, and a return takes the last one off. -/
  stack : after.stack ≠ before.stack →
    (Kind.call.Form ins ∧ before.stack.length < 48 ∧
      ∃ address, after.stack = address :: before.stack) ∨
    (Kind.ret.Form ins ∧ ∃ address, before.stack = address :: after.stack)
  index : after.index ≠ before.index →
    Kind.setIndex.Form ins ∨ Kind.addIndex.Form ins ∨ Kind.pointGlyph.Form ins
  delayTimer : after.delayTimer ≠ before.delayTimer → Kind.setDelay.Form ins
  soundTimer : after.soundTimer ≠ before.soundTimer → Kind.setSound.Form ins
  mode : after.mode ≠ before.mode → Kind.awaitKey.Form ins
  keypad : after.keypad = before.keypad
  registers : ∀ register : Nat, after.registers[register]? ≠ before.registers[register]? →
    register = ins.x ∨ register = flagRegister ∨ (Kind.loadRegisters.Form ins ∧ register ≤ ins.x)
  flag : ins.x ≠ flagRegister →
    after.registers[flagRegister]? ≠ before.registers[flagRegister]? →
      Kind.add.Form ins ∨ Kind.subtract.Form ins ∨ Kind.shiftRight.Form ins ∨
        Kind.subtractFrom.Form ins ∨ Kind.shiftLeft.Form ins ∨ Kind.draw.Form ins

/-- To change nothing is within every footprint. -/
lemma Instruction.Footprint.refl (ins : Instruction) (state : State) : ins.Footprint state state where
  screen := fun changed => absurd rfl changed
  memory := fun _ changed => absurd rfl changed
  stack := fun changed => absurd rfl changed
  index := fun changed => absurd rfl changed
  delayTimer := fun changed => absurd rfl changed
  soundTimer := fun changed => absurd rfl changed
  mode := fun changed => absurd rfl changed
  keypad := rfl
  registers := fun _ changed => absurd rfl changed
  flag := fun _ changed => absurd rfl changed

/-- An instruction stays within the footprint of its word. -/
lemma Kind.effect_footprint {ins : Instruction} {kind : Kind} (form : kind.Form ins) {state : State}
    (met : kind.fault? state = none) (glyphBase byte : Int) :
    ins.Footprint state (kind.effect glyphBase byte ins state).counted where
  screen := by
    intro changed
    rcases List.mem_pair.1 (mem_changers .screen changed) with rfl | rfl
    · exact .inl form
    · exact .inr form
  memory := by
    intro cell changed
    rcases effect_cell changed with ⟨rfl, place⟩ | ⟨rfl, place⟩
    · exact .inl ⟨form, place⟩
    · exact .inr ⟨form, place⟩
  stack := by
    intro changed
    rcases effect_stack met changed with ⟨rfl, room, pushed⟩ | ⟨rfl, popped⟩
    · exact .inl ⟨form, room, pushed⟩
    · exact .inr ⟨form, popped⟩
  index := by
    intro changed
    have changer := mem_changers .index changed
    simp only [State.Part.changers, List.mem_cons, List.not_mem_nil, or_false] at changer
    rcases changer with rfl | rfl | rfl
    · exact .inl form
    · exact .inr (.inl form)
    · exact .inr (.inr form)
  delayTimer := by
    intro changed
    obtain rfl := List.mem_singleton.1 (mem_changers .delayTimer changed)
    exact form
  soundTimer := by
    intro changed
    obtain rfl := List.mem_singleton.1 (mem_changers .soundTimer changed)
    exact form
  mode := by
    intro changed
    obtain rfl := List.mem_singleton.1 (mem_changers .mode changed)
    exact form
  keypad := by
    have unlisted : kind ∉ State.Part.keypad.changers := List.not_mem_nil
    exact effect_keeps unlisted
  registers := by
    intro register changed
    rcases targets_cases (mem_targets changed) with first | flag | ⟨rfl, row⟩
    · exact .inl first
    · exact .inr (.inl flag)
    · exact .inr (.inr ⟨form, row⟩)
  flag := by
    intro other changed
    have setter := targets_flag (mem_targets changed) other
    simp only [List.mem_cons, List.not_mem_nil, or_false] at setter
    rcases setter with rfl | rfl | rfl | rfl | rfl | rfl
    · exact .inl form
    · exact .inr (.inl form)
    · exact .inr (.inr (.inl form))
    · exact .inr (.inr (.inr (.inl form)))
    · exact .inr (.inr (.inr (.inr (.inl form))))
    · exact .inr (.inr (.inr (.inr (.inr form))))

/-! ## Steps -/

/-- **Every step that fetches a word stays within the footprint of the word**, on machines of the right
shape.  Keys and ticks are the host's, and only one kind of instruction draws a random byte. -/
theorem step_footprint {session : Session} (shaped : session.machine.state.Shaped)
    (complete : ∀ kind, kind ∈ session.machine.instructions.kinds)
    (running : session.machine.state.mode = .running) {word : Int}
    (fetched : fetch session.machine.state.memory session.machine.state.pc = .ok word) :
    ∃ entry left, Machine.step.run session = .ok (some entry) left ∧
      Instruction.Footprint ⟨word⟩ session.machine.state left.machine.state ∧
      left.machine.latch = session.machine.latch ∧ left.machine.ticks = session.machine.ticks ∧
      (left.machine.random ≠ session.machine.random → Kind.random.Form ⟨word⟩) := by
  obtain ⟨entry, left, stepped, -, -, machine⟩ :=
    Machine.step_executes shaped complete running fetched
  have form := Kind.form_ofOpcode word
  refine ⟨entry, left, stepped, ?_, by rw [machine], by rw [machine], ?_⟩
  · rw [machine]
    show Instruction.Footprint ⟨word⟩ session.machine.state session.machine.nextState
    rw [Machine.nextState_fetched running fetched]
    cases met : (Kind.ofOpcode word).fault? session.machine.state with
    | some fault => exact .refl _ _
    | none => exact Kind.effect_footprint form met _ _
  · intro drawn
    rw [← Kind.ofOpcode_eq_iff]
    by_contra other
    rw [machine, if_neg other] at drawn
    exact drawn rfl

/-- Three registers stored at the last two cells of memory and the first: the next cell is kept, and so
is the screen. -/
theorem step_footprint_wrapped :
    ∃ (session : Session) (entry : Entry) (left : Session),
      fetch session.machine.state.memory session.machine.state.pc = .ok 0xF255 ∧
        session.machine.state.index = 4094 ∧
        Machine.step.run session = .ok (some entry) left ∧
        left.machine.state.memory[1]? = session.machine.state.memory[1]? ∧
        left.machine.state.screen = session.machine.state.screen := by
  obtain ⟨memory, written⟩ : ∃ memory,
      memory = (Memory.zeroed memorySize).writeBlock 6 [0xF2, 0x55] := ⟨_, rfl⟩
  have size : memory.size = memorySize := by simp [written, Memory.zeroed]
  have fetched : fetch memory 6 = .ok 0xF255 := by
    rw [written]
    decide +kernel
  let session : Session :=
    { machine := { Machine.ofSettings { random := .sequence (fun _ => 0) 0 } 0 .standard with
        state := { memory, pc := 6, index := 4094 } } }
  have shaped : session.machine.state.Shaped := ⟨size, rfl, rfl⟩
  have running : session.machine.state.mode = .running := rfl
  obtain ⟨entry, left, stepped, footprint, -⟩ :=
    step_footprint shaped Kind.mem_all running fetched
  refine ⟨session, entry, left, fetched, rfl, stepped, ?_, ?_⟩
  · by_contra changed
    rcases footprint.memory 1 changed with ⟨form, -⟩ | ⟨-, offset, near, place⟩
    · exact absurd form (by decide)
    · have row : offset ≤ 2 := near
      change ((1 : Nat) : Int) = (4094 + offset) % 4096 at place
      omega
  · by_contra changed
    rcases footprint.screen changed with form | form <;> exact absurd form (by decide)

end Chip8
