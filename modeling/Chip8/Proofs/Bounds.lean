import Chip8.Proofs.Run

/-!
# The bounds of every reachable state

Some stores mask their value and some do not: a jump with an offset, a return, a glyph address and a
skip leave whatever the arithmetic gives.  What keeps them in range is that their inputs are: registers
are bytes, addresses on the stack were program counters of calls, and a suspended machine stands at an
instruction that could be fetched.

* `State.Sound` — well-formedness together with bounds on the program counter, the stack and the
  register that is waited for.
* `Kind.effect_sound` — one instruction keeps it; `sound_invariant` — so does every operation.
* **`reachable_bounds`** — every state that a created machine reaches is sound, and `isConsistent`
  then fails for one reason only: the program counter is odd or too far up.
-/

namespace Chip8

/-! ## What updates keep -/

namespace State.WellFormed

variable {state : State}

lemma reg_bounds (formed : state.WellFormed) (register : Nat) :
    0 ≤ state.reg register ∧ state.reg register ≤ 255 := by
  rw [reg, Array.getD_eq_getD_getElem?]
  cases found : state.registers[register]? with
  | none => exact ⟨Int.le_refl 0, by decide⟩
  | some value => exact formed.register_bounds value (Array.mem_of_getElem? found)

lemma put (formed : state.WellFormed) (register : Nat) {value : Int} (byte : 0 ≤ value ∧ value ≤ 255) :
    (state.put register value).WellFormed :=
  { formed with
    registers_size := by rw [State.put, Array.size_setIfInBounds]; exact formed.registers_size
    register_bounds := by
      intro other member
      rcases Array.mem_or_eq_of_mem_setIfInBounds member with before | rfl
      · exact formed.register_bounds other before
      · exact byte }

lemma flag (formed : state.WellFormed) (condition : Bool) : (state.flag condition).WellFormed := by
  refine formed.put _ ?_
  cases condition <;> decide

lemma store (formed : state.WellFormed) (address : Int) (data : List Int) :
    (state.store address data).WellFormed :=
  { formed with
    memory_size := by rw [State.store, Memory.size_writeBlock]; exact formed.memory_size }

lemma paint (formed : state.WellFormed) (screen : Screen screenWidth screenHeight) :
    (state.paint screen).WellFormed := { formed with }

lemma past (formed : state.WellFormed) (amount : Int) : (state.past amount).WellFormed :=
  { formed with }

lemma byteAt_bounds (state : State) (address : Int) :
    0 ≤ state.byteAt address ∧ state.byteAt address ≤ 255 := by
  have := (state.memory.getD (Memory.cell address) 0).toNat_lt
  rw [byteAt]
  omega

lemma load (formed : state.WellFormed) (address : Int) (registers : List Nat) :
    (state.load address registers).WellFormed := by
  -- the bytes come from the state before; only the registers change on the way
  suffices general : ∀ loaded : State, loaded.WellFormed →
      (registers.foldl (fun loaded (register : Nat) =>
        loaded.put register (state.byteAt (address + register))) loaded).WellFormed from
    general state formed
  induction registers with
  | nil => exact fun _ loaded => loaded
  | cons register rest ih => exact fun _ loaded => ih _ (loaded.put _ (byteAt_bounds state _))

end State.WellFormed

/-! ## What one instruction keeps -/

section

variable {state : State} (byte : Int) (ins : Instruction) (kind : Kind)

open State in
lemma Kind.effect_formed (formed : state.WellFormed) (met : kind.fault? state = none) :
    (kind.effect fontStart byte ins state).WellFormed := by
  have low (value : Int) : 0 ≤ value % 256 ∧ value % 256 ≤ 255 := by omega
  have hx := formed.reg_bounds ins.x
  cases kind with
  | clear => exact (formed.paint _).past _
  | ret =>
      have length := formed.stack_length
      exact { formed with stack_length := by rw [effect, List.length_tail]; omega }
  | jump | jumpOffset => exact { formed with }
  | call =>
      have room : ¬ stackCapacity ≤ state.stack.length := fun full => by
        simp [fault?, full] at met
      exact { formed with stack_length := by rw [effect, List.length_cons]; omega }
  | skipEqByte | skipNeByte | skipEqReg | skipNeReg | skipPressed | skipReleased | invalid =>
      exact formed.past _
  | setByte | addByte | copy | or | and | xor | random | readDelay =>
      exact (formed.put _ (low _)).past _
  | add | subtract | subtractFrom | shiftRight | shiftLeft =>
      exact ((formed.put _ (low _)).flag _).past _
  | setIndex =>
      have := ins.nnn_lt
      exact { formed with index_bounds := by rw [effect]; dsimp only [State.past]; omega }
  | draw => exact ((formed.paint _).flag _).past _
  | awaitKey => exact { formed with }
  | setDelay => exact { formed with delay_bounds := hx }
  | setSound => exact { formed with sound_bounds := hx }
  | addIndex => exact { formed with index_bounds := by rw [effect]; dsimp only [State.past]; omega }
  | pointGlyph =>
      have glyph (value : Int) (range : 0 ≤ value ∧ value ≤ 255) :
          0 ≤ (fontStart : Int) + glyphSize * value ∧ fontStart + glyphSize * value ≤ 0xFFFF := by
        change (0 : Int) ≤ 80 + 5 * value ∧ (80 : Int) + 5 * value ≤ 0xFFFF
        omega
      exact { formed with index_bounds := glyph _ hx }
  | storeDigits | storeRegisters => exact (formed.store _ _).past _
  | loadRegisters => exact (formed.load _ _).past _

/-- Only a call adds to the stack, and it adds its own address. -/
lemma Kind.mem_effect_stack {address : Int}
    (member : address ∈ (kind.effect fontStart byte ins state).stack) :
    address ∈ state.stack ∨ address = state.pc % memorySize := by
  cases kind with
  | ret => exact .inl (List.mem_of_mem_tail member)
  | call => exact (List.mem_cons.1 member).symm
  | loadRegisters =>
      obtain ⟨contents, loaded⟩ := state.load_frame state.index (List.range (ins.x + 1))
      rw [effect, loaded] at member
      exact .inl member
  | _ => exact .inl member

/-- Wherever an instruction goes, it is not far. -/
lemma Kind.effect_pc_bounds (formed : state.WellFormed) (fetchable : 0 ≤ state.pc ∧ state.pc ≤ 4094)
    (stacked : ∀ address ∈ state.stack, 0 ≤ address ∧ address ≤ 4094) :
    0 ≤ (kind.effect fontStart byte ins state).pc ∧
      (kind.effect fontStart byte ins state).pc ≤ 0x10FE := by
  have hnnn := ins.nnn_lt
  have near (amount : Int) (small : amount = 2 ∨ amount = 4) :
      0 ≤ state.pc + amount ∧ state.pc + amount ≤ 0x10FE := by omega
  have skip (condition : Prop) [Decidable condition] :
      (if condition then (4 : Int) else 2) = 2 ∨ (if condition then (4 : Int) else 2) = 4 := by
    split_ifs <;> simp
  cases kind with
  | ret =>
      have top : 0 ≤ state.stack.headD 0 ∧ state.stack.headD 0 ≤ 4094 := by
        cases stack : state.stack with
        | nil => decide
        | cons address rest => exact stacked address (by rw [stack]; exact List.mem_cons_self)
      rw [effect]
      dsimp only
      omega
  | jump | call =>
      rw [effect]
      dsimp only
      omega
  | jumpOffset =>
      have := formed.reg_bounds 0
      rw [effect]
      dsimp only
      omega
  | awaitKey => exact ⟨fetchable.1, by rw [effect]; dsimp only; omega⟩
  | skipEqByte | skipNeByte | skipEqReg | skipNeReg | skipPressed | skipReleased =>
      exact near _ (skip _)
  | loadRegisters =>
      obtain ⟨contents, loaded⟩ := state.load_frame state.index (List.range (ins.x + 1))
      rw [effect, loaded]
      exact near 2 (.inl rfl)
  | _ => exact near 2 (.inl rfl)

/-- An instruction that suspends the machine stays where it is. -/
lemma Kind.effect_mode :
    (kind.effect fontStart byte ins state).mode = state.mode ∨
      (kind.effect fontStart byte ins state).mode = .awaitingKey ins.x ∧
        (kind.effect fontStart byte ins state).pc = state.pc := by
  cases kind with
  | awaitKey => exact .inr ⟨rfl, rfl⟩
  | loadRegisters =>
      obtain ⟨contents, loaded⟩ := state.load_frame state.index (List.range (ins.x + 1))
      rw [effect, loaded]
      exact .inl rfl
  | _ => exact .inl rfl

end

/-! ## Sound states -/

/-- What holds of every reachable state. -/
structure State.Sound (state : State) : Prop extends state.WellFormed where
  /-- A skip takes the program counter past the last word, a jump with an offset further. -/
  pc_bounds : 0 ≤ state.pc ∧ state.pc ≤ 0x10FE
  /-- An address on the stack is that of a call that was fetched. -/
  stack_bounds : ∀ address ∈ state.stack, 0 ≤ address ∧ address ≤ 4094
  /-- A suspended machine stands at an instruction that was fetched, and knows a register. -/
  waiting_bounds : ∀ register, state.mode = .awaitingKey register →
    (0 ≤ register ∧ register ≤ 15) ∧ state.pc ≤ 4094

namespace State.Sound

variable {state : State}

lemma cleared : ({} : State).Sound where
  memory_size := Array.size_replicate
  registers_size := rfl
  register_bounds := by decide
  index_bounds := by decide
  delay_bounds := by decide
  sound_bounds := by decide
  keypad_size := rfl
  stack_length := by decide
  pc_bounds := by decide
  stack_bounds := fun _ member => nomatch member
  waiting_bounds := fun _ waiting => nomatch waiting

lemma remember (sound : state.Sound) {memory : Memory} (size : memory.size = state.memory.size) :
    { state with memory }.Sound :=
  { sound with memory_size := size.trans sound.memory_size }

lemma fresh (font : Font) : (State.fresh font).Sound :=
  cleared.remember (Memory.size_writeBlock _ _ _)

lemma clocked (sound : state.Sound) : state.clocked.Sound := by
  have delay := sound.delay_bounds
  have tone := sound.sound_bounds
  exact
    { sound with
      delay_bounds := by dsimp only [State.clocked]; omega
      sound_bounds := by dsimp only [State.clocked]; omega }

lemma sensed (sound : state.Sound) {keypad : Array Bool} (size : keypad.size = state.keypad.size) :
    { state with keypad }.Sound :=
  { sound with keypad_size := size.trans sound.keypad_size }

lemma resolved (sound : state.Sound) {register : Int} (waiting : state.mode = .awaitingKey register)
    (value : Int) : (state.resolved register value).Sound := by
  have pc := sound.pc_bounds
  have stay := (sound.waiting_bounds register waiting).2
  have byte : 0 ≤ value % 256 ∧ value % 256 ≤ 255 := by omega
  have put := sound.toWellFormed.put register.toNat byte
  exact
    { sound with
      registers_size := put.registers_size
      register_bounds := put.register_bounds
      pc_bounds := by dsimp only [State.resolved]; omega
      waiting_bounds := fun _ waiting => nomatch waiting }

/-- In a sound state only the program counter can be inconsistent. -/
lemma isConsistent_eq_false (sound : state.Sound) :
    state.isConsistent = false ↔ state.pc % 2 = 1 ∨ 4094 < state.pc := by
  have registers : (state.registers.all fun value => 0 ≤ value && value ≤ 255) = true := by
    rw [Array.all_eq_true']
    intro value member
    simpa using sound.register_bounds value member
  have consistent : state.isConsistent = true ↔ state.pc + 1 < 4096 ∧ state.pc % 2 = 0 := by
    rw [isConsistent, registers]
    simp [sound.memory_size, sound.registers_size, sound.index_bounds,
      sound.pc_bounds.1, sound.stack_length, sound.delay_bounds, sound.sound_bounds,
      sound.keypad_size]
  rw [← Bool.not_eq_true, consistent]
  omega

end State.Sound

/-- **One instruction keeps a state sound**, whatever the random byte is. -/
theorem Kind.effect_sound {state : State} (sound : state.Sound) (running : state.mode = .running)
    (fetchable : state.pc ≤ 4094) {kind : Kind} (met : kind.fault? state = none) (byte : Int)
    (ins : Instruction) : (kind.effect fontStart byte ins state).counted.Sound := by
  have formed := Kind.effect_formed byte ins kind sound.toWellFormed met
  have here : 0 ≤ state.pc ∧ state.pc ≤ 4094 := ⟨sound.pc_bounds.1, fetchable⟩
  refine { formed with pc_bounds := ?_, stack_bounds := ?_, waiting_bounds := ?_ }
  · exact Kind.effect_pc_bounds byte ins kind sound.toWellFormed here sound.stack_bounds
  · intro address member
    rcases Kind.mem_effect_stack byte ins kind member with before | rfl
    · exact sound.stack_bounds address before
    · unfold memorySize
      omega
  · intro register waiting
    have hx := ins.x_lt
    change (kind.effect fontStart byte ins state).mode = _ at waiting
    change _ ∧ (kind.effect fontStart byte ins state).pc ≤ 4094
    rcases Kind.effect_mode byte ins kind with same | ⟨suspended, stays⟩
    · rw [same, running] at waiting
      cases waiting
    · rw [suspended] at waiting
      cases waiting
      rw [stays]
      omega

/-! ## Sound machines -/

/-- A machine as it can be reached: the complete instruction set and a sound state. -/
structure Machine.Sound (machine : Machine) : Prop where
  standard : machine.instructions = .standard
  state : machine.state.Sound

lemma Machine.Sound.listed {machine : Machine} (sound : machine.Sound) :
    ∀ kind, kind ∈ machine.instructions.kinds := by
  rw [sound.standard]
  exact Kind.mem_all

lemma Machine.create_sound {settings : Settings} {machine : Machine}
    (created : Machine.create settings = .ok machine) : machine.Sound := by
  obtain ⟨traceBound, font, -, -, rfl⟩ := Machine.create_eq_ok_iff.1 created
  exact ⟨rfl, .fresh font⟩

/-- Every operation keeps a machine sound. -/
lemma sound_invariant (command : Command) : Invariant Machine.Sound command := by
  rintro before after ⟨standard, sound⟩ move
  cases move with
  | stored _ _ _ size => exact ⟨standard, sound.remember size⟩
  | cleared => exact ⟨standard, .fresh before.font⟩
  | clocked => exact ⟨standard, sound.clocked⟩
  | held => exact ⟨standard, sound⟩
  | sensed _ _ _ size => exact ⟨standard, sound.sensed size⟩
  | resolved _ _ _ size key _ waiting => exact ⟨standard, (sound.sensed size).resolved waiting key.1⟩
  | idled => exact ⟨standard, sound⟩
  | executed _ _ _ word running fetched =>
      refine ⟨standard, ?_⟩
      have listed : Kind.ofOpcode word ∈ before.instructions.kinds := by
        rw [standard]
        exact Kind.mem_all _
      have place : before.state.pc + 1 < 4096 := (Machine.fetch_range fetched).1.2
      rw [leaves, Machine.execution, InstructionSet.execute_run listed sound.shaped, standard]
      cases met : (Kind.ofOpcode word).fault? before.state with
      | some fault => exact sound
      | none => exact Kind.effect_sound sound running (by omega) met _ _

lemma Session.sound_after {session : Session} (sound : session.machine.Sound) {command : Command}
    (elementary : command.isElementary = true) : (session.after command.perform).machine.Sound :=
  sound_invariant command _ _ sound (move_after elementary session)

/-- **Every reachable state is within its bounds**, after any sequence of operations with any
arguments, those that were refused included.  Consistency then is a matter of the program counter
alone. -/
theorem reachable_bounds {settings : Settings} {machine : Machine}
    (created : Machine.create settings = .ok machine) (commands : List Command) :
    let state := (Session.performAll { machine } commands).machine.state
    ((state.memory.size = 4096 ∧ ∀ cell ∈ state.memory, cell.toNat ≤ 255) ∧
      (state.registers.size = 16 ∧ ∀ value ∈ state.registers, 0 ≤ value ∧ value ≤ 255) ∧
      (0 ≤ state.index ∧ state.index ≤ 0xFFFF) ∧
      (0 ≤ state.delayTimer ∧ state.delayTimer ≤ 255) ∧
      (0 ≤ state.soundTimer ∧ state.soundTimer ≤ 255) ∧
      state.keypad.size = 16 ∧
      (state.screen.rows.size = 32 ∧ ∀ row ∈ state.screen.rows, row.size = 64) ∧
      (state.stack.length ≤ 48 ∧ ∀ address ∈ state.stack, 0 ≤ address ∧ address ≤ 4094) ∧
      (0 ≤ state.pc ∧ state.pc ≤ 0x10FE) ∧
      ∀ register, state.mode = .awaitingKey register →
        (0 ≤ register ∧ register ≤ 15) ∧ state.pc ≤ 4094) ∧
    (state.isConsistent = false ↔ state.pc % 2 = 1 ∨ 4094 < state.pc) := by
  intro state
  have initial : ({ machine } : Session).machine.Sound := Machine.create_sound created
  have sound : state.Sound :=
    (performAll_invariant (fun _ _ stage _ => sound_invariant stage) initial).state
  refine ⟨⟨⟨sound.memory_size, ?_⟩, ⟨sound.registers_size, sound.register_bounds⟩,
    sound.index_bounds, sound.delay_bounds, sound.sound_bounds, sound.keypad_size,
    ⟨rfl, fun _ _ => rfl⟩, ⟨sound.stack_length, sound.stack_bounds⟩, sound.pc_bounds,
    sound.waiting_bounds⟩, sound.isConsistent_eq_false⟩
  intro cell _
  exact Nat.le_of_lt_succ cell.toNat_lt

/-- The bound on the program counter is reached, by a jump to the end of memory and the largest offset
from there. -/
theorem reachable_bounds_tight :
    ∃ machine, Machine.create { random := .sequence (fun _ => 0) 0 } = .ok machine ∧
      let state := (Session.performAll { machine } [.load [0x60FF, 0xBFFF], .step, .step]).machine.state
      state.pc = 0x10FE ∧ state.isConsistent = false := by
  have created : Machine.create { random := .sequence (fun _ => 0) 0 } = .ok _ := rfl
  refine ⟨_, created, ?_⟩
  intro state
  have far : state.pc = 0x10FE := by
    unfold state
    decide +kernel
  refine ⟨far, (reachable_bounds created [.load [0x60FF, 0xBFFF], .step, .step]).2.2 (.inr ?_)⟩
  change 4094 < state.pc
  rw [far]
  decide

end Chip8
