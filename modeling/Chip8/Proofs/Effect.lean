import Chip8.InstructionSet
import Chip8.State.Lemmas
import Mathlib.Tactic.Common

/-!
# Instructions as functions on states

`Kind.perform` is a program: it looks things up, checks that they are there, and stops half-way when
they are not.  On a state whose memory, registers and keypad have their proper sizes nothing is ever
missing, and each instruction is one of two things: a fault that changes nothing, or a function from
states to states.

* `State.Shaped` — the three sizes, and nothing about the values in them.
* `Kind.fault?` — the fault that a kind of instruction meets: a call on a full stack, a return from an
  empty one.
* `Kind.effect` — the state afterwards if there is no such fault.
* **`Kind.perform_run`**, `InstructionSet.execute_run` — the program is these two functions.  Every
  later fact about a single instruction is read off them.
* `Kind.perform_run_call`, `Kind.perform_run_ret` — calls and returns do not need the sizes.
-/

namespace Chip8

/-! ## Shapes -/

/-- Memory, registers and keypad have the sizes of the machine. -/
structure State.Shaped (state : State) : Prop where
  memory_size : state.memory.size = memorySize
  registers_size : state.registers.size = registerCount
  keypad_size : state.keypad.size = keyCount

namespace State

variable {state : State}

lemma WellFormed.shaped (formed : state.WellFormed) : state.Shaped :=
  ⟨formed.memory_size, formed.registers_size, formed.keypad_size⟩

/-- The value of a register. -/
def reg (state : State) (register : Nat) : Int := state.registers.getD register 0

/-- The byte at an address. -/
def byteAt (state : State) (address : Int) : Int :=
  (state.memory.getD (Memory.cell address) 0).toNat

/-- Whether the key that a value names by its low four bits is pressed. -/
def keyAt (state : State) (value : Int) : Bool := state.keypad.getD (value % 16).toNat false

/-- The state with another value in a register. -/
def put (state : State) (register : Nat) (value : Int) : State :=
  { state with registers := state.registers.setIfInBounds register value }

/-- The state with the flag register set to one or zero. -/
def flag (state : State) (condition : Bool) : State :=
  state.put flagRegister (if condition then 1 else 0)

/-- The state with bytes stored from an address on. -/
def store (state : State) (address : Int) (data : List Int) : State :=
  { state with memory := state.memory.writeBlock address data }

/-- The state with another screen. -/
def paint (state : State) (screen : Screen screenWidth screenHeight) : State :=
  { state with screen }

/-- The state with the program counter moved past an instruction, or past two. -/
def past (state : State) (amount : Int := 2) : State := { state with pc := state.pc + amount }

/-- The state with bytes from an address on loaded into the registers from `V0` on. -/
def load (state : State) (address : Int) (registers : List Nat) : State :=
  registers.foldl (fun loaded register => loaded.put register (state.byteAt (address + register)))
    state

/-- Loading registers changes nothing else. -/
lemma load_frame (state : State) (address : Int) (registers : List Nat) :
    ∃ contents, state.load address registers = { state with registers := contents } := by
  suffices general : ∀ loaded : State, ∃ contents,
      registers.foldl (fun loaded (register : Nat) =>
        loaded.put register (state.byteAt (address + register))) loaded =
          { loaded with registers := contents } from general state
  induction registers with
  | nil => exact fun loaded => ⟨loaded.registers, rfl⟩
  | cons register rest ih => exact fun loaded => ih _

/-! ### Updates keep the shape -/

@[simp] lemma shaped_put (register : Nat) (value : Int) :
    (state.put register value).Shaped ↔ state.Shaped :=
  ⟨fun ⟨m, r, k⟩ => ⟨m, by simpa [put] using r, k⟩, fun ⟨m, r, k⟩ => ⟨m, by simpa [put] using r, k⟩⟩

@[simp] lemma shaped_flag (condition : Bool) : (state.flag condition).Shaped ↔ state.Shaped :=
  shaped_put _ _

@[simp] lemma shaped_store (address : Int) (data : List Int) :
    (state.store address data).Shaped ↔ state.Shaped :=
  ⟨fun ⟨m, r, k⟩ => ⟨by simpa [store] using m, r, k⟩, fun ⟨m, r, k⟩ => ⟨by simpa [store] using m, r, k⟩⟩

@[simp] lemma shaped_paint (screen : Screen screenWidth screenHeight) :
    (state.paint screen).Shaped ↔ state.Shaped :=
  ⟨fun ⟨m, r, k⟩ => ⟨m, r, k⟩, fun ⟨m, r, k⟩ => ⟨m, r, k⟩⟩

@[simp] lemma shaped_past (amount : Int) : (state.past amount).Shaped ↔ state.Shaped :=
  ⟨fun ⟨m, r, k⟩ => ⟨m, r, k⟩, fun ⟨m, r, k⟩ => ⟨m, r, k⟩⟩

lemma shaped_load (shaped : state.Shaped) (address : Int) (registers : List Nat) :
    (state.load address registers).Shaped := by
  suffices general : ∀ loaded : State, loaded.Shaped →
      (registers.foldl (fun loaded (register : Nat) =>
        loaded.put register (state.byteAt (address + register))) loaded).Shaped from
    general state shaped
  induction registers with
  | nil => exact fun _ loaded => loaded
  | cons register rest ih => exact fun _ loaded => ih _ ((shaped_put _ _).2 loaded)

/-! ### The actions of the state on a state of the right shape -/

lemma registerAt_shaped (shaped : state.Shaped) {register : Nat} (named : register < 16) :
    (registerAt register).run state = .ok (state.reg register) state := by
  have inside : register < state.registers.size := shaped.registers_size ▸ named
  rw [registerAt_run inside, reg, Array.getD_eq_getD_getElem?, Array.getElem?_eq_getElem inside]
  rfl

lemma setRegister_shaped (shaped : state.Shaped) {register : Nat} (named : register < 16)
    (value : Int) :
    (setRegister register value).run state = .ok () (state.put register (value % 256)) :=
  setRegister_run named (shaped.registers_size ▸ named) value

lemma setFlag_shaped (shaped : state.Shaped) (condition : Bool) :
    (setFlag condition).run state = .ok () (state.flag condition) :=
  setFlag_run (by rw [shaped.registers_size]; decide) condition

lemma readByte_shaped (shaped : state.Shaped) (address : Int) :
    (readByte address).run state = .ok (state.byteAt address) state :=
  readByte_run shaped.memory_size address

lemma writeByte_shaped (shaped : state.Shaped) (address value : Int) :
    (writeByte address value).run state = .ok () (state.store address [value]) :=
  writeByte_run shaped.memory_size address value

lemma advance_past (amount : Int) : (advance amount).run state = .ok () (state.past amount) := rfl

lemma modify_paint (screen : Screen screenWidth screenHeight) :
    (modify fun state => { state with screen } : Action Unit).run state =
      .ok () (state.paint screen) := rfl

lemma keyNamedBy_shaped (shaped : state.Shaped) {register : Nat} (named : register < 16) :
    (keyNamedBy register).run state = .ok (state.keyAt (state.reg register)) state := by
  have inside : (state.reg register % 16).toNat < state.keypad.size := by
    rw [shaped.keypad_size, keyCount]; omega
  simp only [keyNamedBy, EStateM.run_bind, registerAt_shaped shaped named, EStateM.run_get]
  rw [keyAt, Array.getD_eq_getD_getElem?, Array.getElem?_eq_getElem inside]
  rfl

/-! ### Loops -/

lemma readBlock_shaped (shaped : state.Shaped) (address : Int) (count : Nat) :
    (readBlock address count).run state =
      .ok ((List.range count).map fun (offset : Nat) => state.byteAt (address + offset)) state := by
  rw [readBlock]
  induction List.range count with
  | nil => rfl
  | cons offset rest ih =>
      rw [List.mapM_cons]
      simp only [EStateM.run_bind, readByte_shaped shaped, ih, EStateM.run_pure, List.map_cons]

/-- Two stores, the second one behind the first, are one. -/
lemma store_append (state : State) (address : Int) (first second : List Int) :
    (state.store address first).store (address + first.length) second =
      state.store address (first ++ second) := by
  induction first generalizing state address with
  | nil => simp [store, Memory.writeBlock]
  | cons value rest ih =>
      have := ih (state.store address [value]) (address + 1)
      simp only [store, Memory.writeBlock, List.length_cons, List.cons_append] at this ⊢
      rw [← this]
      congr 2
      push_cast
      omega

lemma storeRegisters_loop (shaped : state.Shaped) (start count : Nat) (named : start + count ≤ 16) :
    ((List.range' start count).forM fun register => do
        let value ← registerAt register
        writeByte ((← get).index + register) value).run state =
      .ok () (state.store (state.index + start) ((List.range' start count).map state.reg)) := by
  induction count generalizing state start with
  | zero => rfl
  | succ count ih =>
      have stored := ih (shaped_store (state.index + start) [state.reg start] |>.2 shaped) (start + 1)
        (by omega)
      simp only [List.forM_eq_forM] at stored ⊢
      simp only [List.range'_succ, List.forM_cons, EStateM.run_bind, EStateM.run_get,
        registerAt_shaped shaped (show start < 16 by omega), writeByte_shaped shaped, List.map_cons]
      have joined := store_append state (state.index + start) [state.reg start]
        ((List.range' (start + 1) count).map state.reg)
      rw [show state.index + start + ([state.reg start].length : Int) =
        state.index + (start + 1 : Nat) by push_cast [List.length_singleton]; omega] at joined
      exact stored.trans (congrArg _ joined)

lemma loadRegisters_loop (shaped : state.Shaped) (registers : List Nat)
    (named : ∀ register ∈ registers, register < 16) :
    (registers.forM fun register => do
        let value ← readByte ((← get).index + register)
        setRegister register value).run state =
      .ok () (state.load state.index registers) := by
  -- only the registers change on the way, so every byte is the one at the start
  suffices general : ∀ loaded : State, loaded.Shaped → loaded.index = state.index →
      loaded.memory = state.memory →
      (registers.forM fun register => do
          let value ← readByte ((← get).index + register)
          setRegister register value).run loaded =
        .ok () (registers.foldl (fun loaded (register : Nat) =>
          loaded.put register (state.byteAt (state.index + register))) loaded) from
    general state shaped rfl rfl
  induction registers with
  | nil => intros; rfl
  | cons register rest ih =>
      intro loaded fits index memory
      have byte : loaded.byteAt (loaded.index + register) % 256 =
          state.byteAt (state.index + register) := by
        rw [byteAt, index, memory, byteAt]
        have := (state.memory.getD (Memory.cell (state.index + register)) 0).toNat_lt
        omega
      have here : register < 16 := named register (by simp)
      simp only [List.forM_eq_forM] at ih ⊢
      simp only [List.forM_cons, EStateM.run_bind, EStateM.run_get, readByte_shaped fits,
        setRegister_shaped fits here, byte, List.foldl_cons]
      exact ih (fun other member => named other (by simp [member])) _ ((shaped_put _ _).2 fits) index
        memory

end State

/-! ## Faults and effects -/

/-- The fault that an instruction meets. -/
def Kind.fault? (state : State) : Kind → Option Fault
  | call =>
    if stackCapacity ≤ state.stack.length then
      some (.stackOverflow (state.pc % memorySize) state.pc)
    else none
  | ret => if state.stack = [] then some (.stackUnderflow state.pc) else none
  | _ => none

/-- Only calls and returns meet faults. -/
lemma Kind.fault?_cases {state : State} {kind : Kind} {fault : Fault}
    (met : kind.fault? state = some fault) :
    kind = .call ∧ fault = .stackOverflow (state.pc % memorySize) state.pc ∨
      kind = .ret ∧ fault = .stackUnderflow state.pc := by
  cases kind with
  | call =>
      rw [fault?] at met
      split_ifs at met
      exact .inl ⟨rfl, (Option.some.inj met).symm⟩
  | ret =>
      rw [fault?] at met
      split_ifs at met
      exact .inr ⟨rfl, (Option.some.inj met).symm⟩
  | _ => cases met

open State in
/-- The state after an instruction that meets no fault. -/
def Kind.effect (glyphBase byte : Int) (ins : Instruction) (state : State) : Kind → State
  | clear => (state.paint state.screen.clear).past
  | ret => { state with stack := state.stack.tail, pc := state.stack.headD 0 + 2 }
  | jump => { state with pc := ins.nnn }
  | call => { state with stack := state.pc % memorySize :: state.stack, pc := ins.nnn }
  | skipEqByte => state.past (if state.reg ins.x = ins.nn then 4 else 2)
  | skipNeByte => state.past (if state.reg ins.x ≠ ins.nn then 4 else 2)
  | skipEqReg => state.past (if state.reg ins.x = state.reg ins.y then 4 else 2)
  | skipNeReg => state.past (if state.reg ins.x ≠ state.reg ins.y then 4 else 2)
  | skipPressed => state.past (if state.keyAt (state.reg ins.x) then 4 else 2)
  | skipReleased => state.past (if state.keyAt (state.reg ins.x) = false then 4 else 2)
  | setByte => (state.put ins.x (ins.nn % 256)).past
  | addByte => (state.put ins.x ((state.reg ins.x + ins.nn) % 256)).past
  | copy => (state.put ins.x (state.reg ins.y % 256)).past
  | or =>
    (state.put ins.x ((lowByte (state.reg ins.x) ||| lowByte (state.reg ins.y) : Nat) % 256)).past
  | and =>
    (state.put ins.x ((lowByte (state.reg ins.x) &&& lowByte (state.reg ins.y) : Nat) % 256)).past
  | xor =>
    (state.put ins.x ((lowByte (state.reg ins.x) ^^^ lowByte (state.reg ins.y) : Nat) % 256)).past
  | add =>
    let sum := state.reg ins.x + state.reg ins.y
    ((state.put ins.x (sum % 256)).flag (255 < sum)).past
  | subtract =>
    ((state.put ins.x ((state.reg ins.x - state.reg ins.y) % 256)).flag
      (state.reg ins.y ≤ state.reg ins.x)).past
  | subtractFrom =>
    ((state.put ins.x ((state.reg ins.y - state.reg ins.x) % 256)).flag
      (state.reg ins.x ≤ state.reg ins.y)).past
  | shiftRight =>
    ((state.put ins.x (state.reg ins.x / 2 % 256)).flag (state.reg ins.x % 2 == 1)).past
  | shiftLeft =>
    ((state.put ins.x (2 * state.reg ins.x % 256)).flag (state.reg ins.x / 128 % 2 == 1)).past
  | setIndex => { state with index := ins.nnn }.past
  | jumpOffset => { state with pc := ins.nnn + state.reg 0 }
  | random => (state.put ins.x ((lowByte byte &&& ins.nn : Nat) % 256)).past
  | draw =>
    let rows := (List.range ins.n).map fun (row : Nat) => state.byteAt (state.index + row)
    let drawn := state.screen.drawSprite (state.reg ins.x) (state.reg ins.y) rows
    ((state.paint drawn.2).flag drawn.1).past
  | readDelay => (state.put ins.x (state.delayTimer % 256)).past
  | awaitKey => { state with mode := .awaitingKey ins.x }
  | setDelay => { state with delayTimer := state.reg ins.x }.past
  | setSound => { state with soundTimer := state.reg ins.x }.past
  | addIndex => { state with index := (state.index + state.reg ins.x) % 65536 }.past
  | pointGlyph => { state with index := glyphBase + glyphSize * state.reg ins.x }.past
  | storeDigits =>
    let value := state.reg ins.x
    (state.store state.index [value / 100, value / 10 % 10, value % 10]).past
  | storeRegisters =>
    (state.store state.index ((List.range (ins.x + 1)).map state.reg)).past
  | loadRegisters => (state.load state.index (List.range (ins.x + 1))).past
  | invalid => state.past

section

variable {state : State} (glyphBase byte : Int) (ins : Instruction)

open State

/-- A call looks at the stack alone, so the shape does not matter. -/
lemma Kind.perform_run_call :
    (call.perform glyphBase byte ins).run state =
      match call.fault? state with
      | some fault => .error (.fault fault) state
      | none => .ok () (call.effect glyphBase byte ins state) := by
  simp only [perform, fault?, effect, EStateM.run_bind, EStateM.run_get]
  by_cases room : stackCapacity ≤ state.stack.length
  · rw [push_run_full room, if_pos room]
  · rw [push_run (Nat.lt_of_not_le room), if_neg room]
    rfl

/-- Nor does it matter to a return. -/
lemma Kind.perform_run_ret :
    (ret.perform glyphBase byte ins).run state =
      match ret.fault? state with
      | some fault => .error (.fault fault) state
      | none => .ok () (ret.effect glyphBase byte ins state) := by
  simp only [perform, fault?, effect, EStateM.run_bind]
  cases top : state.stack with
  | nil => rw [pop_run_nil top, if_pos rfl]
  | cons address rest =>
      rw [pop_run_cons top, if_neg (List.cons_ne_nil address rest)]
      rfl

end

open State in
/-- **An instruction is its fault or its effect.** -/
theorem Kind.perform_run {state : State} (shaped : state.Shaped) (glyphBase byte : Int)
    (ins : Instruction) (kind : Kind) :
    (kind.perform glyphBase byte ins).run state =
      match kind.fault? state with
      | some fault => .error (.fault fault) state
      | none => .ok () (kind.effect glyphBase byte ins state) := by
  have hx : ins.x < 16 := ins.x_lt
  have hy : ins.y < 16 := ins.y_lt
  cases kind with
  | call => exact perform_run_call glyphBase byte ins
  | ret => exact perform_run_ret glyphBase byte ins
  | draw =>
      simp only [perform, fault?, effect, drawSprite, EStateM.run_bind, EStateM.run_get,
        readBlock_shaped shaped, registerAt_shaped shaped hx, registerAt_shaped shaped hy,
        modify_paint, setFlag_shaped, shaped_paint, shaped, advance_past]
  | storeDigits =>
      have two (a b : Int) : (state.store state.index [a]).store (state.index + 1) [b] =
          state.store state.index [a, b] := store_append _ _ [a] [b]
      have three (a b c : Int) : (state.store state.index [a, b]).store (state.index + 2) [c] =
          state.store state.index [a, b, c] := store_append _ _ [a, b] [c]
      simp only [perform, fault?, effect, State.storeDigits, EStateM.run_bind, EStateM.run_get,
        registerAt_shaped shaped hx, writeByte_shaped, shaped, shaped_store, advance_past, two, three]
  | storeRegisters =>
      have stored := storeRegisters_loop shaped 0 (ins.x + 1) (by omega)
      simp only [perform, fault?, effect, State.storeRegisters, EStateM.run_bind,
        List.range_eq_range', stored, advance_past, Int.natCast_zero, Int.add_zero]
  | loadRegisters =>
      have loaded := loadRegisters_loop shaped (List.range (ins.x + 1)) fun register member => by
        have := List.mem_range.1 member
        omega
      simp only [perform, fault?, effect, State.loadRegisters, EStateM.run_bind, loaded, advance_past]
  | clear | jump | setIndex | awaitKey | invalid => rfl
  | skipEqByte | skipNeByte | skipEqReg | skipNeReg | skipPressed | skipReleased =>
      simp [perform, fault?, effect, skipIf, registerAt_shaped shaped hx,
        registerAt_shaped shaped hy, keyNamedBy_shaped shaped hx, advance_past]
  | setByte | addByte | random | readDelay | jumpOffset | setDelay | setSound | addIndex | pointGlyph =>
      simp [perform, fault?, effect, registerAt_shaped shaped, hx, setRegister_shaped shaped hx,
        advance_past, setIndex_run, jumpTo_run]
  | copy | or | and | xor =>
      simp [perform, fault?, effect, combine, registerAt_shaped shaped hx,
        registerAt_shaped shaped hy, setRegister_shaped shaped hx, advance_past]
  | add | subtract | subtractFrom | shiftRight | shiftLeft =>
      simp [perform, fault?, effect, addRegisters, subtractRegisters, subtractReversed,
        State.shiftRight, State.shiftLeft, storeWithFlag, registerAt_shaped shaped hx,
        registerAt_shaped shaped hy, setRegister_shaped shaped hx, setFlag_shaped, shaped, advance_past]

/-- An instruction keeps the shape. -/
lemma Kind.effect_shaped {state : State} (shaped : state.Shaped) (glyphBase byte : Int)
    (ins : Instruction) (kind : Kind) : (kind.effect glyphBase byte ins state).Shaped := by
  cases kind with
  | ret | jump | call | setIndex | jumpOffset | awaitKey | setDelay | setSound | addIndex | pointGlyph =>
      exact ⟨shaped.memory_size, shaped.registers_size, shaped.keypad_size⟩
  | loadRegisters => exact (State.shaped_past _).2 (State.shaped_load shaped _ _)
  | _ => simpa [effect] using shaped

/-- An instruction itself does not count. -/
lemma Kind.effect_cycleCount (glyphBase byte : Int) (ins : Instruction) (state : State) (kind : Kind) :
    (kind.effect glyphBase byte ins state).cycleCount = state.cycleCount := by
  cases kind with
  | loadRegisters =>
      obtain ⟨contents, loaded⟩ := state.load_frame state.index (List.range (ins.x + 1))
      rw [effect, loaded]
      rfl
  | _ => rfl

/-! ## Counted instructions -/

/-- The state with one more instruction counted. -/
def State.counted (state : State) : State := { state with cycleCount := state.cycleCount + 1 }

@[simp] lemma State.shaped_counted {state : State} : state.counted.Shaped ↔ state.Shaped :=
  ⟨fun ⟨m, r, k⟩ => ⟨m, r, k⟩, fun ⟨m, r, k⟩ => ⟨m, r, k⟩⟩

namespace InstructionSet

variable {set : InstructionSet} {kind : Kind}

lemma execute_run_unlisted (unlisted : kind ∉ set.kinds) (byte : Int) (ins : Instruction)
    (state : State) :
    (set.execute byte kind ins).run state = .error (.unknownKind kind.label) state := by
  rw [execute_eq, if_neg unlisted]
  rfl

lemma execute_run_of_perform {state : State} {byte : Int} {ins : Instruction}
    (listed : kind ∈ set.kinds)
    (performed : (kind.perform set.glyphBase byte ins).run state =
      match kind.fault? state with
      | some fault => .error (.fault fault) state
      | none => .ok () (kind.effect set.glyphBase byte ins state)) :
    (set.execute byte kind ins).run state =
      match kind.fault? state with
      | some fault => .error (.fault fault) state
      | none => .ok () (kind.effect set.glyphBase byte ins state).counted := by
  rw [execute_eq, if_pos listed, EStateM.run_bind, performed]
  cases kind.fault? state with
  | none => rfl
  | some fault => rfl

/-- A fault is met before anything is changed, and it is not counted. -/
theorem execute_run {state : State} (listed : kind ∈ set.kinds) (shaped : state.Shaped) (byte : Int)
    (ins : Instruction) :
    (set.execute byte kind ins).run state =
      match kind.fault? state with
      | some fault => .error (.fault fault) state
      | none => .ok () (kind.effect set.glyphBase byte ins state).counted :=
  execute_run_of_perform listed (Kind.perform_run shaped _ _ _ _)

end InstructionSet

end Chip8
