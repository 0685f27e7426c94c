import Chip8.Proofs.Bounds
import Chip8.Proofs.Footprint

/-!
# Rows of registers in memory

A row of registers, from `V0` on, can be stored at the index and loaded from there; neither moves the index.
Addresses wrap in the same way for both, so the two undo each other wherever the index points, at the end of
memory and behind it too.  The digits of a register are a row of three bytes, which are loaded likewise.

Two facts carry all this.  What was stored is what is loaded, as long as it is bytes; and storing what is
there changes nothing.

* `State.byteAt_store`, `State.getElem?_load` — what was stored is read back, and what was loaded is there.
* `InstructionSet.execute_twice` — two instructions, one after the other; `store_then_load`,
  `load_then_store` — those of this module.
* **`rows_round_trip`** — a row of registers stored and loaded, or loaded and stored.
* **`digits_reload`** — the digits of a register stored and loaded.
-/

namespace Chip8

/-! ## Rows -/

namespace State

/-- The values of the registers before a given one. -/
def row (state : State) (count : Nat) : List Int := (List.range count).map state.reg

variable {state : State}

@[simp] lemma length_row (count : Nat) : (state.row count).length = count := by simp [row]

lemma getElem?_registers (shaped : state.Shaped) {register : Nat} (named : register < 16) :
    state.registers[register]? = some (state.reg register) := by
  have inside : register < state.registers.size := shaped.registers_size ▸ named
  simp [reg, inside]

lemma getElem?_memory (shaped : state.Shaped) (address : Int) :
    ∃ byte, state.memory[Memory.cell address]? = some byte ∧ state.byteAt address = byte.toNat := by
  have inside : Memory.cell address < state.memory.size := shaped.memory_size ▸ Memory.cell_lt address
  exact ⟨_, Array.getElem?_eq_getElem inside, by simp [byteAt, inside]⟩

/-- **What was stored is read back**, cut to bytes. -/
lemma byteAt_store (shaped : state.Shaped) (address : Int) {data : List Int}
    (fits : data.length ≤ memorySize) {offset : Nat} (inside : offset < data.length) :
    (state.store address data).byteAt (address + offset) = data[offset] % 256 := by
  have stored := Memory.getElem?_writeBlock state.memory address data shaped.memory_size fits inside
  obtain ⟨byte, there, same⟩ :=
    getElem?_memory ((shaped_store address data).2 shaped) (address + offset)
  obtain rfl := Option.some.inj (there.symm.trans stored)
  rw [same, Memory.toNat_byteOf]

/-- Registers are bytes, and nothing is cut off. -/
lemma byteAt_store_row (formed : state.WellFormed) (address : Int) {count register : Nat}
    (few : count ≤ 16) (inside : register < count) :
    (state.store address (state.row count)).byteAt (address + register) = state.reg register := by
  have bounds := formed.reg_bounds register
  have fits : (state.row count).length ≤ memorySize := by
    rw [length_row, memorySize]
    omega
  have among : register < (state.row count).length := by rwa [length_row]
  calc (state.store address (state.row count)).byteAt (address + register)
      = (state.row count)[register] % 256 := byteAt_store formed.shaped address fits among
    _ = state.reg register % 256 := by simp [row]
    _ = state.reg register := Int.emod_eq_of_lt bounds.1 (by omega)

/-- **What was loaded is there**, and the registers behind it are as they were. -/
lemma getElem?_load (shaped : state.Shaped) (address : Int) {count : Nat} (few : count ≤ 16)
    (register : Nat) :
    (state.load address (List.range count)).registers[register]? =
      if register < count then some (state.byteAt (address + register))
      else state.registers[register]? := by
  split_ifs with inside
  · induction count with
    | zero => cases inside
    | succ count ih =>
        have loaded := shaped_load shaped address (List.range count)
        rw [load, List.range_succ, List.foldl_append]
        by_cases last : register = count
        · subst last
          refine Array.getElem?_setIfInBounds_self_of_lt ?_
          exact lt_of_lt_of_eq few loaded.registers_size.symm
        · refine (Kind.put_register last _).trans ?_
          exact ih (by omega) (by omega)
  · exact Kind.load_register address (by simpa using inside)

/-- A row that was loaded is stored without a change. -/
lemma store_row_load (shaped : state.Shaped) (address : Int) {count : Nat} (few : count ≤ 16) :
    let loaded := state.load address (List.range count)
    loaded.memory.writeBlock address (loaded.row count) = state.memory := by
  intro loaded
  have memory : loaded.memory = state.memory := by
    obtain ⟨contents, framed⟩ := state.load_frame address (List.range count)
    simp only [loaded, framed]
  rw [memory]
  refine Memory.writeBlock_eq_self fun offset inside => ?_
  have below : offset < count := by rwa [length_row] at inside
  obtain ⟨byte, there, same⟩ := getElem?_memory shaped (address + offset)
  have held : loaded.registers[offset]? = some (byte.toNat : Int) := by
    rw [getElem?_load shaped address few, if_pos below, same]
  have kept : (loaded.row count)[offset] = byte.toNat := by simp [row, reg, held]
  rw [there, kept, Memory.byteOf_toNat]

/-- Two instructions later. -/
lemma past_twice (state : State) :
    state.past.counted.past.counted =
      { state with pc := state.pc + 4, cycleCount := state.cycleCount + 2 } := by
  simp [past, counted, Int.add_assoc]

end State

/-! ## One instruction after another -/

namespace InstructionSet

variable {set : InstructionSet} {state : State} (shaped : state.Shaped) {ins load : Instruction}
  (first second : Int)
include shaped

/-- **Two instructions that meet no fault are carried out one after the other.** -/
lemma execute_twice {kind next : Kind} (listed : kind ∈ set.kinds) (also : next ∈ set.kinds)
    (harmless : kind.fault? state = none)
    (later : next.fault? (kind.effect set.glyphBase first ins state).counted = none) :
    (do
      set.execute first kind ins
      set.execute second next load : Action Unit).run state =
      .ok () (next.effect set.glyphBase second load
        (kind.effect set.glyphBase first ins state).counted).counted := by
  have fits : (kind.effect set.glyphBase first ins state).counted.Shaped :=
    State.shaped_counted.2 (Kind.effect_shaped shaped _ _ _ _)
  rw [EStateM.run_bind, execute_run listed shaped, harmless]
  dsimp only
  rw [execute_run also fits, later]

/-- Registers that are loaded after a store come from the memory that was stored to. -/
lemma store_then_load {kind : Kind} (listed : kind ∈ set.kinds) (loads : .loadRegisters ∈ set.kinds)
    (harmless : kind.fault? state = none) {data : List Int}
    (effect : kind.effect set.glyphBase first ins state = (state.store state.index data).past) :
    let stored := state.store state.index data
    ∃ contents : Array Int,
      (do
        set.execute first kind ins
        set.execute second .loadRegisters load : Action Unit).run state =
        .ok () { stored with
          registers := contents, pc := state.pc + 4, cycleCount := state.cycleCount + 2 } ∧
      ∀ register : Nat, contents[register]? =
        if register < load.x + 1 then some (stored.byteAt (state.index + register))
        else state.registers[register]? := by
  intro stored
  have fits : stored.past.counted.Shaped := by simpa [stored] using shaped
  have contains := State.getElem?_load fits state.index load.x_lt
  obtain ⟨contents, framed⟩ := stored.past.counted.load_frame state.index (List.range (load.x + 1))
  rw [framed] at contains
  refine ⟨contents, ?_, contains⟩
  rw [execute_twice shaped first second listed loads harmless rfl, effect]
  show EStateM.Result.ok ()
    (stored.past.counted.load state.index (List.range (load.x + 1))).past.counted = _
  rw [framed]
  exact congrArg (EStateM.Result.ok ()) ({ stored with registers := contents } : State).past_twice

/-- Registers that were loaded are what is stored, and memory holds that already. -/
lemma load_then_store (stores : .storeRegisters ∈ set.kinds) (loads : .loadRegisters ∈ set.kinds)
    (same : load.x = ins.x) :
    ∃ contents : Array Int,
      (do
        set.execute first .loadRegisters load
        set.execute second .storeRegisters ins : Action Unit).run state =
        .ok () { state with
          registers := contents, pc := state.pc + 4, cycleCount := state.cycleCount + 2 } ∧
      ∀ register : Nat, contents[register]? =
        if register < load.x + 1 then some (state.byteAt (state.index + register))
        else state.registers[register]? := by
  let loaded := state.load state.index (List.range (load.x + 1))
  have contains := State.getElem?_load shaped state.index load.x_lt
  have kept := State.store_row_load shaped state.index load.x_lt
  obtain ⟨contents, framed⟩ := state.load_frame state.index (List.range (load.x + 1))
  rw [framed] at contains kept
  refine ⟨contents, ?_, contains⟩
  rw [execute_twice shaped first second loads stores rfl rfl]
  show EStateM.Result.ok ()
    (loaded.store loaded.index (loaded.row (ins.x + 1))).past.counted.past.counted = _
  rw [State.past_twice, ← same]
  simp only [loaded, framed, State.store]
  rw [kept]

end InstructionSet

/-! ## Registers -/

/-- **Storing a row of registers and loading it undo each other**, in either order, wherever the index
points.  After a store and a load the registers are as before, and their row lies at the index; after a load
and a store memory is as before, and so are the registers behind the row. -/
theorem rows_round_trip {state : State} (formed : state.WellFormed) {set : InstructionSet}
    (stores : .storeRegisters ∈ set.kinds) (loads : .loadRegisters ∈ set.kinds)
    {store load : Instruction} (same : load.x = store.x) (first second : Int) :
    (∃ after, (do
        set.execute first .storeRegisters store
        set.execute second .loadRegisters load : Action Unit).run state = .ok () after ∧
      (∀ register ≤ store.x, after.byteAt (state.index + register) = state.reg register) ∧
      (∀ cell : Nat, (∀ register ≤ store.x, (cell : Int) ≠ (state.index + register) % 4096) →
        after.memory[cell]? = state.memory[cell]?) ∧
      after = { state with
        memory := after.memory, pc := state.pc + 4, cycleCount := state.cycleCount + 2 }) ∧
    ∃ after, (do
        set.execute first .loadRegisters load
        set.execute second .storeRegisters store : Action Unit).run state = .ok () after ∧
      (∀ register ≤ load.x,
        after.registers[register]? = some (state.byteAt (state.index + register))) ∧
      (∀ register > load.x, after.registers[register]? = state.registers[register]?) ∧
      after = { state with
        registers := after.registers, pc := state.pc + 4, cycleCount := state.cycleCount + 2 } := by
  constructor
  · have held (register : Nat) (inside : register < store.x + 1) :=
      State.byteAt_store_row formed state.index store.x_lt inside
    obtain ⟨contents, run, contains⟩ :=
      InstructionSet.store_then_load formed.shaped first second stores loads rfl rfl
    have unchanged : contents = state.registers := by
      refine Array.ext_getElem? fun register => (contains register).trans ?_
      split_ifs with inside
      · rw [same] at inside
        have named := store.x_lt
        rw [State.getElem?_registers formed.shaped (by omega)]
        exact congrArg some (held register inside)
      · rfl
    subst unchanged
    refine ⟨_, run, fun register inside => held register (Nat.lt_succ_of_le inside),
      fun cell apart => ?_, rfl⟩
    refine Memory.getElem?_writeBlock_of_ne _ _ _ fun offset inside => apart offset ?_
    simpa [Nat.lt_succ_iff] using inside
  · obtain ⟨contents, run, contains⟩ :=
      InstructionSet.load_then_store formed.shaped first second stores loads same
    refine ⟨_, run, fun register inside => ?_, fun register behind => ?_, rfl⟩
    · exact (contains register).trans (if_pos (Nat.lt_succ_of_le inside))
    · exact (contains register).trans (if_neg (by omega))

/-- Five registers around the end of memory, with an index far behind it. -/
theorem rows_round_trip_wrapped :
    ∃ before stored loaded : State, before.index = 0xFFFE ∧
      (do
        InstructionSet.standard.execute 0 .storeRegisters ⟨0xF455⟩
        InstructionSet.standard.execute 0 .loadRegisters ⟨0xF465⟩ : Action Unit).run before =
          .ok () stored ∧
      stored.byteAt 4095 = 12 ∧ stored.byteAt 2 = 15 ∧ stored.memory[3]? = before.memory[3]? ∧
      stored.registers = before.registers ∧
      (do
        InstructionSet.standard.execute 0 .loadRegisters ⟨0xF465⟩
        InstructionSet.standard.execute 0 .storeRegisters ⟨0xF455⟩ : Action Unit).run before =
          .ok () loaded ∧
      loaded.registers[0]? = some 0 ∧ loaded.registers[5]? = some 16 ∧
      loaded.memory = before.memory := by
  let registers : Array Int := #[11, 12, 13, 14, 15, 16, 0, 0, 0, 0, 0, 0, 0, 0, 0, 0]
  have bytes : ∀ value ∈ registers, 0 ≤ value ∧ value ≤ 255 := by decide
  let before : State := { registers, index := 0xFFFE }
  have formed : before.WellFormed :=
    { State.Sound.cleared with
      registers_size := rfl, register_bounds := bytes, index_bounds := by decide }
  have stores : Kind.storeRegisters ∈ InstructionSet.standard.kinds := Kind.mem_all _
  have loads : Kind.loadRegisters ∈ InstructionSet.standard.kinds := Kind.mem_all _
  have same : (⟨0xF465⟩ : Instruction).x = (⟨0xF455⟩ : Instruction).x := by decide
  obtain ⟨⟨stored, ran, inside, outside, rest⟩, loaded, ran', row, behind, rest'⟩ :=
    rows_round_trip formed stores loads same 0 0
  refine ⟨before, stored, loaded, rfl, ran, inside 1 (by decide), inside 4 (by decide),
    outside 3 ?_, by rw [rest], ran', ?_, behind 5 (by decide), by rw [rest']⟩
  · intro register few
    have small : register ≤ 4 := few
    change ((3 : Nat) : Int) ≠ (0xFFFE + register) % 4096
    omega
  · refine (row 0 (by decide)).trans (congrArg some ?_)
    simp [State.byteAt, before, Memory.zeroed, Memory.cell_lt]

/-! ## Digits -/

/-- The hundreds, the tens and the ones of a byte. -/
def digitsOf (value : Int) : List Int := [value / 100, value / 10 % 10, value % 10]

lemma length_digitsOf (value : Int) : (digitsOf value).length = 3 := rfl

/-- **The digits of a register are stored and loaded**: the first three registers are then the hundreds, the
tens and the ones, the others are as before, and memory has changed at most where the digits lie. -/
theorem digits_reload {state : State} (formed : state.WellFormed) {set : InstructionSet}
    (stores : .storeDigits ∈ set.kinds) (loads : .loadRegisters ∈ set.kinds) (store : Instruction)
    {load : Instruction} (three : load.x = 2) (first second : Int) :
    ∃ after, (do
        set.execute first .storeDigits store
        set.execute second .loadRegisters load : Action Unit).run state = .ok () after ∧
      (∃ hundreds tens ones : Int,
        after.registers[0]? = some hundreds ∧ after.registers[1]? = some tens ∧
        after.registers[2]? = some ones ∧ (0 ≤ hundreds ∧ hundreds ≤ 9) ∧ (0 ≤ tens ∧ tens ≤ 9) ∧
        (0 ≤ ones ∧ ones ≤ 9) ∧ 100 * hundreds + 10 * tens + ones = state.reg store.x) ∧
      (∀ register ≥ 3, after.registers[register]? = state.registers[register]?) ∧
      (∀ cell : Nat, after.memory[cell]? ≠ state.memory[cell]? →
        ∃ offset : Nat, offset ≤ 2 ∧ (cell : Int) = (state.index + offset) % 4096) ∧
      after = { state with
        memory := after.memory, registers := after.registers
        pc := state.pc + 4, cycleCount := state.cycleCount + 2 } := by
  have bounds := formed.reg_bounds store.x
  generalize known : digitsOf (state.reg store.x) = digits
  have length : digits.length = 3 := by rw [← known, length_digitsOf]
  have effect : Kind.storeDigits.effect set.glyphBase first store state =
      (state.store state.index digits).past := by
    rw [← known]
    rfl
  obtain ⟨contents, run, contains⟩ :=
    InstructionSet.store_then_load formed.shaped first second stores loads rfl effect
  rw [three] at contains
  have digit (register : Nat) (few : register < digits.length) :
      contents[register]? = some (digits[register] % 256) := by
    rw [contains, if_pos (by omega),
      State.byteAt_store formed.shaped state.index (by rw [length]; decide) few]
  refine ⟨_, run, ⟨_, _, _, digit 0 (by omega), digit 1 (by omega), digit 2 (by omega), ?_⟩,
    fun register behind => ?_, fun cell changed => ?_, rfl⟩
  · subst known
    simp only [digitsOf, List.getElem_cons_zero, List.getElem_cons_succ]
    omega
  · exact (contains register).trans (if_neg (by omega))
  · by_contra apart
    push Not at apart
    exact changed (Memory.getElem?_writeBlock_of_ne _ _ _ fun offset few => apart offset (by omega))

/-- 254 in `V1`, which is loaded again, with the last cell of memory at the index. -/
theorem digits_reload_wrapped :
    ∃ before after : State, before.index = 4095 ∧ before.reg 1 = 254 ∧
      (do
        InstructionSet.standard.execute 0 .storeDigits ⟨0xF133⟩
        InstructionSet.standard.execute 0 .loadRegisters ⟨0xF265⟩ : Action Unit).run before =
          .ok () after ∧
      after.registers[0]? = some 2 ∧ after.registers[1]? = some 5 ∧ after.registers[2]? = some 4 ∧
      after.registers[3]? = some 9 ∧ after.memory[2]? = before.memory[2]? := by
  let registers : Array Int := #[7, 254, 8, 9, 0, 0, 0, 0, 0, 0, 0, 0, 0, 0, 0, 0]
  have bytes : ∀ value ∈ registers, 0 ≤ value ∧ value ≤ 255 := by decide
  let before : State := { registers, index := 4095 }
  have formed : before.WellFormed :=
    { State.Sound.cleared with
      registers_size := rfl, register_bounds := bytes, index_bounds := by decide }
  have stores : Kind.storeDigits ∈ InstructionSet.standard.kinds := Kind.mem_all _
  have loads : Kind.loadRegisters ∈ InstructionSet.standard.kinds := Kind.mem_all _
  have three : (⟨0xF265⟩ : Instruction).x = 2 := by decide
  obtain ⟨after, ran, ⟨hundreds, tens, ones, v0, v1, v2, _, _, _, sum⟩, behind, touched, -⟩ :=
    digits_reload formed stores loads ⟨0xF133⟩ three 0 0
  change 100 * hundreds + 10 * tens + ones = 254 at sum
  obtain ⟨rfl, rfl, rfl⟩ : hundreds = 2 ∧ tens = 5 ∧ ones = 4 := by omega
  refine ⟨before, after, rfl, rfl, ran, v0, v1, v2, behind 3 (by decide), ?_⟩
  by_contra changed
  obtain ⟨offset, few, place⟩ := touched 2 changed
  change ((2 : Nat) : Int) = (4095 + offset) % 4096 at place
  omega

end Chip8
