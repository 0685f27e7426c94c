import Chip8.State.Lemmas
import Mathlib.Order.Bounds.Basic
import Mathlib.Tactic.Common

/-!
# Blocks in memory

A block of values is stored cell by cell.  Addresses wrap, so a block that is longer than memory comes round
to cells that it has written already, and what is left in a cell is the value that came last.

* `Memory.toNat_byteOf`, `Memory.byteOf_toNat` — values as bytes.
* `Memory.writeBlock_append` — a block can be cut anywhere.
* `Memory.getElem?_writeBlock_of_ne` — the cells that no value reaches.
* **`Memory.getElem?_writeBlock_last`** — a cell that is reached, by the last value that reaches it;
  `Memory.getElem?_writeBlock` — in a block that fits, every value is the last.
* `Memory.getElem?_writeBlock_unwrapped` — memory after a store that does not come round.
* `Memory.writeBlock_eq_self` — storing what is there changes nothing.
* `Memory.landings` — the positions in a block whose values reach a cell.
* **`State.last_write_wins`** — what is in memory after a store, cell by cell.
-/

namespace Chip8

namespace Memory

/-! ## Bytes -/

lemma toNat_byteOf (value : Int) : ((byteOf value).toNat : Int) = value % 256 := by
  rw [byteOf, UInt8.toNat_ofNat']
  omega

lemma byteOf_toNat (byte : UInt8) : byteOf byte.toNat = byte := by
  have bound := byte.toNat_lt
  rw [byteOf, ← UInt8.toNat_inj, UInt8.toNat_ofNat']
  omega

/-! ## Cells -/

lemma cell_eq_iff {address : Int} {position : Nat} :
    cell address = position ↔ address % memorySize = position := by
  have := Int.emod_nonneg address (show (memorySize : Int) ≠ 0 by decide)
  unfold cell
  omega

/-- A block can be cut anywhere. -/
lemma writeBlock_append (memory : Memory) (address : Int) (first second : List Int) :
    memory.writeBlock address (first ++ second) =
      (memory.writeBlock address first).writeBlock (address + first.length) second := by
  induction first generalizing memory address with
  | nil => simp [writeBlock]
  | cons value rest ih =>
      have next : address + ((rest.length + 1 : Nat) : Int) = address + 1 + rest.length := by omega
      rw [List.cons_append, writeBlock, ih, writeBlock, List.length_cons, next]

/-- A block store keeps the cells that it does not reach. -/
lemma getElem?_writeBlock_of_ne (memory : Memory) (address : Int) (data : List Int) {cell : Nat}
    (apart : ∀ offset < data.length, (cell : Int) ≠ (address + offset) % memorySize) :
    (memory.writeBlock address data)[cell]? = memory[cell]? := by
  induction data generalizing memory address with
  | nil => rfl
  | cons value rest ih =>
      have here : Memory.cell address ≠ cell := by
        intro same
        refine apart 0 (by simp) ?_
        rw [Int.natCast_zero, Int.add_zero, cell_eq_iff.1 same]
      rw [writeBlock, ih, write, Array.getElem?_setIfInBounds_ne here]
      intro offset inside
      have later := apart (offset + 1) (by simpa using inside)
      rwa [show address + ((offset + 1 : Nat) : Int) = address + 1 + offset by omega] at later

/-- **What is left in a cell is the value that came last.** -/
lemma getElem?_writeBlock_last (memory : Memory) (address : Int) (data : List Int)
    (full : memory.size = memorySize) {position cell : Nat} (inside : position < data.length)
    (here : (address + position) % memorySize = cell)
    (last : ∀ later, position < later → later < data.length →
      (address + later) % memorySize ≠ cell) :
    (memory.writeBlock address data)[cell]? = some (byteOf data[position]) := by
  have cut : data = data.take position ++ data[position] :: data.drop (position + 1) := by
    rw [← List.drop_eq_getElem_cons inside, List.take_append_drop]
  have before : (data.take position).length = position := by
    rw [List.length_take]
    omega
  -- up to the position anything may have been stored, and behind it nothing reaches the cell again
  generalize earlier : memory.writeBlock address (data.take position) = stored
  have size : stored.size = memorySize := by rw [← earlier, size_writeBlock, full]
  calc (memory.writeBlock address data)[cell]?
      = ((stored.write (address + position) data[position]).writeBlock (address + position + 1)
          (data.drop (position + 1)))[cell]? := by
        conv_lhs => rw [cut]
        rw [writeBlock_append, before, earlier, writeBlock]
    _ = (stored.write (address + position) data[position])[cell]? := by
        refine getElem?_writeBlock_of_ne _ _ _ fun offset few => ?_
        rw [List.length_drop] at few
        have apart := last (position + 1 + offset) (by omega) (by omega)
        rw [show address + ((position + 1 + offset : Nat) : Int) = address + position + 1 + offset by
          omega] at apart
        exact apart.symm
    _ = some (byteOf data[position]) := by
        have reached : Memory.cell (address + position) = cell := cell_eq_iff.2 here
        have bound : cell < stored.size := by rw [size, ← reached]; exact cell_lt _
        rw [write, reached, Array.getElem?_setIfInBounds_self_of_lt bound]

/-- A block that is not longer than memory puts each of its values into one cell. -/
lemma getElem?_writeBlock (memory : Memory) (address : Int) (data : List Int)
    (full : memory.size = memorySize) (fits : data.length ≤ memorySize) {offset : Nat}
    (inside : offset < data.length) :
    (memory.writeBlock address data)[cell (address + offset)]? = some (byteOf data[offset]) := by
  have here := cell_eq_iff.1 (rfl : cell (address + offset) = _)
  refine memory.getElem?_writeBlock_last address data full inside here fun later behind few => ?_
  change data.length ≤ 4096 at fits
  change (address + offset) % 4096 = _ at here
  change (address + later) % 4096 ≠ _
  omega

/-- A block that ends before memory does lies where it was put, and all around it is kept. -/
lemma getElem?_writeBlock_unwrapped (memory : Memory) {start : Nat} {data : List Int}
    (full : memory.size = memorySize) (fits : start + data.length ≤ memorySize) (cell : Nat) :
    (memory.writeBlock start data)[cell]? =
      if start ≤ cell ∧ cell < start + data.length then data[cell - start]?.map byteOf
      else memory[cell]? := by
  change start + data.length ≤ 4096 at fits
  split_ifs with among
  · have inside : cell - start < data.length := by omega
    have place : Memory.cell (start + (cell - start : Nat)) = cell := by
      change ((start + ((cell - start : Nat) : Int)) % 4096).toNat = cell
      omega
    have stored := memory.getElem?_writeBlock start data full (by change _ ≤ 4096; omega) inside
    rw [place] at stored
    rw [stored, List.getElem?_eq_getElem inside, Option.map_some]
  · refine getElem?_writeBlock_of_ne _ _ _ fun offset inside => ?_
    change (cell : Int) ≠ (start + offset) % 4096
    omega

/-- **Storing bytes that are there already changes nothing.** -/
lemma writeBlock_eq_self {memory : Memory} {address : Int} {data : List Int}
    (there : ∀ (offset : Nat) (inside : offset < data.length),
      memory[cell (address + offset)]? = some (byteOf data[offset])) :
    memory.writeBlock address data = memory := by
  induction data generalizing address with
  | nil => rfl
  | cons value rest ih =>
      have first : memory.write address value = memory := by
        have here := there 0 (by simp)
        rw [Int.natCast_zero, Int.add_zero] at here
        obtain ⟨inside, same⟩ := Array.getElem?_eq_some_iff.1 here
        change memory[cell address] = byteOf value at same
        rw [write, ← same, Array.setIfInBounds, dif_pos inside, Array.set_getElem_self]
      rw [writeBlock, first]
      refine ih fun offset inside => ?_
      have later := there (offset + 1) (by simpa using inside)
      rwa [show address + ((offset + 1 : Nat) : Int) = address + 1 + offset by omega] at later

/-! ## Memory after a store -/

/-- The positions in a block of so many values, stored from an address on, whose values reach a cell. -/
def landings (address : Int) (count cell : Nat) : Set Nat :=
  {position | position < count ∧ (address + position) % memorySize = cell}

end Memory

variable {state : State}

/-- **The last write wins.**  Whatever the address is and however long the block, storing it in a memory of
the proper size is not refused and changes nothing but memory.  There, a cell that is reached holds the
remainder of the value at the greatest position that reaches it, and every other cell its old byte. -/
theorem State.last_write_wins (full : state.memory.size = memorySize) (address : Int) (data : List Int) :
    ∃ memory : Memory, (State.writeBlock address data).run state = .ok () { state with memory } ∧
      memory.size = memorySize ∧
      ∀ cell < memorySize,
        (∀ position, IsGreatest (Memory.landings address data.length cell) position →
          ∃ byte : UInt8, memory[cell]? = some byte ∧
            data[position]?.map (· % 256) = some (byte.toNat : Int)) ∧
        (Memory.landings address data.length cell = ∅ → memory[cell]? = state.memory[cell]?) := by
  refine ⟨state.memory.writeBlock address data, State.writeBlock_run full address data,
    (Memory.size_writeBlock _ _ _).trans full, fun cell _ => ⟨?_, ?_⟩⟩
  · rintro position ⟨⟨inside, here⟩, greatest⟩
    have last (later : Nat) (behind : position < later) (few : later < data.length) :
        (address + later) % memorySize ≠ cell :=
      fun again => Nat.not_le_of_lt behind (greatest ⟨few, again⟩)
    refine ⟨_, state.memory.getElem?_writeBlock_last address data full inside here last, ?_⟩
    rw [List.getElem?_eq_getElem inside, Option.map_some, Memory.toNat_byteOf]
  · intro untouched
    refine Memory.getElem?_writeBlock_of_ne _ _ _ fun offset few here => ?_
    have reached : offset ∈ Memory.landings address data.length cell := ⟨few, here.symm⟩
    rwa [untouched] at reached

/-- One byte more than memory has, from three cells in front of its end on: the last one comes to lie on the
first one.  Then a single value is stored behind it, and it stays. -/
theorem last_write_wins_round :
    ∃ first second : State,
      (State.writeBlock (-3) (List.replicate 4096 1 ++ [-1])).run {} = .ok () first ∧
        first.memory[4093]? = some 255 ∧
        (State.writeBlock (-4097) [0x1AB]).run first = .ok () second ∧
        second.memory[4095]? = some 0xAB ∧ second.memory[4093]? = some 255 := by
  have length : (List.replicate 4096 (1 : Int) ++ [-1]).length = 4097 := by
    rw [List.length_append, List.length_replicate, List.length_singleton]
  have last : (List.replicate 4096 (1 : Int) ++ [-1])[4096]? = some (-1) := by
    rw [List.getElem?_append_right (Nat.le_of_eq List.length_replicate), List.length_replicate]
    rfl
  have full : ({} : State).memory.size = memorySize := Array.size_replicate
  obtain ⟨memory, ran, size, cells⟩ := State.last_write_wins full (-3) (List.replicate 4096 1 ++ [-1])
  have full' : ({ memory } : State).memory.size = memorySize := size
  obtain ⟨memory', ran', -, cells'⟩ := State.last_write_wins full' (-4097) [0x1AB]
  rw [length] at cells
  have round : IsGreatest (Memory.landings (-3) 4097 4093) 4096 :=
    ⟨⟨by decide, by decide⟩, fun position reaches => Nat.le_of_lt_succ reaches.1⟩
  have single : IsGreatest (Memory.landings (-4097) 1 4095) 0 :=
    ⟨⟨by decide, by decide⟩, fun position reaches => Nat.le_of_lt_succ reaches.1⟩
  have untouched : Memory.landings (-4097) 1 4093 = ∅ := by
    refine Set.eq_empty_of_forall_notMem ?_
    rintro position ⟨inside, here⟩
    obtain rfl : position = 0 := Nat.lt_one_iff.1 inside
    exact absurd here (by decide)
  obtain ⟨byte, there, low⟩ := (cells 4093 (by decide)).1 _ round
  obtain ⟨byte', there', low'⟩ := (cells' 4095 (by decide)).1 _ single
  rw [last, Option.map_some, Option.some.injEq] at low
  replace low' : some ((0x1AB : Int) % 256) = some (byte'.toNat : Int) := low'
  rw [Option.some.injEq] at low'
  obtain rfl : byte = 255 := UInt8.toNat_inj.1 (show byte.toNat = 255 by omega)
  obtain rfl : byte' = 0xAB := UInt8.toNat_inj.1 (show byte'.toNat = 0xAB by omega)
  exact ⟨_, _, ran, there, ran', there', ((cells' 4093 (by decide)).2 untouched).trans there⟩

end Chip8
