import Chip8.Extent
import Chip8.Instruction.Decoding

/-!
# Memory

Memory is a row of bytes.  Addresses wrap modulo `memorySize` and values modulo 256, so every integer
is an address and every integer can be stored.  A well-formed machine has exactly `memorySize` bytes;
a host may set up a shorter memory, and then an access can miss.

* `Memory.ofSize` — zeroed memory of a size that a host names.
* `Memory.cell` — the position that an address stands for.
* `Memory.write`, `Memory.writeBlock` — stores; one that misses changes nothing.
* `fetch` — the word at a program counter, high byte first.  Here addresses do *not* wrap.
* `listing` — the words from an address on, decoded, up to the end of memory.
-/

namespace Chip8

/-- A row of bytes. -/
abbrev Memory := Array UInt8

namespace Memory

/-- Zeroed memory. -/
def zeroed (size : Nat) : Memory := Array.replicate size 0

/-- Zeroed memory of a size that a host names. -/
def ofSize (size : Int) : Except Error Memory := return zeroed (← extent .negativeMemorySize size)

/-- The position that an address stands for. -/
def cell (address : Int) : Nat := (address % memorySize).toNat

/-- The byte that a value is stored as. -/
def byteOf (value : Int) : UInt8 := UInt8.ofNat (value % 256).toNat

/-- The byte at an address, if memory is that long. -/
def read? (memory : Memory) (address : Int) : Option UInt8 := memory[cell address]?

/-- Stores one byte. -/
def write (memory : Memory) (address value : Int) : Memory :=
  memory.setIfInBounds (cell address) (byteOf value)

/-- Stores bytes at ascending addresses, the first one first. -/
def writeBlock (memory : Memory) (address : Int) : List Int → Memory
  | [] => memory
  | value :: rest => (memory.write address value).writeBlock (address + 1) rest

@[simp] theorem size_write (memory : Memory) (address value : Int) :
    (memory.write address value).size = memory.size := Array.size_setIfInBounds

@[simp] theorem size_writeBlock (memory : Memory) (address : Int) (data : List Int) :
    (memory.writeBlock address data).size = memory.size := by
  induction data generalizing memory address with
  | nil => rfl
  | cons value rest ih => rw [writeBlock, ih, size_write]

theorem cell_lt (address : Int) : cell address < memorySize := by
  unfold cell memorySize; omega

/-- The position of a slice's end: negative ends count from the back, and ends beyond either side
stop there. -/
def sliceEnd (memory : Memory) (position : Int) : Nat :=
  if position < 0 then (position + memory.size).toNat else min position.toNat memory.size

/-- The bytes from one position up to, and without, another. -/
def slice (memory : Memory) (start stop : Int) : List UInt8 :=
  (memory.extract (memory.sliceEnd start) (memory.sliceEnd stop)).toList

end Memory

/-! ## Fetching words -/

/-- The word at `pc`.  Both its bytes must lie inside the address space. -/
def fetch (memory : Memory) (pc : Int) : Except Error Int :=
  if pc < 0 ∨ memorySize ≤ pc + 1 then .error (.fault (.badPc pc))
  else
    match memory[pc.toNat]?, memory[pc.toNat + 1]? with
    | some high, some low => .ok (256 * high.toNat + low.toNat : Nat)
    | _, _ => .error .outOfBounds

/-- A line of a listing. -/
structure Line where
  address : Int
  decoding : Decoding
  deriving DecidableEq, Repr

/-- The lines of `count` words from `address` on, put in front of in reverse, up to the end of memory. -/
def listingFrom (memory : Memory) : Nat → Int → List Line → Except Error (List Line)
  | 0, _, done => .ok done.reverse
  | count + 1, address, done =>
    if address < 0 ∨ memorySize ≤ address + 1 then .ok done.reverse
    else do
      let decoding ← decode (← fetch memory address)
      listingFrom memory count (address + 2) (⟨address, decoding⟩ :: done)

/-- `count` consecutive words from `start` on.  The listing stops at the end of memory; it is empty if
it would start outside. -/
def listing (memory : Memory) (start count : Int) : Except Error (List Line) :=
  listingFrom memory count.toNat start []

end Chip8
