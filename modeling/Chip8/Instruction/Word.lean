import Chip8.Instruction.Kind

/-!
# Instruction words and the patterns that classify them

An instruction is one sixteen-bit word.  Its operands are nibble-aligned fields of the word, and its
kind is decided by a table of patterns, each of which fixes some bits and leaves the others free.

* `Instruction` — a word, with its fields as functions.
* `Pattern.Covers` — a pattern fixes exactly the bits in its mask.
* `patterns` — the table; `Kind.ofOpcode` takes the first row that covers the word.

Fields and patterns look at the sixteen low bits only, so both are defined for every integer.
-/

namespace Chip8

/-! ## Words and their fields -/

/-- A word, seen as an instruction. -/
structure Instruction where
  opcode : Int
  deriving DecidableEq, Repr, Inhabited

namespace Instruction

/-- Bits 12 to 15, the family of the instruction. -/
def family (ins : Instruction) : Nat := (ins.opcode / 4096 % 16).toNat

/-- Bits 8 to 11, a register. -/
def x (ins : Instruction) : Nat := (ins.opcode / 256 % 16).toNat

/-- Bits 4 to 7, a register. -/
def y (ins : Instruction) : Nat := (ins.opcode / 16 % 16).toNat

/-- Bits 0 to 3. -/
def n (ins : Instruction) : Nat := (ins.opcode % 16).toNat

/-- Bits 0 to 7, a byte. -/
def nn (ins : Instruction) : Nat := (ins.opcode % 256).toNat

/-- Bits 0 to 11, an address. -/
def nnn (ins : Instruction) : Nat := (ins.opcode % 4096).toNat

/-- The first operand names a register that exists. -/
theorem x_lt (ins : Instruction) : ins.x < 16 := by unfold x; omega

/-- The second operand names a register that exists. -/
theorem y_lt (ins : Instruction) : ins.y < 16 := by unfold y; omega

theorem n_lt (ins : Instruction) : ins.n < 16 := by unfold n; omega

theorem nn_lt (ins : Instruction) : ins.nn < 256 := by unfold nn; omega

theorem nnn_lt (ins : Instruction) : ins.nnn < 4096 := by unfold nnn; omega

end Instruction

/-! ## Patterns -/

/-- A row of the table: words that agree with `value` on the bits of `mask` are of this kind. -/
structure Pattern where
  mask : Nat
  value : Nat
  kind : Kind
  deriving DecidableEq, Repr

/-- The low sixteen bits of an integer, negative ones in two's complement. -/
def lowWord (opcode : Int) : Nat := (opcode % 65536).toNat

/-- Whether a pattern covers a word. -/
def Pattern.covers (pattern : Pattern) (opcode : Int) : Bool :=
  lowWord opcode &&& pattern.mask == pattern.value

/-- The documented instructions.  Exact words come before the families they would fall into, so that
the first row that covers a word is the right one. -/
def patterns : List Pattern :=
  [⟨0xFFFF, 0x00E0, .clear⟩,
   ⟨0xFFFF, 0x00EE, .ret⟩,
   ⟨0xF000, 0x1000, .jump⟩,
   ⟨0xF000, 0x2000, .call⟩,
   ⟨0xF000, 0x3000, .skipEqByte⟩,
   ⟨0xF000, 0x4000, .skipNeByte⟩,
   ⟨0xF00F, 0x5000, .skipEqReg⟩,
   ⟨0xF000, 0x6000, .setByte⟩,
   ⟨0xF000, 0x7000, .addByte⟩,
   ⟨0xF00F, 0x8000, .copy⟩,
   ⟨0xF00F, 0x8001, .or⟩,
   ⟨0xF00F, 0x8002, .and⟩,
   ⟨0xF00F, 0x8003, .xor⟩,
   ⟨0xF00F, 0x8004, .add⟩,
   ⟨0xF00F, 0x8005, .subtract⟩,
   ⟨0xF00F, 0x8006, .shiftRight⟩,
   ⟨0xF00F, 0x8007, .subtractFrom⟩,
   ⟨0xF00F, 0x800E, .shiftLeft⟩,
   ⟨0xF00F, 0x9000, .skipNeReg⟩,
   ⟨0xF000, 0xA000, .setIndex⟩,
   ⟨0xF000, 0xB000, .jumpOffset⟩,
   ⟨0xF000, 0xC000, .random⟩,
   ⟨0xF000, 0xD000, .draw⟩,
   ⟨0xF0FF, 0xE09E, .skipPressed⟩,
   ⟨0xF0FF, 0xE0A1, .skipReleased⟩,
   ⟨0xF0FF, 0xF007, .readDelay⟩,
   ⟨0xF0FF, 0xF00A, .awaitKey⟩,
   ⟨0xF0FF, 0xF015, .setDelay⟩,
   ⟨0xF0FF, 0xF018, .setSound⟩,
   ⟨0xF0FF, 0xF01E, .addIndex⟩,
   ⟨0xF0FF, 0xF029, .pointGlyph⟩,
   ⟨0xF0FF, 0xF033, .storeDigits⟩,
   ⟨0xF0FF, 0xF055, .storeRegisters⟩,
   ⟨0xF0FF, 0xF065, .loadRegisters⟩]

/-- The kind that a table of patterns gives a word: that of the first row covering it. -/
def Kind.classify (table : List Pattern) (opcode : Int) : Kind :=
  match table.find? (·.covers opcode) with
  | some pattern => pattern.kind
  | none => .invalid

/-- The kind of a word. -/
def Kind.ofOpcode (opcode : Int) : Kind := Kind.classify patterns opcode

end Chip8
