/-!
# Kinds of instruction

There are thirty-four documented kinds and one more, `Kind.invalid`, for every word that none of them
covers.  A kind says what an instruction does; its operands are read from the word itself.

* `Kind` — the kinds, in the order in which reference cards list them.
* `Kind.label`, `Kind.ofLabel?` — the text by which reports name a kind.
* `Kind.all` — every kind once, in that order.
-/

namespace Chip8

/-- What an instruction does. -/
inductive Kind where
  | clear
  | ret
  | jump
  | call
  | skipEqByte
  | skipNeByte
  | skipEqReg
  | setByte
  | addByte
  | copy
  | or
  | and
  | xor
  | add
  | subtract
  | shiftRight
  | subtractFrom
  | shiftLeft
  | skipNeReg
  | setIndex
  | jumpOffset
  | random
  | draw
  | skipPressed
  | skipReleased
  | readDelay
  | awaitKey
  | setDelay
  | setSound
  | addIndex
  | pointGlyph
  | storeDigits
  | storeRegisters
  | loadRegisters
  | invalid
  deriving DecidableEq, Repr, Inhabited

namespace Kind

/-- Every kind once. -/
def all : List Kind :=
  [.clear, .ret, .jump, .call, .skipEqByte, .skipNeByte, .skipEqReg, .setByte, .addByte, .copy, .or,
   .and, .xor, .add, .subtract, .shiftRight, .subtractFrom, .shiftLeft, .skipNeReg, .setIndex,
   .jumpOffset, .random, .draw, .skipPressed, .skipReleased, .readDelay, .awaitKey, .setDelay,
   .setSound, .addIndex, .pointGlyph, .storeDigits, .storeRegisters, .loadRegisters, .invalid]

/-- The name of a kind in reports. -/
def label : Kind → String
  | clear => "OP_CLS"
  | ret => "OP_RET"
  | jump => "OP_JP"
  | call => "OP_CALL"
  | skipEqByte => "OP_SE_IMM"
  | skipNeByte => "OP_SNE_IMM"
  | skipEqReg => "OP_SE_REG"
  | setByte => "OP_LD_IMM"
  | addByte => "OP_ADD_IMM"
  | copy => "OP_LD_REG"
  | or => "OP_OR"
  | and => "OP_AND"
  | xor => "OP_XOR"
  | add => "OP_ADD_REG"
  | subtract => "OP_SUB"
  | shiftRight => "OP_SHR"
  | subtractFrom => "OP_SUBN"
  | shiftLeft => "OP_SHL"
  | skipNeReg => "OP_SNE_REG"
  | setIndex => "OP_LD_I"
  | jumpOffset => "OP_JP_V0"
  | random => "OP_RND"
  | draw => "OP_DRW"
  | skipPressed => "OP_SKP"
  | skipReleased => "OP_SKNP"
  | readDelay => "OP_LD_VX_DT"
  | awaitKey => "OP_LD_VX_K"
  | setDelay => "OP_LD_DT_VX"
  | setSound => "OP_LD_ST_VX"
  | addIndex => "OP_ADD_I"
  | pointGlyph => "OP_LD_F"
  | storeDigits => "OP_LD_B"
  | storeRegisters => "OP_LD_MEM_VX"
  | loadRegisters => "OP_LD_VX_MEM"
  | invalid => "OP_INVALID"

/-- The kind that a label names. -/
def ofLabel? (text : String) : Option Kind := all.find? fun kind => kind.label == text

/-- `all` leaves out no kind. -/
theorem mem_all (kind : Kind) : kind ∈ all := by cases kind <;> decide

/-- `all` repeats no kind. -/
theorem nodup_all : all.Nodup := by decide

/-- Labels tell kinds apart. -/
theorem ofLabel?_label (kind : Kind) : ofLabel? kind.label = some kind := by
  cases kind <;> decide

end Kind

end Chip8
