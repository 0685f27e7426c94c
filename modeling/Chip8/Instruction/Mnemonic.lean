import Chip8.Instruction.Word
import Chip8.Text.Numeral

/-!
# Mnemonics

The assembly text of an instruction.  Each kind has a template, a list of literal pieces and operand
fields; filling in the fields of a word gives the text.  The template itself can be shown as well, with
each field written as its name and format in braces.

* `Template` — pieces in order; `Kind.template` — the template of each kind.
* `Instruction.text` — a word rendered with the template of a kind.
* `Template.source` — the template as reference material prints it.
-/

namespace Chip8

/-- The fields that a template may mention. -/
inductive Field where
  | opcode | x | y | n | nn | nnn
  deriving DecidableEq, Repr

/-- The name of a field. -/
def Field.label : Field → String
  | opcode => "opcode"
  | x => "x"
  | y => "y"
  | n => "n"
  | nn => "nn"
  | nnn => "nnn"

/-- The field of a word. -/
def Instruction.field (ins : Instruction) : Field → Int
  | .opcode => ins.opcode
  | .x => ins.x
  | .y => ins.y
  | .n => ins.n
  | .nn => ins.nn
  | .nnn => ins.nnn

/-- A part of a template. -/
inductive Piece where
  | literal (text : String)
  /-- A field in upper-case hexadecimal, at least `width` characters. -/
  | hex (field : Field) (width : Nat)
  /-- A field in decimal. -/
  | decimal (field : Field)
  deriving DecidableEq, Repr

namespace Piece

/-- The text that a piece contributes for a word. -/
def render (ins : Instruction) : Piece → String
  | literal text => text
  | hex field width => Text.hex width (ins.field field)
  | decimal field => toString (ins.field field)

/-- A piece as reference material prints it; a width above one is written with a leading zero. -/
def source : Piece → String
  | literal text => text
  | hex field width =>
    "\x7b" ++ field.label ++ ":" ++ (if width > 1 then s!"0{width}" else "") ++ "X\x7d"
  | decimal field => "\x7b" ++ field.label ++ "\x7d"

end Piece

/-- Pieces in the order in which they are printed. -/
abbrev Template := List Piece

/-- The template as reference material prints it. -/
def Template.source (template : Template) : String := String.join (template.map Piece.source)

/-! ## The shapes that occur -/

/-- A word and a register. -/
private def withX (before after : String) : Template :=
  [.literal (before ++ "V"), .hex .x 1, .literal after]

/-- A word and two registers. -/
private def withXY (name : String) : Template :=
  [.literal (name ++ " V"), .hex .x 1, .literal ", V", .hex .y 1]

/-- A word, a register and a byte. -/
private def withXByte (name : String) : Template :=
  [.literal (name ++ " V"), .hex .x 1, .literal ", 0x", .hex .nn 2]

/-- A word and an address. -/
private def withAddress (before : String) : Template :=
  [.literal (before ++ "0x"), .hex .nnn 3]

/-- The template of each kind. -/
def Kind.template : Kind → Template
  | clear => [.literal "CLS"]
  | ret => [.literal "RET"]
  | jump => withAddress "JP "
  | call => withAddress "CALL "
  | skipEqByte => withXByte "SE"
  | skipNeByte => withXByte "SNE"
  | skipEqReg => withXY "SE"
  | setByte => withXByte "LD"
  | addByte => withXByte "ADD"
  | copy => withXY "LD"
  | or => withXY "OR"
  | and => withXY "AND"
  | xor => withXY "XOR"
  | add => withXY "ADD"
  | subtract => withXY "SUB"
  | shiftRight => withX "SHR " ""
  | subtractFrom => withXY "SUBN"
  | shiftLeft => withX "SHL " ""
  | skipNeReg => withXY "SNE"
  | setIndex => withAddress "LD I, "
  | jumpOffset => withAddress "JP V0, "
  | random => withXByte "RND"
  | draw => withXY "DRW" ++ [.literal ", ", .decimal .n]
  | skipPressed => withX "SKP " ""
  | skipReleased => withX "SKNP " ""
  | readDelay => withX "LD " ", DT"
  | awaitKey => withX "LD " ", K"
  | setDelay => withX "LD DT, " ""
  | setSound => withX "LD ST, " ""
  | addIndex => withX "ADD I, " ""
  | pointGlyph => withX "LD F, " ""
  | storeDigits => withX "LD B, " ""
  | storeRegisters => withX "LD [I], " ""
  | loadRegisters => withX "LD " ", [I]"
  | invalid => [.literal "DW 0x", .hex .opcode 4]

/-- An instruction as assembly text, rendered as one of the given kind. -/
def Instruction.text (ins : Instruction) (kind : Kind) : String :=
  String.join (kind.template.map (Piece.render ins))

end Chip8
