import Chip8.Text.Numeral

/-!
# The machine's dimensions and its built-in glyphs

The numbers that every other module agrees on: how much memory there is and what lies where, how many
registers and keys, how deep calls nest, how large the screen is, and how often a host is expected to
advance the timers.

The first 512 bytes belong to the interpreter.  Programs never write there on loading; the glyphs of
the sixteen hexadecimal digits lie at `fontStart`, `glyphSize` bytes each.
-/

namespace Chip8

/-- Bytes of memory.  Addresses wrap modulo this number. -/
abbrev memorySize : Nat := 4096

/-- Registers V0 to VF. -/
abbrev registerCount : Nat := 16

/-- The register that receives carries, borrows, shifted-out bits and collisions. -/
abbrev flagRegister : Nat := 15

/-- Keys of the hexadecimal pad. -/
abbrev keyCount : Nat := 16

/-- Return addresses that the call stack can hold. -/
abbrev stackCapacity : Nat := 48

/-- Where programs are loaded and start. -/
abbrev programStart : Nat := 0x200

/-- The bytes from `programStart` to the end of memory. -/
abbrev programCapacity : Nat := memorySize - programStart

/-- Where the glyphs lie. -/
abbrev fontStart : Nat := 0x50

/-- Bytes, and so rows, of one glyph. -/
abbrev glyphSize : Nat := 5

/-- Columns of the screen. -/
abbrev screenWidth : Nat := 64

/-- Rows of the screen. -/
abbrev screenHeight : Nat := 32

/-- How often per second a host is expected to advance the timers. -/
abbrev timerRate : Nat := 60

/-- Instructions per timer tick unless the host asks for another number. -/
def defaultFrameSteps : Nat := 10

/-- Trace entries kept unless the host asks for another number. -/
def defaultTraceBound : Nat := 1000

/-- The glyphs of the digits 0 to F, one row of this list each. -/
def hexGlyphs : List Int :=
  [0xF0, 0x90, 0x90, 0x90, 0xF0,
   0x20, 0x60, 0x20, 0x20, 0x70,
   0xF0, 0x10, 0xF0, 0x80, 0xF0,
   0xF0, 0x10, 0xF0, 0x10, 0xF0,
   0x90, 0x90, 0xF0, 0x10, 0x10,
   0xF0, 0x80, 0xF0, 0x10, 0xF0,
   0xF0, 0x80, 0xF0, 0x90, 0xF0,
   0xF0, 0x10, 0x20, 0x40, 0x40,
   0xF0, 0x90, 0xF0, 0x90, 0xF0,
   0xF0, 0x90, 0xF0, 0x10, 0xF0,
   0xF0, 0x90, 0xF0, 0x90, 0x90,
   0xE0, 0x90, 0xE0, 0x90, 0xE0,
   0xF0, 0x80, 0x80, 0x80, 0xF0,
   0xE0, 0x90, 0x90, 0x90, 0xE0,
   0xF0, 0x80, 0xF0, 0x80, 0xF0,
   0xF0, 0x80, 0xF0, 0x80, 0x80]

/-- Time that a number of timer ticks stands for, in seconds with two decimals. -/
def emulatedSeconds (ticks : Nat) : String := Text.hundredths ticks timerRate

end Chip8
