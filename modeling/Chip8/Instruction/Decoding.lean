import Chip8.Error
import Chip8.Instruction.Mnemonic

/-!
# Decoding

Decoding takes a word to its kind and its text.  It never fails on a sixteen-bit word: a word that no
pattern covers decodes to `Kind.invalid`, which the machine steps over.

* `Decoding` — a word together with its kind.
* `decode` — refuses only integers that are no sixteen-bit words.
-/

namespace Chip8

/-- A word that has been classified. -/
structure Decoding where
  instruction : Instruction
  kind : Kind
  deriving DecidableEq, Repr

namespace Decoding

/-- Classifies a word by the table of patterns. -/
def ofOpcode (opcode : Int) : Decoding := ⟨⟨opcode⟩, Kind.ofOpcode opcode⟩

/-- The word itself. -/
def opcode (decoding : Decoding) : Int := decoding.instruction.opcode

/-- The assembly text. -/
def mnemonic (decoding : Decoding) : String := decoding.instruction.text decoding.kind

/-- Whether some pattern covered the word. -/
def isValid (decoding : Decoding) : Bool := decoding.kind != .invalid

/-- What is wrong with a word that no pattern covers. -/
def problem? (decoding : Decoding) : Option String :=
  if decoding.isValid then none else some (Fault.unknownOpcode decoding.opcode 0).note

end Decoding

/-- Decodes a sixteen-bit word. -/
def decode (opcode : Int) : Except Error Decoding :=
  if 0 ≤ opcode ∧ opcode ≤ 0xFFFF then .ok (.ofOpcode opcode) else .error (.opcodeRange opcode)

end Chip8
