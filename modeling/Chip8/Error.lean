import Chip8.Fault
import Chip8.Instruction.Kind
import Chip8.Text.Quoted

/-!
# Errors

An error is a refusal: the host asked for something that does not exist or does not fit.  Each
constructor is one cause with what its message needs; the wording is in `Error.message` alone.

Faults appear here too, under `Error.fault`, because a host may call a single operation of the machine
directly and then has to be told of the fault.  The stepping loop catches those.
-/

namespace Chip8

/-- Why an operation was refused. -/
inductive Error where
  /-- A fault raised by an operation that the host called directly. -/
  | fault (cause : Fault)
  /-- A register number outside 0 to 15. -/
  | invalidRegister (register : Int)
  /-- A key outside 0 to 15. -/
  | invalidKey (key : Int)
  /-- A key vector that has not sixteen entries. -/
  | keyVectorLength (length : Nat)
  /-- A word to decode that has not sixteen bits. -/
  | opcodeRange (opcode : Int)
  /-- A program word that has not sixteen bits. -/
  | wordRange (word : Int)
  /-- A program that does not fit. -/
  | programTooLong (bytes : Nat)
  /-- A glyph table that would reach into program memory. -/
  | fontTooLong (bytes : Nat)
  /-- A byte order other than the two that exist. -/
  | unknownByteOrder (text : String)
  /-- A trace bound below zero. -/
  | negativeTraceBound
  /-- A memory size below zero. -/
  | negativeMemorySize
  /-- A size beyond what an index can hold. -/
  | beyondIndex
  /-- Registration with an instruction set that is complete. -/
  | sealedSet
  /-- A second registration under a key. -/
  | duplicateHandler (label : String)
  /-- An instruction set that lacks these kinds. -/
  | missingKinds (labels : List String)
  /-- A label that names no kind of instruction. -/
  | unknownKind (label : String)
  /-- A name that no built-in program has. -/
  | unknownExample (name : String)
  /-- A program file that does not exist. -/
  | missingFile
  /-- A directory in place of a program file. -/
  | directoryFile
  /-- A program file whose name is longer than names can be. -/
  | fileNameTooLong
  /-- An option that was left blank where its number is needed. -/
  | blankOption (option : String)
  /-- An infinity where a whole number is needed. -/
  | infiniteNumber
  /-- Something that is no number where a whole number is needed. -/
  | undefinedNumber
  /-- A control that was left empty where a whole number is needed. -/
  | blankNumber
  /-- A panel that no machine was put on. -/
  | noMachine
  /-- A memory, register file or keypad that is too short for the access. -/
  | outOfBounds
  /-- A pixel of a grid with a side of length zero. -/
  | zeroSide
  deriving DecidableEq, Repr

/-- The text of an error. -/
def Error.message : Error → String
  | fault cause => cause.report
  | invalidRegister register => s!"Invalid register: {register}"
  | invalidKey key => s!"Invalid key: {key}"
  | keyVectorLength length => s!"Expected {keyCount} key states, got {length}"
  | opcodeRange opcode => s!"Opcode out of range: {opcode}"
  | wordRange word => s!"Instruction word out of range: {word}"
  | programTooLong bytes =>
    s!"Program of {bytes} bytes exceeds {programCapacity} bytes of program memory"
  | fontTooLong bytes => s!"Font of {bytes} bytes overlaps program memory"
  | unknownByteOrder text => "byteorder must be 'big' or 'little', got " ++ Text.quoted text
  | negativeTraceBound => "maxlen must be non-negative"
  | negativeMemorySize => "negative count"
  | beyondIndex => "Size out of range"
  | sealedSet => "Cannot register handlers: registry is frozen"
  | duplicateHandler label => s!"Handler already registered: {label}"
  | missingKinds labels =>
    "Registry has no handler for: " ++ Text.bracketed (labels.map Text.quoted)
  | unknownKind label => s!"Unknown instruction key: {label}"
  | unknownExample name => name
  | missingFile => "Program file does not exist"
  | directoryFile => "Program file is a directory"
  | fileNameTooLong => "Name of the program file is too long"
  | blankOption option => s!"Option {option} was left blank"
  | infiniteNumber => "cannot convert float infinity to integer"
  | undefinedNumber => "cannot convert float NaN to integer"
  | blankNumber =>
    "int() argument must be a string, a bytes-like object or a real number, not 'NoneType'"
  | noMachine => "No machine on the panel"
  | outOfBounds => "Access out of bounds"
  | zeroSide => "Remainder modulo a side of length zero"

end Chip8
