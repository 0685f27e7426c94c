import Chip8.Memory

/-!
# Programs as words and as bytes

A program file is a plain row of bytes, two to a word, the high byte first.  An odd byte at the end is
taken as the high byte of a last word.

* `ByteOrder` — which byte of a pair is the high one.
* `wordsOfBytes`, `bytesOfWords` — the two directions; on an even number of bytes they are inverse.
* `swapBytes` — exchanges the bytes of every word, and so the two byte orders.
* `ProgramFile`, `readProgram` — what a file name leads to, and the words there.
-/

namespace Chip8

/-- Which byte of a pair is the high one. -/
inductive ByteOrder where
  | big
  | little
  deriving DecidableEq, Repr, Inhabited

/-- The byte order that a text names. -/
def ByteOrder.ofText (text : String) : Except Error ByteOrder :=
  if text = "big" then .ok .big
  else if text = "little" then .ok .little
  else .error (.unknownByteOrder text)

/-- The word that a pair of bytes stands for. -/
def ByteOrder.word (order : ByteOrder) (first second : UInt8) : Int :=
  match order with
  | big => (256 * first.toNat + second.toNat : Nat)
  | little => (256 * second.toNat + first.toNat : Nat)

/-- Pairs bytes into words; a last odd byte is paired with zero. -/
def wordsOfBytes (order : ByteOrder) : List UInt8 → List Int
  | [] => []
  | [last] => [order.word last 0]
  | first :: second :: rest => order.word first second :: wordsOfBytes order rest

/-- The bytes of words, the high byte of each first.  Only the low sixteen bits of a word count. -/
def bytesOfWords (words : List Int) : List UInt8 :=
  words.flatMap fun word => [Memory.byteOf (word / 256), Memory.byteOf word]

/-- Exchanges the high and the low byte of every word. -/
def swapBytes (words : List Int) : List Int :=
  words.map fun word => 256 * (word % 256) + word / 256 % 256

/-- What the name of a program file leads to. -/
inductive ProgramFile where
  | missing
  /-- Nothing, because no file has so long a name. -/
  | nameTooLong
  | directory
  | regular (bytes : List UInt8)
  deriving DecidableEq, Repr

/-- The words of a program file. -/
def readProgram : ProgramFile → Except Error (List Int)
  | .missing => .error .missingFile
  | .nameTooLong => .error .fileNameTooLong
  | .directory => .error .directoryFile
  | .regular bytes => .ok (wordsOfBytes .big bytes)

end Chip8
