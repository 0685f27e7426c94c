/-!
# Numerals: how integers are written and read

Everything the machine prints about itself is made of integers: addresses in hexadecimal, counters in
decimal, times in hundredths of a second.  The rules are few, and they have to hold for negative
integers as well, because a program counter can be moved anywhere.

* `hex` writes upper-case hexadecimal.  The sign comes first, padding zeros follow it, and the sign
  counts towards the width.
* `hundredths` writes a fraction with two decimals, rounded to the nearest.
* `readInt` reads a decimal integer as a user may type it: blanks around it, a sign, single
  underscores between digits, and the decimal digits of any script.
-/

namespace Chip8.Text

/-! ## Writing -/

/-- The hexadecimal digits of a natural number, upper case. -/
def hexDigits (n : Nat) : List Char := (Nat.toDigits 16 n).map Char.toUpper

/-- Sign, padding zeros, digits; the whole at least `width` characters long. -/
def padded (width : Nat) (negative : Bool) (digits : List Char) : String :=
  let sign := if negative then ['-'] else []
  String.ofList (sign ++ List.replicate (width - sign.length - digits.length) '0' ++ digits)

/-- Upper-case hexadecimal of at least `width` characters, a minus sign included. -/
def hex (width : Nat) (value : Int) : String :=
  padded width (value < 0) (hexDigits value.natAbs)

/-- Lower-case hexadecimal with its `0x`, which stands after the sign. -/
def hexLiteral (value : Int) : String :=
  String.ofList ((if value < 0 then ['-'] else []) ++ ['0', 'x'] ++ Nat.toDigits 16 value.natAbs)

/-- A two-digit lower-case rendering of one byte. -/
def hexByte (byte : UInt8) : String :=
  let digits := Nat.toDigits 16 byte.toNat
  String.ofList (List.replicate (2 - digits.length) '0' ++ digits)

/-- Blanks in front of a text until it is `width` characters long. -/
def alignRight (width : Nat) (text : String) : String :=
  String.ofList (List.replicate (width - text.length) ' ') ++ text

/-- `numerator / denominator` with two decimals, to the nearest; a half goes up. -/
def hundredths (numerator denominator : Nat) : String :=
  let parts := (200 * numerator + denominator) / (2 * denominator)
  let rest := parts % 100
  s!"{parts / 100}." ++ (if rest < 10 then "0" else "") ++ toString rest

/-! ## Reading -/

/-- The zeros of the scripts that have ten consecutive decimal digits. -/
def digitZeros : List Nat :=
  [0x30, 0x660, 0x6F0, 0x7C0, 0x966, 0x9E6, 0xA66, 0xAE6, 0xB66, 0xBE6, 0xC66, 0xCE6, 0xD66, 0xDE6,
   0xE50, 0xED0, 0xF20, 0x1040, 0x1090, 0x17E0, 0x1810, 0x1946, 0x19D0, 0x1A80, 0x1A90, 0x1B50,
   0x1BB0, 0x1C40, 0x1C50, 0xA620, 0xA8D0, 0xA900, 0xA9D0, 0xA9F0, 0xAA50, 0xABF0, 0xFF10, 0x104A0,
   0x10D30, 0x11066, 0x110F0, 0x11136, 0x111D0, 0x112F0, 0x11450, 0x114D0, 0x11650, 0x116C0, 0x11730,
   0x118E0, 0x11950, 0x11C50, 0x11D50, 0x11DA0, 0x16A60, 0x16AC0, 0x16B50, 0x1D7CE, 0x1D7D8, 0x1D7E2,
   0x1D7EC, 0x1D7F6, 0x1E140, 0x1E2F0, 0x1E950, 0x1FBF0]

/-- The value of a decimal digit of any script. -/
def digitValue? (c : Char) : Option Nat :=
  (digitZeros.find? fun start => start ≤ c.toNat && c.toNat < start + 10).map (c.toNat - ·)

/-- Characters that may surround a number: the space, the breaks, and the spaces of other scripts. -/
def isBlank (c : Char) : Bool :=
  c == ' ' || (0x09 ≤ c.toNat && c.toNat ≤ 0x0D) || c.toNat == 0x85 || c.toNat == 0xA0 ||
  c.toNat == 0x1680 || (0x2000 ≤ c.toNat && c.toNat ≤ 0x200A) || c.toNat == 0x2028 ||
  c.toNat == 0x2029 || c.toNat == 0x202F || c.toNat == 0x205F || c.toNat == 0x3000

/-- Drops blanks on both sides. -/
def trimBlanks (cs : List Char) : List Char :=
  ((cs.dropWhile isBlank).reverse.dropWhile isBlank).reverse

/-- The digits of a numeral, where one underscore may stand between two digits. -/
def numeralDigits? : List Char → Option (List Nat)
  | [] => none
  | [c] => (digitValue? c).map ([·])
  | c :: '_' :: rest => do
    let digit ← digitValue? c
    let digits ← numeralDigits? rest
    return digit :: digits
  | c :: rest => do
    let digit ← digitValue? c
    let digits ← numeralDigits? rest
    return digit :: digits

/-- Longer numerals are refused: reading one takes time quadratic in its length. -/
def maxDigits : Nat := 4300

/-- The natural number that a list of characters spells, if it spells one. -/
def readNat? (cs : List Char) : Option Nat := do
  let digits ← numeralDigits? cs
  if digits.length > maxDigits then none
  else return digits.foldl (fun value digit => 10 * value + digit) 0

/-- Reads a decimal integer: blanks around it, one sign, digits. -/
def readInt? (text : String) : Option Int :=
  match trimBlanks text.toList with
  | '-' :: cs => (readNat? cs).map fun n => -(n : Int)
  | '+' :: cs => (readNat? cs).map Int.ofNat
  | cs => (readNat? cs).map Int.ofNat

end Chip8.Text
