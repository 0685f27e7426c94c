import Chip8.Text.Numeral
import Chip8.Text.Printable

/-!
# Quoted text and bracketed collections

Error messages show a rejected text between quotes, and reports show lists and tables of values in
brackets.  Single quotes are preferred; a text that contains a single quote and no double quote is
set in double quotes, so that nothing needs escaping.

* `quoted` — one text between quotes.
* `bracketed` — values in square brackets.
* `braced` — a table of named values in braces.
-/

namespace Chip8.Text

/-- At least `width` lower-case hexadecimal digits. -/
def escapeDigits (width n : Nat) : List Char :=
  let digits := Nat.toDigits 16 n
  List.replicate (width - digits.length) '0' ++ digits

/-- One character of a quoted text.  The enclosing quote, the backslash, breaks, tabs and characters
without a picture are escaped; the escape names the position with two, four or eight digits. -/
def escaped (quote : Char) (c : Char) : List Char :=
  if c == quote || c == '\\' then ['\\', c]
  else if c == '\n' then ['\\', 'n']
  else if c == '\r' then ['\\', 'r']
  else if c == '\t' then ['\\', 't']
  else if isPrintable c then [c]
  else if c.toNat < 0x100 then ['\\', 'x'] ++ escapeDigits 2 c.toNat
  else if c.toNat < 0x10000 then ['\\', 'u'] ++ escapeDigits 4 c.toNat
  else ['\\', 'U'] ++ escapeDigits 8 c.toNat

/-- The quote that encloses a text. -/
def enclosingQuote (cs : List Char) : Char :=
  if cs.contains '\'' && !cs.contains '"' then '"' else '\''

/-- A text between quotes. -/
def quoted (text : String) : String :=
  let cs := text.toList
  let quote := enclosingQuote cs
  String.ofList (quote :: cs.flatMap (escaped quote) ++ [quote])

/-- Values in square brackets, separated by commas. -/
def bracketed (values : List String) : String :=
  "[" ++ ", ".intercalate values ++ "]"

/-- Named values in braces, in the given order. -/
def braced (entries : List (String × String)) : String :=
  "\x7b" ++ ", ".intercalate (entries.map fun entry => quoted entry.1 ++ ": " ++ entry.2) ++ "\x7d"

end Chip8.Text
