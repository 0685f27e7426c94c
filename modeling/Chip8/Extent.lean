import Chip8.Error

/-!
# Extents

How much of something a host asks for: bytes of memory, steps to remember, columns of a grid.  A host may
name any integer, and what is asked for has to fit an index.

* `checkExtent` — whether an integer fits an index.
* `extent` — the integer as a number of things.
-/

namespace Chip8

/-- The integers that fit an index lie below this one and not below its negative. -/
def indexLimit : Int := 0x8000000000000000

/-- Refuses an integer that does not fit an index. -/
def checkExtent (asked : Int) : Except Error Unit :=
  if asked < -indexLimit ∨ indexLimit ≤ asked then .error .beyondIndex else .ok ()

/-- The number of things that a host asks for.  What does not fit an index is refused before what is
negative, and `negative` says how the latter is refused. -/
def extent (negative : Error) (asked : Int) : Except Error Nat := do
  checkExtent asked
  if asked < 0 then throw negative
  return asked.toNat

end Chip8
