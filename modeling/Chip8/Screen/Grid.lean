import Chip8.Extent
import Chip8.Screen

/-!
# Grids of any sides

A host may ask for a grid with any two integers as its sides.  Coordinates wrap modulo the sides, so a
side of length zero admits no coordinate at all, and a grid with a negative side has no pixel in it.
Whatever touches a pixel of such a grid is refused; clearing, counting and rendering still work.  Only a
width that does not fit an index is refused from the start, unless there is no row to have it.

* `Grid` — a screen together with the sides that were asked for.
* `Grid.lit`, `Grid.set`, `Grid.flip` — they look at the vertical coordinate first.
* `Grid.drawSprite` — it looks at both sides before it draws, the horizontal one first.
-/

namespace Chip8

/-- A grid with the sides that a host asked for. -/
structure Grid where
  width : Int
  height : Int
  screen : Screen width.toNat height.toNat

namespace Grid

/-- A dark grid. -/
def ofSides (width height : Int) : Except Error Grid := do
  if 0 < height then checkExtent width
  return ⟨width, height, .blank _ _⟩

/-- Why one side admits no pixel. -/
def sideError (side : Int) : Error := if side = 0 then .zeroSide else .outOfBounds

/-- Runs an operation that touches one pixel. -/
def atPixel {α : Type} (grid : Grid)
    (operation : [Side grid.width.toNat] → [Side grid.height.toNat] →
      Screen grid.width.toNat grid.height.toNat →
        α × Screen grid.width.toNat grid.height.toNat) :
    Except Error (α × Grid) :=
  if tall : 0 < grid.height then
    if wide : 0 < grid.width then
      haveI : Side grid.width.toNat := ⟨by omega⟩
      haveI : Side grid.height.toNat := ⟨by omega⟩
      let (answer, screen) := operation grid.screen
      .ok (answer, { grid with screen })
    else .error (sideError grid.width)
  else .error (sideError grid.height)

/-- Whether a pixel is lit. -/
def lit (grid : Grid) (x y : Int) : Except Error (Bool × Grid) :=
  grid.atPixel fun screen => (screen.lit x y, screen)

/-- Lights or darkens a pixel. -/
def set (grid : Grid) (x y : Int) (value : Bool) : Except Error (Unit × Grid) :=
  grid.atPixel fun screen => ((), screen.set x y value)

/-- Flips a pixel; the answer is whether it was lit before. -/
def flip (grid : Grid) (x y : Int) : Except Error (Bool × Grid) :=
  grid.atPixel fun screen => (screen.lit x y, screen.flip x y)

/-- Draws a sprite.  A sprite that covers no pixel can be drawn on every grid whose sides are not
zero. -/
def drawSprite (grid : Grid) (x y : Int) (rows : List Int) : Except Error (Bool × Grid) :=
  if grid.width = 0 ∨ grid.height = 0 then .error .zeroSide
  else if (spritePoints rows).isEmpty then .ok (false, grid)
  else grid.atPixel fun screen => screen.drawSprite x y rows

/-- All pixels dark again. -/
def clear (grid : Grid) : Grid := { grid with screen := grid.screen.clear }

end Grid

end Chip8
