/-!
# The screen

A grid of pixels, each lit or dark.  Sprites are eight pixels wide and are drawn by flipping: drawing a
sprite twice restores the grid.  Every coordinate wraps modulo the side it runs along, so every pair of
integers names a pixel, and drawing over one edge continues at the opposite one.

* `Screen` — the grid with its dimensions in the type, so no operation can change its shape.
* `Screen.lit`, `Screen.set`, `Screen.flip`, `Screen.clear` — access to pixels.
* `spritePoints` — the pixels that a sprite covers, as offsets from its corner.
* `Screen.drawSprite` — flips them and tells whether one of them was lit.
* `Screen.render` — the grid as text.

The `dirty` flag is for a renderer: it is raised with every change and lowered by the renderer alone.
-/

namespace Chip8

/-- A grid of pixels, row by row. -/
structure Screen (width height : Nat) where
  rows : Vector (Vector Bool width) height
  dirty : Bool := false
  deriving DecidableEq, Repr

/-- A side along which there is at least one pixel, so that coordinates can wrap. -/
class Side (length : Nat) : Prop where
  positive : 0 < length

instance (n : Nat) : Side (n + 1) := ⟨Nat.succ_pos n⟩

/-! ## Sprites -/

/-- Whether the pixel in a column of a sprite's row is set; the most significant of eight bits is
leftmost, and higher bits do not count. -/
def spriteBit (bits : Int) (column : Nat) : Bool := (bits >>> (7 - column)) % 2 == 1

/-- The columns, from the left, that a row of a sprite covers. -/
def spriteColumns (bits : Int) : List Nat := (List.range 8).filter (spriteBit bits)

/-- The pixels that a sprite covers, as offsets (column, row) from its top left corner, row by row. -/
def spritePoints (rows : List Int) : List (Nat × Nat) :=
  rows.zipIdx.flatMap fun row => (spriteColumns row.1).map fun column => (column, row.2)

namespace Screen

variable {width height : Nat}

/-- All pixels dark. -/
def blank (width height : Nat) : Screen width height :=
  ⟨Vector.ofFn fun _ => Vector.replicate width false, false⟩

/-- A coordinate, wrapped. -/
def wrap (side : Nat) [Side side] (coordinate : Int) : Fin side :=
  ⟨(coordinate % side).toNat, by
    have positive : (0 : Int) < side := Int.natCast_pos.2 Side.positive
    have := Int.emod_nonneg coordinate (Int.ne_of_gt positive)
    have := Int.emod_lt_of_pos coordinate positive
    omega⟩

/-- All pixels dark again. -/
def clear (_ : Screen width height) : Screen width height :=
  { blank width height with dirty := true }

/-- The number of lit pixels. -/
def litCount (screen : Screen width height) : Nat :=
  (screen.rows.toList.map fun row => row.toList.count true).foldl (· + ·) 0

/-- The grid as lines of text, one per row. -/
def lines (on off : String) (screen : Screen width height) : List String :=
  screen.rows.toList.map fun row =>
    String.join (row.toList.map fun lit => if lit then on else off)

/-- The grid as one text. -/
def render (screen : Screen width height) (on : String := "#") (off : String := ".") : String :=
  "\n".intercalate (screen.lines on off)

theorem length_lines (screen : Screen width height) (on off : String) :
    (screen.lines on off).length = height := by simp [lines]

/-- Every line is as wide as the grid if pixels are shown as single characters. -/
theorem length_of_mem_lines {screen : Screen width height} {on off line : String}
    (single : on.length = 1) (single' : off.length = 1) (member : line ∈ screen.lines on off) :
    line.length = width := by
  simp only [lines, List.mem_map] at member
  obtain ⟨row, -, rfl⟩ := member
  have each : ∀ size ∈ (row.toList.map fun lit => if lit then on else off).map String.length,
      size = 1 := by
    intro size member
    simp only [List.map_map, List.mem_map, Function.comp_apply] at member
    obtain ⟨lit, -, rfl⟩ := member
    split
    · exact single
    · exact single'
  rw [String.length_join, List.eq_replicate_of_mem each]
  simp

/-! ## Single pixels -/

variable [Side width] [Side height]

/-- Whether a pixel is lit. -/
def lit (screen : Screen width height) (x y : Int) : Bool :=
  screen.rows[wrap height y][wrap width x]

/-- The rows with one pixel replaced. -/
def replace (screen : Screen width height) (x y : Int) (value : Bool) :
    Vector (Vector Bool width) height :=
  let row := wrap height y
  let column := wrap width x
  screen.rows.set row.1 (screen.rows[row].set column.1 value column.2) row.2

/-- Lights or darkens a pixel; a pixel that already is as asked is no change. -/
def set (screen : Screen width height) (x y : Int) (value : Bool) : Screen width height :=
  if screen.lit x y = value then screen else ⟨screen.replace x y value, true⟩

/-- Flips a pixel. -/
def flip (screen : Screen width height) (x y : Int) : Screen width height :=
  ⟨screen.replace x y (!screen.lit x y), true⟩

/-- Replacing a pixel changes the one that the coordinates wrap to and no other. -/
theorem lit_replace (screen : Screen width height) (x y x' y' : Int) (value dirty : Bool) :
    lit ⟨screen.replace x y value, dirty⟩ x' y' =
      if wrap width x = wrap width x' ∧ wrap height y = wrap height y' then value
      else screen.lit x' y' := by
  unfold lit replace
  by_cases hy : wrap height y = wrap height y'
  · by_cases hx : wrap width x = wrap width x'
    · simp [hx, hy]
    · have : (wrap width x).1 ≠ (wrap width x').1 := fun h => hx (Fin.ext h)
      simp [hx, hy, this]
  · have : (wrap height y).1 ≠ (wrap height y').1 := fun h => hy (Fin.ext h)
    simp [hy, this]

/-- A flip changes the pixel that the coordinates wrap to and no other. -/
theorem lit_flip (screen : Screen width height) (x y x' y' : Int) :
    (screen.flip x y).lit x' y' =
      (screen.lit x' y' ^^ (wrap width x = wrap width x' ∧ wrap height y = wrap height y')) := by
  rw [flip, lit_replace]
  split
  next same => simp [lit, same]
  next other => simp [other]

theorem lit_clear (screen : Screen width height) (x y : Int) : screen.clear.lit x y = false := by
  simp [clear, lit, blank]

/-- Flips pixels one after the other; the answer is whether one of them was lit when its turn came. -/
def flipAll (screen : Screen width height) : List (Int × Int) → Bool × Screen width height
  | [] => (false, screen)
  | (x, y) :: rest =>
    let (hit, after) := (screen.flip x y).flipAll rest
    (screen.lit x y || hit, after)

/-- Draws a sprite with its top left corner at (`x`, `y`).  The answer is whether a lit pixel was
darkened. -/
def drawSprite (screen : Screen width height) (x y : Int) (rows : List Int) :
    Bool × Screen width height :=
  screen.flipAll ((spritePoints rows).map fun point => (x + point.1, y + point.2))

end Screen

end Chip8
