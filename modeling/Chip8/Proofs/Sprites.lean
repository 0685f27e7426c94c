import Chip8.Screen.Grid
import Mathlib.Algebra.Group.Nat.Even
import Mathlib.Data.Finset.Card
import Mathlib.Data.Fintype.Prod
import Mathlib.Data.Int.Bitwise
import Mathlib.Data.Int.ModEq
import Mathlib.Tactic.Common

/-!
# What a sprite does to a grid

Drawing flips pixels one after the other, and both the place of each flip and the corner of the sprite
wrap.  On a small grid a sprite therefore runs into itself: it may flip a pixel many times, and it may meet
pixels that it has lit itself.  What comes out depends only on how often each pixel is covered.

* `Pixel`, `Screen.isLit`, `Screen.pixelAt` — pixels as cells of the grid, and the one a point stands for.
* **`Screen.isLit_flipAll`**, **`Screen.flipAll_hit`** — a list of flips, by the number of times that each
  pixel occurs in it.
* `mem_spritePoints`, `nodup_spritePoints` — the points of a sprite are its set bits, each of them once.
* `spriteHits` — how often a sprite covers a pixel, counted on its bits.
* `spriteHits_le_one` — at most once if the grid is as large as the sprite.
* **`Grid.drawSprite_counts`** — what drawing does to any grid, in terms of these numbers.
-/

namespace Chip8

/-! ## Pixels -/

/-- A cell of a grid, by its column and its row. -/
abbrev Pixel (width height : Nat) : Type := Fin width × Fin height

namespace Screen

variable {width height : Nat}

/-- Whether the pixel in a cell is lit. -/
def isLit (screen : Screen width height) (pixel : Pixel width height) : Bool :=
  screen.rows[pixel.2][pixel.1]

/-- Grids that show the same have the same rows. -/
lemma rows_ext {screen other : Screen width height}
    (same : ∀ pixel, screen.isLit pixel = other.isLit pixel) : screen.rows = other.rows := by
  ext row tall column wide
  exact same (⟨column, wide⟩, ⟨row, tall⟩)

lemma wrap_eq_iff [Side width] {coordinate : Int} {column : Fin width} :
    wrap width coordinate = column ↔ coordinate % width = column := by
  have positive : 0 < width := Side.positive
  have := Int.emod_nonneg coordinate (show (width : Int) ≠ 0 by omega)
  rw [Fin.ext_iff]
  show (coordinate % width).toNat = column.1 ↔ _
  omega

lemma wrap_val [Side width] (column : Fin width) : wrap width column = column := by
  rw [wrap_eq_iff]
  exact Int.emod_eq_of_lt (Int.natCast_nonneg _) (Int.ofNat_lt.2 column.isLt)

variable [Side width] [Side height]

/-- The pixel that a point stands for. -/
def pixelAt (point : Int × Int) : Pixel width height := (wrap width point.1, wrap height point.2)

lemma pixelAt_eq_iff {point : Int × Int} {pixel : Pixel width height} :
    pixelAt point = pixel ↔ point.1 % width = pixel.1 ∧ point.2 % height = pixel.2 := by
  rw [Prod.ext_iff]
  exact and_congr wrap_eq_iff wrap_eq_iff

lemma isLit_eq_lit (screen : Screen width height) (pixel : Pixel width height) :
    screen.isLit pixel = screen.lit pixel.1 pixel.2 := by
  simp only [isLit, lit, wrap_val]

/-- A flip changes the pixel that its point stands for. -/
lemma isLit_flip (screen : Screen width height) (point : Int × Int) (pixel : Pixel width height) :
    (screen.flip point.1 point.2).isLit pixel =
      (screen.isLit pixel ^^ decide (pixelAt point = pixel)) := by
  rw [isLit_eq_lit, lit_flip, ← isLit_eq_lit, wrap_val, wrap_val]
  simp only [pixelAt, Prod.ext_iff]

/-! ## Many flips -/

lemma decide_odd_add (count more : Nat) :
    decide (Odd (count + more)) = (decide (Odd count) ^^ decide (Odd more)) := by
  by_cases odd : Odd more <;> simp [Nat.odd_add, odd, ← Nat.not_odd_iff_even]

/-- **A pixel changes if it is flipped an odd number of times.** -/
theorem isLit_flipAll (screen : Screen width height) (points : List (Int × Int))
    (pixel : Pixel width height) :
    (screen.flipAll points).2.isLit pixel =
      (screen.isLit pixel ^^ decide (Odd ((points.map pixelAt).count pixel))) := by
  induction points generalizing screen with
  | nil => simp [flipAll]
  | cons point rest ih =>
      -- the other flips are made on what the first one leaves, which may be any screen
      have later := ih (screen.flip point.1 point.2)
      rw [isLit_flip] at later
      show ((screen.flip point.1 point.2).flipAll rest).2.isLit pixel = _
      rw [later, List.map_cons, List.count_cons]
      by_cases here : pixelAt point = pixel
      · simp only [here, beq_self_eq_true, ↓reduceIte, decide_odd_add, odd_one, decide_true,
          Bool.xor_true, Bool.not_xor, Bool.xor_not]
      · simp [here]

/-- **A lit pixel is met if a pixel is flipped that was lit at the start, or if one is flipped twice.** -/
theorem flipAll_hit (screen : Screen width height) (points : List (Int × Int)) :
    (screen.flipAll points).1 = true ↔
      ∃ pixel : Pixel width height,
        1 ≤ (points.map pixelAt).count pixel ∧ screen.isLit pixel = true ∨
          2 ≤ (points.map pixelAt).count pixel := by
  induction points generalizing screen with
  | nil => simp [flipAll]
  | cons point rest ih =>
      have here : screen.lit point.1 point.2 = screen.isLit (pixelAt point) := rfl
      show (screen.lit point.1 point.2 || ((screen.flip point.1 point.2).flipAll rest).1) = true ↔ _
      simp only [here, Bool.or_eq_true, ih, isLit_flip, List.map_cons, List.count_cons]
      constructor
      · rintro (lit | ⟨pixel, met⟩)
        · exact ⟨pixelAt point, .inl ⟨by simp, lit⟩⟩
        · refine ⟨pixel, ?_⟩
          by_cases same : pixelAt point = pixel
          · -- whatever the rest does to this pixel, it is not the first to flip it
            simp only [same, beq_self_eq_true, ↓reduceIte]
            right
            rcases met with ⟨once, -⟩ | twice
            · exact Nat.succ_le_succ once
            · exact Nat.le_succ_of_le twice
          · simpa [same] using met
      · rintro ⟨pixel, met⟩
        by_cases same : pixelAt point = pixel
        · subst same
          cases lit : screen.isLit (pixelAt point) with
          | true => exact .inl rfl
          | false =>
              -- the first flip lights the pixel, and the second one meets it
              right
              refine ⟨pixelAt point, .inl ⟨?_, by simp [lit]⟩⟩
              simp only [lit, beq_self_eq_true, ↓reduceIte, Bool.false_eq_true, and_false, false_or]
                at met
              exact Nat.le_of_succ_le_succ met
        · exact .inr ⟨pixel, by simpa [same] using met⟩

end Screen

/-! ## The bits of a sprite -/

/-- The columns of a sprite are the eight low bits of its rows, from the most significant one on, and
negative rows are in two's complement. -/
lemma spriteBit_eq_testBit (bits : Int) (column : Nat) :
    spriteBit bits column = bits.testBit (7 - column) := by
  unfold spriteBit
  cases bits with
  | ofNat bits =>
      show (((bits >>> (7 - column) : Nat) : Int) % 2 == 1) = bits.testBit (7 - column)
      rw [Nat.testBit_eq_decide_div_mod_eq, Nat.shiftRight_eq_div_pow, Bool.eq_iff_iff, beq_iff_eq,
        decide_eq_true_iff]
      omega
  | negSucc bits =>
      show (Int.negSucc (bits >>> (7 - column)) % 2 == 1) = !(bits.testBit (7 - column))
      rw [Nat.testBit_eq_decide_div_mod_eq, Nat.shiftRight_eq_div_pow, ← decide_not, Bool.eq_iff_iff,
        beq_iff_eq, decide_eq_true_iff]
      omega

lemma mem_spritePoints {rows : List Int} {column row : Nat} :
    (column, row) ∈ spritePoints rows ↔
      ∃ inside : row < rows.length, column < 8 ∧ rows[row].testBit (7 - column) = true := by
  simp only [spritePoints, spriteColumns, List.mem_flatMap, List.mem_map, List.mem_filter,
    List.mem_range, Prod.mk.injEq, Prod.exists, spriteBit_eq_testBit, List.mem_zipIdx_iff_getElem?,
    List.getElem?_eq_some_iff]
  constructor
  · rintro ⟨bits, _, ⟨inside, here⟩, _, ⟨small, set⟩, rfl, rfl⟩
    exact ⟨inside, small, here ▸ set⟩
  · rintro ⟨inside, small, set⟩
    exact ⟨rows[row], row, ⟨inside, rfl⟩, column, ⟨small, set⟩, rfl, rfl⟩

lemma nodup_spritePoints (rows : List Int) : (spritePoints rows).Nodup := by
  rw [spritePoints, List.nodup_flatMap]
  constructor
  · rintro ⟨bits, row⟩ -
    refine List.Nodup.map ?_ (List.nodup_range.filter _)
    intro column other same
    exact (Prod.mk.inj same).1
  · have apart : List.Pairwise (· ≠ ·) (rows.zipIdx.map Prod.snd) := by
      rw [List.zipIdx_map_snd]
      exact List.nodup_range'
    rw [List.pairwise_map] at apart
    refine apart.imp ?_
    rintro ⟨bits, row⟩ ⟨others, next⟩ different point first second
    simp only [List.mem_map] at first second
    obtain ⟨_, -, rfl⟩ := first
    obtain ⟨_, -, same⟩ := second
    exact different (Prod.mk.inj same).2.symm

/-! ## How often a sprite covers a pixel -/

section

variable {width height : Nat} {x y : Int} {rows : List Int} {pixel : Pixel width height}

/-- How often a sprite with its top left corner at (`x`, `y`) covers a pixel: the number of its columns
and rows with a set bit whose place on the grid wraps to the pixel. -/
def spriteHits (x y : Int) (rows : List Int) (pixel : Pixel width height) : Nat :=
  (Finset.univ.filter fun bit : Fin 8 × Fin rows.length =>
    rows[bit.2].testBit (7 - bit.1) = true ∧
      (x + bit.1) % width = pixel.1 ∧ (y + bit.2) % height = pixel.2).card

lemma one_le_spriteHits :
    1 ≤ spriteHits x y rows pixel ↔
      ∃ bit : Fin 8 × Fin rows.length, rows[bit.2].testBit (7 - bit.1) = true ∧
        (x + bit.1) % width = pixel.1 ∧ (y + bit.2) % height = pixel.2 := by
  simp [spriteHits, Nat.one_le_iff_ne_zero, Finset.filter_eq_empty_iff]

/-- Steps that are shorter than the side lead to different cells. -/
lemma eq_of_emod_eq {side near far : Nat} {start : Int} (first : near < side) (second : far < side)
    (same : (start + near) % side = (start + far) % side) : near = far := by
  have cancelled : (near : Int) % side = far % side := Int.ModEq.add_left_cancel' start same
  rw [Int.emod_eq_of_lt (by omega) (by omega), Int.emod_eq_of_lt (by omega) (by omega)] at cancelled
  exact_mod_cast cancelled

/-- A sprite does not run into itself on a grid that is as large as the sprite. -/
lemma spriteHits_le_one (wide : 8 ≤ width) (fits : rows.length ≤ height) :
    spriteHits x y rows pixel ≤ 1 := by
  rw [spriteHits, Finset.card_le_one]
  intro first left second right
  simp only [Finset.mem_filter, Finset.mem_univ, true_and] at left right
  obtain ⟨-, column, row⟩ := left
  obtain ⟨-, column', row'⟩ := right
  have first_column := first.1.isLt
  have second_column := second.1.isLt
  have first_row := first.2.isLt
  have second_row := second.2.isLt
  refine Prod.ext (Fin.ext ?_) (Fin.ext ?_)
  · exact eq_of_emod_eq (by omega) (by omega) (column.trans column'.symm)
  · exact eq_of_emod_eq (by omega) (by omega) (row.trans row'.symm)

namespace Screen

variable [Side width] [Side height]

/-- The pixels that a sprite flips, in order. -/
def spritePixels (x y : Int) (rows : List Int) : List (Pixel width height) :=
  ((spritePoints rows).map fun point => (x + point.1, y + point.2)).map pixelAt

/-- **A pixel is flipped as often as it is covered.** -/
lemma count_spritePixels (x y : Int) (rows : List Int) (pixel : Pixel width height) :
    (spritePixels x y rows).count pixel = spriteHits x y rows pixel := by
  -- bits are numbers in the list and positions in the sprite where they are counted
  have place : Function.Injective fun bit : Fin 8 × Fin rows.length =>
      ((bit.1 : Nat), (bit.2 : Nat)) := by
    intro first second same
    exact Prod.ext (Fin.ext (Prod.mk.inj same).1) (Fin.ext (Prod.mk.inj same).2)
  rw [spritePixels, List.map_map, List.count, List.countP_map, List.countP_eq_length_filter, spriteHits,
    ← Finset.card_image_of_injective _ place,
    ← List.toFinset_card_of_nodup ((nodup_spritePoints rows).filter _)]
  congr 1
  ext ⟨column, row⟩
  simp only [List.mem_toFinset, List.mem_filter, mem_spritePoints, Function.comp_apply, beq_iff_eq,
    pixelAt_eq_iff, Finset.mem_image, Finset.mem_filter, Finset.mem_univ, true_and, Prod.mk.injEq,
    Prod.exists]
  constructor
  · rintro ⟨⟨inside, small, set⟩, here⟩
    exact ⟨⟨column, small⟩, ⟨row, inside⟩, ⟨set, here⟩, rfl, rfl⟩
  · rintro ⟨column, row, ⟨set, here⟩, rfl, rfl⟩
    exact ⟨⟨row.isLt, column.isLt, set⟩, here⟩

/-! ## Drawing -/

lemma isLit_drawSprite (screen : Screen width height) (x y : Int) (rows : List Int)
    (pixel : Pixel width height) :
    (screen.drawSprite x y rows).2.isLit pixel =
      (screen.isLit pixel ^^ decide (Odd (spriteHits x y rows pixel))) := by
  rw [← count_spritePixels]
  exact isLit_flipAll screen _ pixel

lemma drawSprite_hit (screen : Screen width height) (x y : Int) (rows : List Int) :
    (screen.drawSprite x y rows).1 = true ↔
      ∃ pixel : Pixel width height,
        1 ≤ spriteHits x y rows pixel ∧ screen.isLit pixel = true ∨ 2 ≤ spriteHits x y rows pixel := by
  simp only [← count_spritePixels]
  exact flipAll_hit screen _

section

variable (screen : Screen width height) (x y : Int) (wide : 8 ≤ width)
  (fits : rows.length ≤ height)
include wide fits

/-- On a grid that is as large as the sprite the pixels that it covers change. -/
lemma isLit_drawSprite_of_fits (pixel : Pixel width height) :
    (screen.drawSprite x y rows).2.isLit pixel =
      (screen.isLit pixel ^^ decide (1 ≤ spriteHits x y rows pixel)) := by
  have once : spriteHits x y rows pixel ≤ 1 := spriteHits_le_one wide fits
  rw [isLit_drawSprite]
  congr 2
  rw [eq_iff_iff]
  constructor
  · rintro ⟨half, double⟩
    omega
  · intro covered
    exact Nat.le_antisymm once covered ▸ odd_one

/-- And a lit pixel is met if it covers one. -/
lemma drawSprite_hit_of_fits :
    (screen.drawSprite x y rows).1 = true ↔
      ∃ pixel : Pixel width height, 1 ≤ spriteHits x y rows pixel ∧ screen.isLit pixel = true := by
  rw [drawSprite_hit]
  refine exists_congr fun pixel => or_iff_left ?_
  exact Nat.not_le.2 (Nat.lt_succ_of_le (spriteHits_le_one wide fits))

end

end Screen
end

namespace Grid

/-- On a grid with pixels nothing that touches one of them is refused. -/
lemma atPixel_run {α : Type} (grid : Grid) [Side grid.width.toNat] [Side grid.height.toNat]
    (operation : [Side grid.width.toNat] → [Side grid.height.toNat] →
      Screen grid.width.toNat grid.height.toNat → α × Screen grid.width.toNat grid.height.toNat) :
    grid.atPixel operation =
      .ok ((operation grid.screen).1, { grid with screen := (operation grid.screen).2 }) := by
  have wide : 0 < grid.width.toNat := Side.positive
  have tall : 0 < grid.height.toNat := Side.positive
  rw [atPixel, dif_pos (by omega), dif_pos (by omega)]

/-- On a grid with pixels a sprite is drawn as on a screen, and the sides stay. -/
lemma drawSprite_run (grid : Grid) [Side grid.width.toNat] [Side grid.height.toNat] (x y : Int)
    (rows : List Int) :
    grid.drawSprite x y rows =
      .ok ((grid.screen.drawSprite x y rows).1,
        { grid with screen := (grid.screen.drawSprite x y rows).2 }) := by
  have wide : 0 < grid.width.toNat := Side.positive
  have tall : 0 < grid.height.toNat := Side.positive
  have sides : ¬ (grid.width = 0 ∨ grid.height = 0) := by omega
  rw [drawSprite, if_neg sides]
  split
  next empty =>
    rw [Screen.drawSprite, List.isEmpty_iff.1 empty]
    rfl
  next => exact grid.atPixel_run _

/-- **Drawing a sprite on any grid.**  Wherever its corner is and however large it is, drawing is not
refused and keeps the sides; the pixels that change are those that the sprite covers an odd number of
times; and the answer is whether it covers a pixel that was lit, or covers one twice. -/
theorem drawSprite_counts (grid : Grid) (wide : 0 < grid.width) (tall : 0 < grid.height) (x y : Int)
    (rows : List Int) :
    ∃ hit screen, grid.drawSprite x y rows = .ok (hit, { grid with screen }) ∧
      (∀ pixel, screen.isLit pixel =
        (grid.screen.isLit pixel ^^ decide (Odd (spriteHits x y rows pixel)))) ∧
      (hit = true ↔ ∃ pixel : Pixel grid.width.toNat grid.height.toNat,
        1 ≤ spriteHits x y rows pixel ∧ grid.screen.isLit pixel = true ∨
          2 ≤ spriteHits x y rows pixel) := by
  have : Side grid.width.toNat := ⟨by omega⟩
  have : Side grid.height.toNat := ⟨by omega⟩
  exact ⟨_, _, grid.drawSprite_run x y rows, grid.screen.isLit_drawSprite x y rows,
    grid.screen.drawSprite_hit x y rows⟩

/-- Three rows on a dark grid of three columns and two rows: the sprite meets itself, and pixels that are
covered two or four times are dark again. -/
theorem drawSprite_counts_overlap :
    ∃ hit screen,
      Grid.drawSprite ⟨3, 2, .blank _ _⟩ (-1) 5 [0xFF, -0x80, 0x180] = .ok (hit, ⟨3, 2, screen⟩) ∧
        hit = true ∧
        screen.isLit (⟨0, by decide⟩, ⟨1, by decide⟩) = true ∧
        screen.isLit (⟨1, by decide⟩, ⟨1, by decide⟩) = false ∧
        screen.isLit (⟨2, by decide⟩, ⟨1, by decide⟩) = false ∧
        screen.isLit (⟨2, by decide⟩, ⟨0, by decide⟩) = true := by
  obtain ⟨hit, screen, drawn, pixels, met⟩ :=
    drawSprite_counts ⟨3, 2, .blank _ _⟩ (by decide) (by decide) (-1) 5 [0xFF, -0x80, 0x180]
  refine ⟨hit, screen, drawn, met.2 ⟨(⟨1, by decide⟩, ⟨1, by decide⟩), .inr ?_⟩, ?_, ?_, ?_, ?_⟩
  · decide +kernel
  all_goals
    rw [pixels]
    decide +kernel

end Grid

end Chip8
