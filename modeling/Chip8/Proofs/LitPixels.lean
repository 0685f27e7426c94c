import Chip8.Proofs.Sprites
import Mathlib.Algebra.BigOperators.Fin

/-!
# How many pixels are lit

Drawing a sprite lights the dark pixels that it covers and darkens the lit ones.  If it does not run into
itself, each of its set bits goes to a pixel of its own, so the number of lit pixels grows by the number of
bits, except that each lit pixel that was covered is lost twice: it is not lit, and no longer counted.

* `Screen.litCount_eq_sum` — the number of lit pixels as a sum over the cells of the grid.
* `setBits` — the number of set bits in a row of a sprite; `sum_spriteHits` — they all go somewhere.
* **`Screen.litCount_drawSprite`** — the number of lit pixels after drawing, and what that says about the
  answer.
-/

namespace Chip8

/-! ## Counting pixels -/

lemma sum_map_toList {α : Type} {length : Nat} (cells : Vector α length) (weight : α → Nat) :
    (cells.toList.map weight).sum = ∑ position : Fin length, weight cells[position] := by
  have listed : cells.toList = List.ofFn fun position : Fin length => cells[position] :=
    List.ext_getElem (by simp) (by simp)
  rw [listed, List.map_ofFn, List.sum_ofFn]
  rfl

lemma count_true_eq_sum (row : List Bool) : row.count true = (row.map Bool.toNat).sum := by
  induction row with
  | nil => rfl
  | cons lit rest ih => cases lit <;> simp [ih, Nat.add_comm]

/-- The number of lit pixels, cell by cell. -/
lemma Screen.litCount_eq_sum {width height : Nat} (screen : Screen width height) :
    screen.litCount = ∑ pixel : Pixel width height, (screen.isLit pixel).toNat := by
  rw [litCount, ← List.sum_eq_foldl, sum_map_toList, Fintype.sum_prod_type_right]
  refine Finset.sum_congr rfl fun row _ => ?_
  rw [count_true_eq_sum, sum_map_toList]
  rfl

/-! ## Counting bits -/

/-- The number of set bits among the eight low ones. -/
def setBits (row : Int) : Nat := (List.range 8).countP row.testBit

lemma length_spriteColumns (row : Int) : (spriteColumns row).length = setBits row := by
  have mirrored : (List.range 8).map (7 - ·) = (List.range 8).reverse := rfl
  have same : spriteBit row = row.testBit ∘ (7 - ·) := funext (spriteBit_eq_testBit row)
  rw [spriteColumns, ← List.countP_eq_length_filter, same, ← List.countP_map, mirrored,
    List.countP_reverse, setBits]

lemma length_spritePoints (rows : List Int) :
    (spritePoints rows).length = (rows.map setBits).sum := by
  have columns : (fun row : Int × Nat => setBits row.1) = setBits ∘ Prod.fst := rfl
  simp only [spritePoints, List.length_flatMap, List.length_map, length_spriteColumns]
  rw [columns, ← List.map_map, List.zipIdx_map_fst]

section

variable {width height : Nat} [Side width] [Side height]

/-- **Every set bit covers one pixel.** -/
lemma sum_spriteHits (x y : Int) (rows : List Int) :
    ∑ pixel : Pixel width height, spriteHits x y rows pixel = (rows.map setBits).sum := by
  let pixels : List (Pixel width height) := Screen.spritePixels x y rows
  calc ∑ pixel, spriteHits x y rows pixel
      = ∑ pixel, (pixels : Multiset (Pixel width height)).count pixel := by
        refine Finset.sum_congr rfl fun pixel _ => ?_
        rw [Multiset.coe_count, ← Screen.count_spritePixels]
        -- pairs are compared part by part on one side and as a whole on the other
        congr
        exact lawful_beq_subsingleton _ _
    _ = pixels.length := Multiset.sum_count_eq_card fun pixel _ => Finset.mem_univ pixel
    _ = (rows.map setBits).sum := by
        simp only [pixels, Screen.spritePixels, List.length_map, length_spritePoints]

/-! ## Drawing -/

namespace Screen

/-- **Lit pixels are conserved.**  On a grid that is as large as the sprite the number of lit pixels grows
by the number of the sprite's set bits, less two for each lit pixel that it covers; so no lit pixel was met
exactly if the number grows by all of the bits. -/
theorem litCount_drawSprite (screen : Screen width height) (wide : 8 ≤ width) {rows : List Int}
    (fits : rows.length ≤ height) (x y : Int) :
    let drawn := screen.drawSprite x y rows
    let bits := (rows.map setBits).sum
    let covered := (Finset.univ.filter fun pixel : Pixel width height =>
      1 ≤ spriteHits x y rows pixel ∧ screen.isLit pixel = true).card
    (drawn.2.litCount : Int) = screen.litCount + bits - 2 * covered ∧
      (drawn.1 = false ↔ drawn.2.litCount = screen.litCount + bits) := by
  intro drawn bits covered
  -- without the subtraction the equation holds for each pixel, and so for their sums
  have balance : drawn.2.litCount + 2 * covered = screen.litCount + bits := by
    have each (pixel : Pixel width height) :
        (drawn.2.isLit pixel).toNat +
            2 * (if 1 ≤ spriteHits x y rows pixel ∧ screen.isLit pixel = true then 1 else 0) =
          (screen.isLit pixel).toNat + spriteHits x y rows pixel := by
      have once : spriteHits x y rows pixel ≤ 1 := spriteHits_le_one wide fits
      rw [isLit_drawSprite_of_fits screen x y wide fits]
      rcases Nat.le_one_iff_eq_zero_or_eq_one.1 once with zero | one
      · simp [zero]
      · cases screen.isLit pixel <;> simp [one]
    have all : ∑ pixel : Pixel width height, spriteHits x y rows pixel = bits := sum_spriteHits x y rows
    simp only [covered, litCount_eq_sum, Finset.card_filter, ← all, Finset.mul_sum,
      ← Finset.sum_add_distrib, each]
  have met : drawn.1 = false ↔ covered = 0 := by
    rw [← Bool.not_eq_true, drawSprite_hit_of_fits screen x y wide fits, Finset.card_eq_zero,
      Finset.filter_eq_empty_iff]
    simp
  refine ⟨by omega, ?_⟩
  rw [met]
  omega

/-- Five bits over the corner of a grid with three lit pixels, of which they cover two. -/
theorem litCount_drawSprite_corner :
    let screen : Screen 9 3 := (((blank 9 3).flip 7 2).flip 6 0).flip 0 0
    let drawn := screen.drawSprite 6 (-1) [0x1C3, -0x80]
    screen.litCount = 3 ∧ drawn.2.litCount = 4 ∧ drawn.1 = true := by
  intro screen drawn
  obtain ⟨after, clear⟩ :=
    litCount_drawSprite screen (by decide) (show [0x1C3, -0x80].length ≤ 3 by decide) 6 (-1)
  have before : screen.litCount = 3 := by decide +kernel
  have bits : ([0x1C3, -0x80].map setBits).sum = 5 := by decide +kernel
  have covered : (Finset.univ.filter fun pixel : Pixel 9 3 =>
      1 ≤ spriteHits 6 (-1) [0x1C3, -0x80] pixel ∧ screen.isLit pixel = true).card = 2 := by
    decide +kernel
  rw [before, bits] at after clear
  rw [covered] at after
  have count : drawn.2.litCount = 4 := Int.ofNat.inj after
  refine ⟨before, count, ?_⟩
  rw [← Bool.not_eq_false, clear]
  show ¬ drawn.2.litCount = 8
  omega

end Screen
end

end Chip8
