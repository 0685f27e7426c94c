import Chip8.Proofs.Sprites
import Mathlib.Algebra.BigOperators.Group.List.Basic
import Mathlib.Data.List.InsertIdx

/-!
# Sprites over sprites

Programs animate by drawing a sprite where it is to vanish and once more where it is to appear.  That works
because flips count only modulo two: what is on the screen after many sprites depends neither on their
order nor on those that were drawn twice.  The answers do depend on the order; but of two draws in a row
one has to meet what the other has lit.

* `Sprite`, `Screen.drawAll` — sprites in their places, drawn one after the other.
* **`Screen.isLit_drawAll`** — a pixel changes if the sprites together cover it an odd number of times.
* `Screen.rows_drawAll_perm`, `Screen.rows_drawAll_twice` — what follows for orders, and for sprites that
  are drawn twice.
* `Screen.draw_twice_hit` — the answers if a sprite is drawn twice in a row.
* **`Screen.draws_commute_and_cancel`** — the three together.
-/

namespace Chip8

/-- A sprite and the place of its top left corner. -/
structure Sprite where
  x : Int
  y : Int
  rows : List Int
  deriving DecidableEq, Repr

section

variable {width height : Nat}

/-- How often sprites cover a pixel. -/
def totalHits (sprites : List Sprite) (pixel : Pixel width height) : Nat :=
  (sprites.map fun sprite => spriteHits sprite.x sprite.y sprite.rows pixel).sum

namespace Screen

variable [Side width] [Side height]

/-- Draws a sprite in its place. -/
def draw (screen : Screen width height) (sprite : Sprite) : Bool × Screen width height :=
  screen.drawSprite sprite.x sprite.y sprite.rows

/-- Draws sprites one after the other. -/
def drawAll (screen : Screen width height) (sprites : List Sprite) : Screen width height :=
  sprites.foldl (fun screen sprite => (screen.draw sprite).2) screen

variable (screen : Screen width height)

/-! ## What is on the screen -/

/-- **A pixel changes if the sprites together cover it an odd number of times.** -/
theorem isLit_drawAll (sprites : List Sprite) (pixel : Pixel width height) :
    (screen.drawAll sprites).isLit pixel =
      (screen.isLit pixel ^^ decide (Odd (totalHits sprites pixel))) := by
  induction sprites generalizing screen with
  | nil => simp [drawAll, totalHits]
  | cons sprite rest ih =>
      show ((screen.draw sprite).2.drawAll rest).isLit pixel = _
      rw [ih, draw, isLit_drawSprite, Bool.xor_assoc, ← decide_odd_add]
      rfl

lemma rows_drawAll_perm {sprites others : List Sprite} (perm : others.Perm sprites) :
    (screen.drawAll others).rows = (screen.drawAll sprites).rows := by
  refine rows_ext fun pixel => ?_
  have same : totalHits others pixel = totalHits sprites pixel := (perm.map _).sum_eq
  rw [isLit_drawAll, isLit_drawAll, same]

lemma rows_drawAll_twice (sprite : Sprite) (sprites : List Sprite) :
    (screen.drawAll (sprite :: sprite :: sprites)).rows = (screen.drawAll sprites).rows := by
  refine rows_ext fun pixel => ?_
  have doubled : totalHits (sprite :: sprite :: sprites) pixel =
      2 * spriteHits sprite.x sprite.y sprite.rows pixel + totalHits sprites pixel := by
    simp only [totalHits, List.map_cons, List.sum_cons]
    omega
  have even : ¬ Odd (2 * spriteHits sprite.x sprite.y sprite.rows pixel) :=
    Nat.not_odd_iff_even.2 (even_two_mul _)
  rw [isLit_drawAll, isLit_drawAll, doubled, decide_odd_add, decide_eq_false even, Bool.false_xor]

/-! ## Answers -/

variable (width height) in
/-- Some pixel is covered if some bit is set among those that count. -/
lemma exists_spriteHits (x y : Int) (rows : List Int) :
    (∃ pixel : Pixel width height, 1 ≤ spriteHits x y rows pixel) ↔
      ∃ row ∈ rows, ∃ bit < 8, row.testBit bit = true := by
  simp only [one_le_spriteHits]
  constructor
  · rintro ⟨-, ⟨column, row⟩, set, -⟩
    exact ⟨rows[row], List.getElem_mem _, 7 - column, by omega, set⟩
  · rintro ⟨row, member, bit, low, set⟩
    obtain ⟨position, inside, rfl⟩ := List.getElem_of_mem member
    let point : Int × Int := (x + (7 - bit : Nat), y + position)
    have here : (pixelAt point : Pixel width height) = pixelAt point := rfl
    refine ⟨pixelAt point, (⟨7 - bit, by omega⟩, ⟨position, inside⟩), ?_, pixelAt_eq_iff.1 here⟩
    show rows[position].testBit (7 - (7 - bit)) = true
    rwa [Nat.sub_sub_self (Nat.le_of_lt_succ low)]

/-- Whatever is on the screen, a sprite that is drawn twice in a row meets a lit pixel at least once,
unless it is empty. -/
lemma draw_twice_hit (wide : 8 ≤ width) {sprite : Sprite} (fits : sprite.rows.length ≤ height) :
    ((screen.draw sprite).1 = true ∨ ((screen.draw sprite).2.draw sprite).1 = true) ↔
      ∃ row ∈ sprite.rows, ∃ bit < 8, row.testBit bit = true := by
  rw [← exists_spriteHits width height sprite.x sprite.y]
  simp only [draw, drawSprite_hit_of_fits _ _ _ wide fits, isLit_drawSprite_of_fits _ _ _ wide fits]
  constructor
  · rintro (⟨pixel, covered, -⟩ | ⟨pixel, covered, -⟩)
    · exact ⟨pixel, covered⟩
    · exact ⟨pixel, covered⟩
  · rintro ⟨pixel, covered⟩
    cases lit : screen.isLit pixel with
    | true => exact .inl ⟨pixel, covered, lit⟩
    | false => exact .inr ⟨pixel, covered, by simp [lit, covered]⟩

/-- **Drawing commutes and cancels.**  What sprites leave on the screen does not depend on their order, and
a second copy of one of them, wherever it is drawn, undoes the first.  On a screen that is as large as a
sprite, drawing it twice in a row meets a lit pixel exactly if one of the bits that count is set, whatever
was on the screen. -/
theorem draws_commute_and_cancel (sprites : List Sprite) :
    (∀ others, others.Perm sprites → (screen.drawAll others).rows = (screen.drawAll sprites).rows) ∧
    (∀ (position place : Nat) (inside : position < sprites.length), place ≤ sprites.length →
      (screen.drawAll (sprites.insertIdx place sprites[position])).rows =
        (screen.drawAll (sprites.eraseIdx position)).rows) ∧
    (8 ≤ width → ∀ sprite : Sprite, sprite.rows.length ≤ height →
      let (first, once) := screen.draw sprite
      let (second, _) := once.draw sprite
      (first = true ∨ second = true ↔ ∃ row ∈ sprite.rows, ∃ bit < 8, row.testBit bit = true)) := by
  refine ⟨fun others perm => screen.rows_drawAll_perm perm, ?_, ?_⟩
  · intro position place inside within
    have copied : (sprites.insertIdx place sprites[position]).Perm
        (sprites[position] :: sprites[position] :: sprites.eraseIdx position) :=
      (List.perm_insertIdx _ _ within).trans ((List.getElem_cons_eraseIdx_perm inside).symm.cons _)
    rw [screen.rows_drawAll_perm copied, rows_drawAll_twice]
  · intro wide sprite fits
    exact screen.draw_twice_hit wide fits

/-- Three sprites that overlap and wrap on a small screen: backwards they leave the same on it, a copy of
the first between the others undoes it, and a sprite of which only bit 0 counts meets what it has lit. -/
theorem draws_commute_and_cancel_small :
    let screen : Screen 9 4 := (blank 9 4).flip 1 1
    let sprites : List Sprite := [⟨-3, 7, [0xF0, -1]⟩, ⟨7, 0, [0x3C, 0, 0xFF]⟩, ⟨2, 2, [0x101]⟩]
    (screen.drawAll sprites.reverse).rows = (screen.drawAll sprites).rows ∧
      (screen.drawAll (sprites.insertIdx 2 sprites[0])).rows =
        (screen.drawAll (sprites.eraseIdx 0)).rows ∧
      ((screen.draw sprites[2]).1 = true ∨ ((screen.draw sprites[2]).2.draw sprites[2]).1 = true) := by
  intro screen sprites
  obtain ⟨perm, copied, twice⟩ := screen.draws_commute_and_cancel sprites
  refine ⟨perm _ (List.reverse_perm _), copied 0 2 (by decide) (by decide), ?_⟩
  exact (twice (by decide) sprites[2] (by decide)).2 ⟨0x101, by decide, 0, by decide, by decide⟩

end Screen
end

end Chip8
