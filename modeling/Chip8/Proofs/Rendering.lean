import Chip8.Proofs.LitPixels

/-!
# Screens as text

A front end shows nothing of a grid but its text.  The text can be taken apart again: the characters that
stand for pixels are no line breaks, so its lines are the rows, and the two characters are different, so each
of them tells of one pixel.  That holds of every grid that a host can draw, because no operation changes the
shape of the grid, and each of them touches the pixels that its coordinates wrap to and no others.

* `Text.linesOf`, `Text.linesOf_intercalate`, `Text.count_linesOf` — a text as lines.
* `Screen.linesOf_render` — the lines of a rendered grid are its rows.
* `Grid.Edit`, `Grid.edit` — what a host can ask of a grid; `Grid.Edit.leaves` — what that does to a pixel.
* **`Grid.editAll_run`** — every run of edits is carried out, and each pixel follows the edits on its own.
* `Grid.ShownBy`, `Grid.shownBy_render` — a text that shows a grid; `Grid.eq_of_render_eq` — and no other.
* **`Grid.render_faithful`** — what is drawn on a grid is what its text shows.
-/

namespace Chip8

/-! ## Lines -/

namespace Text

/-- The lines of a text, without the breaks between them. -/
def linesOf (text : String) : List (List Char) := text.toList.splitOn '\n'

/-- Lines that are joined by breaks are found again, unless one of them contains a break. -/
lemma linesOf_intercalate {lines : List String} (filled : lines ≠ [])
    (unbroken : ∀ line ∈ lines.map String.toList, '\n' ∉ line) :
    linesOf ("\n".intercalate lines) = lines.map String.toList := by
  rw [linesOf, String.toList_intercalate]
  exact List.splitOn_intercalate '\n' unbroken (by simpa using filled)

lemma count_intercalate {separator : List Char} {char : Char} (other : char ∉ separator)
    (lines : List (List Char)) :
    (separator.intercalate lines).count char = (lines.map (List.count char)).sum := by
  induction lines with
  | nil => simp
  | cons line rest ih =>
      cases rest with
      | nil => simp
      | cons next rest =>
          rw [List.intercalate_cons_cons, List.count_append, List.count_append, ih,
            List.count_eq_zero_of_not_mem other, Nat.add_zero]
          rfl

/-- Whatever is not a break is on some line. -/
lemma count_linesOf (text : String) {char : Char} (inside : char ≠ '\n') :
    text.toList.count char = ((linesOf text).map (List.count char)).sum := by
  have joined : ['\n'].intercalate (linesOf text) = text.toList := List.intercalate_splitOn '\n'
  rw [← joined, count_intercalate (by simpa using inside)]

end Text

/-! ## Rows as lines -/

namespace Screen

variable {width height : Nat} {on off : Char}

/-- A row of pixels as characters. -/
def marks (on off : Char) (row : List Bool) : List Char := row.map fun lit => if lit then on else off

lemma toList_line (on off : Char) (row : List Bool) :
    (String.join (row.map fun lit => if lit then String.singleton on else String.singleton off)).toList =
      marks on off row := by
  induction row with
  | nil => rfl
  | cons lit rest ih => cases lit <;> simp_all [marks]

lemma notMem_marks {char : Char} (on_other : on ≠ char) (off_other : off ≠ char) (row : List Bool) :
    char ∉ marks on off row := by
  simp only [marks, List.mem_map, not_exists, not_and]
  rintro lit -
  cases lit
  · exact off_other
  · exact on_other

lemma count_marks (distinct : on ≠ off) (row : List Bool) :
    (marks on off row).count on = row.count true := by
  induction row with
  | nil => rfl
  | cons lit rest ih => cases lit <;> simp_all [marks, distinct.symm]

lemma marks_injective (distinct : on ≠ off) : Function.Injective (marks on off) := by
  refine List.map_injective_iff.2 fun lit other same => ?_
  cases lit <;> cases other <;> simp_all [distinct.symm]

/-- The pixels, row by row. -/
def pixels (screen : Screen width height) : List (List Bool) := screen.rows.toList.map Vector.toList

lemma length_pixels (screen : Screen width height) : screen.pixels.length = height := by simp [pixels]

lemma length_of_mem_pixels {screen : Screen width height} {row : List Bool}
    (member : row ∈ screen.pixels) : row.length = width := by
  obtain ⟨cells, -, rfl⟩ := List.mem_map.1 member
  exact cells.length_toList

lemma getElem?_marks (screen : Screen width height) (on off : Char) (pixel : Pixel width height) :
    (screen.pixels.map (marks on off))[pixel.2.1]?.bind (·[pixel.1.1]?) =
      some (if screen.isLit pixel then on else off) := by
  simp only [pixels, marks, isLit, List.getElem?_map, Vector.getElem?_toList, Vector.getElem?_eq_getElem,
    Fin.is_lt, Option.map_some, Option.bind_some, Fin.getElem_fin]
  rfl

lemma litCount_eq_sum_pixels (screen : Screen width height) :
    screen.litCount = (screen.pixels.map (List.count true)).sum := by
  rw [litCount, ← List.sum_eq_foldl, pixels, List.map_map]
  rfl

/-- **The lines of a rendered grid are its rows.** -/
lemma linesOf_render [tall : Side height] (screen : Screen width height) (on_inside : on ≠ '\n')
    (off_inside : off ≠ '\n') :
    Text.linesOf (screen.render (.singleton on) (.singleton off)) =
      screen.pixels.map (marks on off) := by
  have rows : (screen.lines (.singleton on) (.singleton off)).map String.toList =
      screen.pixels.map (marks on off) := by
    simp only [lines, pixels, List.map_map]
    exact List.map_congr_left fun row _ => toList_line on off row.toList
  have filled : screen.lines (.singleton on) (.singleton off) ≠ [] := by
    rw [← List.length_pos_iff, length_lines]
    exact tall.positive
  rw [render, Text.linesOf_intercalate filled, rows]
  rw [rows, List.forall_mem_map]
  exact fun row _ => notMem_marks on_inside off_inside row

end Screen

/-! ## Edits -/

lemma Screen.isLit_blank {width height : Nat} (pixel : Pixel width height) :
    (blank width height).isLit pixel = false := by simp [isLit, blank]

/-- Setting a pixel gives it its value and keeps all others. -/
lemma Screen.isLit_set {width height : Nat} [Side width] [Side height] (screen : Screen width height)
    (x y : Int) (value : Bool) (pixel : Pixel width height) :
    (screen.set x y value).isLit pixel =
      if pixelAt (x, y) = pixel then value else screen.isLit pixel := by
  have here : screen.lit x y = screen.isLit (pixelAt (x, y)) := rfl
  unfold set
  split
  next same =>
    -- the pixel has its value already
    split
    next at_pixel => rw [← at_pixel, ← here, same]
    next => rfl
  next =>
    rw [isLit_eq_lit, lit_replace, ← isLit_eq_lit, wrap_val, wrap_val]
    simp only [pixelAt, Prod.ext_iff]

namespace Grid

/-- What a host can ask of a grid to change its pixels. -/
inductive Edit where
  | set (x y : Int) (value : Bool)
  | flip (x y : Int)
  | sprite (x y : Int) (rows : List Int)
  | clear
  deriving DecidableEq, Repr

/-- What an edit leaves of a pixel that is lit or dark. -/
def Edit.leaves {width height : Nat} (pixel : Pixel width height) (lit : Bool) : Edit → Bool
  | set x y value => if x % width = pixel.1 ∧ y % height = pixel.2 then value else lit
  | flip x y => lit ^^ decide (x % width = pixel.1 ∧ y % height = pixel.2)
  | sprite x y rows => lit ^^ decide (Odd (spriteHits x y rows pixel))
  | clear => false

/-- Carries out an edit; what it answers is not kept. -/
def edit (grid : Grid) : Edit → Except Error Grid
  | .set x y value => return (← grid.set x y value).2
  | .flip x y => return (← grid.flip x y).2
  | .sprite x y rows => return (← grid.drawSprite x y rows).2
  | .clear => return grid.clear

/-- Carries out edits, one after the other. -/
def editAll (grid : Grid) (edits : List Edit) : Except Error Grid := edits.foldlM edit grid

section

variable (grid : Grid) [Side grid.width.toNat] [Side grid.height.toNat]

lemma lit_run (x y : Int) : grid.lit x y = .ok (grid.screen.lit x y, grid) := grid.atPixel_run _

/-- An edit is carried out, keeps the sides, and acts on each pixel by itself. -/
lemma edit_run (edit : Edit) :
    ∃ screen, grid.edit edit = .ok { grid with screen } ∧
      ∀ pixel, screen.isLit pixel = edit.leaves pixel (grid.screen.isLit pixel) := by
  cases edit with
  | set x y value =>
      refine ⟨grid.screen.set x y value, ?_, fun pixel => ?_⟩
      · rw [Grid.edit, Grid.set, atPixel_run]
        rfl
      · simp only [Edit.leaves, Screen.isLit_set, Screen.pixelAt_eq_iff]
  | flip x y =>
      refine ⟨grid.screen.flip x y, ?_, fun pixel => ?_⟩
      · rw [Grid.edit, Grid.flip, atPixel_run]
        rfl
      · rw [Screen.isLit_flip grid.screen (x, y)]
        simp only [Edit.leaves, Screen.pixelAt_eq_iff]
  | sprite x y rows =>
      refine ⟨(grid.screen.drawSprite x y rows).2, ?_, grid.screen.isLit_drawSprite x y rows⟩
      rw [Grid.edit, drawSprite_run]
      rfl
  | clear =>
      refine ⟨grid.screen.clear, rfl, fun pixel => ?_⟩
      rw [Screen.isLit_eq_lit, Screen.lit_clear]
      rfl

/-- **A run of edits is carried out**, and each pixel goes through it by itself. -/
lemma editAll_run (edits : List Edit) :
    ∃ screen, grid.editAll edits = .ok { grid with screen } ∧
      ∀ pixel, screen.isLit pixel =
        edits.foldl (fun lit edit => edit.leaves pixel lit) (grid.screen.isLit pixel) := by
  induction edits generalizing grid with
  | nil => exact ⟨grid.screen, rfl, fun _ => rfl⟩
  | cons edit rest ih =>
      obtain ⟨once, carried, first⟩ := grid.edit_run edit
      obtain ⟨screen, finished, later⟩ := ih { grid with screen := once }
      refine ⟨screen, ?_, fun pixel => ?_⟩
      · rw [editAll, List.foldlM_cons, carried]
        exact finished
      · rw [later, first]
        rfl

end

/-! ## Texts of grids -/

/-- A text that shows a grid: its lines are the rows, and its characters tell which pixels are lit. -/
structure ShownBy (grid : Grid) (on off : Char) (text : String) : Prop where
  lines : (Text.linesOf text).length = grid.height
  columns : ∀ line ∈ Text.linesOf text, line.length = grid.width
  characters : ∀ x y : Nat, x < grid.width → y < grid.height →
    ∃ (char : Char) (lit : Bool), (Text.linesOf text)[y]?.bind (·[x]?) = some char ∧
      grid.lit x y = .ok (lit, grid) ∧ (char = on ↔ lit = true) ∧ (char = off ↔ lit = false)
  count : text.toList.count on = grid.screen.litCount

variable {grid : Grid} {on off : Char}

/-- **Rendering shows the grid.** -/
lemma shownBy_render (grid : Grid) [wide : Side grid.width.toNat] [tall : Side grid.height.toNat]
    (distinct : on ≠ off) (on_inside : on ≠ '\n') (off_inside : off ≠ '\n') :
    grid.ShownBy on off (grid.screen.render (.singleton on) (.singleton off)) := by
  have rows := grid.screen.linesOf_render on_inside off_inside
  have := wide.positive
  have := tall.positive
  constructor
  case lines =>
      rw [rows, List.length_map, Screen.length_pixels]
      omega
  case columns =>
      rw [rows, List.forall_mem_map]
      intro row member
      rw [Screen.marks, List.length_map, Screen.length_of_mem_pixels member]
      omega
  case characters =>
      intro x y left above
      let pixel : Pixel grid.width.toNat grid.height.toNat := (⟨x, by omega⟩, ⟨y, by omega⟩)
      refine ⟨if grid.screen.isLit pixel then on else off, grid.screen.isLit pixel, ?_, ?_, ?_⟩
      · rw [rows]
        exact grid.screen.getElem?_marks on off pixel
      · rw [lit_run, Screen.isLit_eq_lit]
      · cases grid.screen.isLit pixel <;> simp [distinct, distinct.symm]
  case count =>
      rw [Text.count_linesOf _ on_inside, rows, List.map_map, Screen.litCount_eq_sum_pixels]
      exact congrArg List.sum (List.map_congr_left fun row _ => Screen.count_marks distinct row)

/-- **A text shows one grid only.**  Grids that are rendered alike have the same sides and the same pixels. -/
lemma eq_of_render_eq {other : Grid} [wide : Side grid.width.toNat] [tall : Side grid.height.toNat]
    [Side other.width.toNat] [Side other.height.toNat] (distinct : on ≠ off)
    (on_inside : on ≠ '\n') (off_inside : off ≠ '\n')
    (same : other.screen.render (.singleton on) (.singleton off) =
      grid.screen.render (.singleton on) (.singleton off)) :
    other.width = grid.width ∧ other.height = grid.height ∧ other.screen.pixels = grid.screen.pixels := by
  have shown := grid.shownBy_render distinct on_inside off_inside
  have shown' := other.shownBy_render distinct on_inside off_inside
  rw [same] at shown'
  have rows : grid.screen.pixels = other.screen.pixels := by
    refine List.map_injective_iff.2 (Screen.marks_injective distinct) ?_
    rw [← Screen.linesOf_render _ on_inside off_inside, ← Screen.linesOf_render _ on_inside off_inside,
      same]
  -- there is a first line
  obtain ⟨line, member⟩ : ∃ line,
      line ∈ Text.linesOf (grid.screen.render (.singleton on) (.singleton off)) := by
    have := tall.positive
    have lines := shown.lines
    exact List.exists_mem_of_length_pos (by omega)
  exact ⟨(shown'.columns line member).symm.trans (shown.columns line member),
    shown'.lines.symm.trans shown.lines, rows.symm⟩

/-- A grid that is created is dark and has the sides that were asked for. -/
lemma eq_of_ofSides {width height : Int} {dark : Grid} (created : ofSides width height = .ok dark) :
    dark = ⟨width, height, .blank _ _⟩ := by
  unfold ofSides at created
  split at created
  next =>
    cases fits : checkExtent width with
    | ok _ =>
        rw [fits] at created
        exact (Except.ok.inj created).symm
    | error error =>
        rw [fits] at created
        cases created
  next => exact (Except.ok.inj created).symm

/-- **Rendering is faithful.**  Whatever is asked of a dark grid with pixels, and wherever, nothing is
refused, the sides stay, and each pixel follows the edits on its own.  Rendered with two different characters
that are no breaks, the grid has a line for each row and a character for each pixel, which tells whether the
pixel is lit; there are as many of the first character as there are lit pixels; and no grid with other pixels,
or with other sides, is rendered alike. -/
theorem render_faithful {width height : Int} (wide : 1 ≤ width) (tall : 1 ≤ height) {dark : Grid}
    (created : ofSides width height = .ok dark) (edits : List Edit) {on off : Char} (distinct : on ≠ off)
    (on_inside : on ≠ '\n') (off_inside : off ≠ '\n') :
    ∃ grid, dark.editAll edits = .ok grid ∧ grid.width = width ∧ grid.height = height ∧
      (∀ pixel, grid.screen.isLit pixel = edits.foldl (fun lit edit => edit.leaves pixel lit) false) ∧
      grid.ShownBy on off (grid.screen.render (.singleton on) (.singleton off)) ∧
      ∀ other : Grid, 1 ≤ other.width → 1 ≤ other.height →
        other.screen.render (.singleton on) (.singleton off) =
          grid.screen.render (.singleton on) (.singleton off) →
        other.width = width ∧ other.height = height ∧ other.screen.pixels = grid.screen.pixels := by
  obtain rfl := eq_of_ofSides created
  have : Side width.toNat := ⟨by omega⟩
  have : Side height.toNat := ⟨by omega⟩
  obtain ⟨screen, run, pixels⟩ := editAll_run ⟨width, height, .blank _ _⟩ edits
  refine ⟨_, run, rfl, rfl, ?_, shownBy_render _ distinct on_inside off_inside, ?_⟩
  · intro pixel
    rw [pixels, Screen.isLit_blank]
  · intro other wide' tall' same
    have : Side other.width.toNat := ⟨by omega⟩
    have : Side other.height.toNat := ⟨by omega⟩
    exact eq_of_render_eq distinct on_inside off_inside same

/-- A sprite over the corner of a small grid that has been cleared, and a pixel that is set and then flipped
from elsewhere. -/
theorem render_faithful_small :
    ∃ dark grid : Grid, ofSides 5 3 = .ok dark ∧
      dark.editAll
        [.set 9 9 true, .clear, .set (-1) 7 true, .sprite 3 (-1) [0xE0, 0x181], .flip 14 1] = .ok grid ∧
      let text := grid.screen.render (.singleton '#') (.singleton '.')
      (Text.linesOf text).length = 3 ∧ (∀ line ∈ Text.linesOf text, line.length = 5) ∧
        text.toList.count '#' = 5 ∧ (Text.linesOf text)[2]?.bind (·[4]?) = some '#' ∧
        (Text.linesOf text)[1]?.bind (·[4]?) = some '.' := by
  let edits : List Edit :=
    [.set 9 9 true, .clear, .set (-1) 7 true, .sprite 3 (-1) [0xE0, 0x181], .flip 14 1]
  have created : ofSides 5 3 = .ok ⟨5, 3, .blank _ _⟩ := rfl
  obtain ⟨⟨_, _, screen⟩, run, rfl, rfl, pixels, shown, -⟩ :=
    render_faithful (by decide) (by decide) created edits (show '#' ≠ '.' by decide) (by decide) (by decide)
  have drawn : ∀ pixel : Pixel 5 3, edits.foldl (fun lit edit => edit.leaves pixel lit) false =
      decide (pixel ∈ [(3, 0), (0, 0), (3, 2), (4, 2), (0, 2)]) := by decide +kernel
  have lit (pixel : Pixel 5 3) : screen.isLit pixel = _ := (pixels pixel).trans (drawn pixel)
  have five : screen.litCount = 5 := by
    rw [Screen.litCount_eq_sum]
    simp only [lit]
    decide +kernel
  have : Side (Int.toNat 5) := ⟨by decide⟩
  have : Side (Int.toNat 3) := ⟨by decide⟩
  have read {x y : Int} {value : Bool} {after : Grid}
      (answer : Grid.lit ⟨5, 3, screen⟩ x y = .ok (value, after)) : value = screen.lit x y :=
    congrArg Prod.fst (Except.ok.inj (answer.symm.trans (lit_run _ x y)))
  have corner : screen.lit 4 2 = true := (lit (4, 2)).trans (by decide)
  have flipped : screen.lit 4 1 = false := (lit (4, 1)).trans (by decide)
  obtain ⟨char, value, here, answer, shows, -⟩ :=
    shown.characters 4 2 (show (4 : Int) < 5 by decide) (show (2 : Int) < 3 by decide)
  obtain ⟨char', value', here', answer', -, hides⟩ :=
    shown.characters 4 1 (show (4 : Int) < 5 by decide) (show (1 : Int) < 3 by decide)
  refine ⟨_, _, created, run, Int.ofNat.inj shown.lines, ?_, shown.count.trans five, ?_, ?_⟩
  · exact fun line member => Int.ofNat.inj (shown.columns line member)
  · rw [here, shows.2 ((read answer).trans corner)]
  · rw [here', hides.2 ((read answer').trans flipped)]

end Grid

end Chip8
