import Chip8.Proofs.Loading
import Chip8.Proofs.Reset

/-!
# A glyph table in the place of another

A machine is given a glyph table when it is created, and may be given another one later.  The new table is
written over what is there, and a reset writes it on zeroed memory.  The two differ in the bytes of the old
table that lie behind the end of a shorter new one: a load leaves them where they are, and a reset takes them
away.

* `State.getElem?_writeFont_fresh`, `State.writeFont_fresh_eq_iff` — memory after both tables, and when the old
  one has left nothing.
* **`font_written_over_font`** — a load on a new machine, and what a reset makes of it.
* `shorter_font_leaves_rows` — a table of one byte over the sixteen digits.
-/

namespace Chip8

lemma Memory.byteOf_eq_zero_iff {value : Int} : byteOf value = 0 ↔ value % 256 = 0 := by
  rw [byteOf, ← UInt8.toNat_inj, UInt8.toNat_ofNat', UInt8.toNat_zero]
  omega

/-! ## Two tables in memory -/

namespace State

variable (old new : Font)

lemma memory_size_fresh : (fresh old).memory.size = memorySize :=
  (Memory.size_writeBlock _ _ _).trans Array.size_replicate

/-- Memory after a table was written over another. -/
lemma getElem?_writeFont_fresh (cell : Nat) :
    ((fresh old).memory.writeBlock fontStart new.glyphs)[cell]? =
      if 0x50 + new.glyphs.length ≤ cell ∧ cell < 0x50 + old.glyphs.length then (fresh old).memory[cell]?
      else (fresh new).memory[cell]? := by
  rw [Memory.getElem?_writeFont new (memory_size_fresh old), Machine.getElem?_fresh,
    Machine.getElem?_fresh]
  by_cases written : 0x50 ≤ cell ∧ cell < 0x50 + new.glyphs.length
  · rw [if_pos written, if_neg (by omega), if_pos written]
  · by_cases before : 0x50 ≤ cell ∧ cell < 0x50 + old.glyphs.length
    · rw [if_neg written, if_pos before, if_pos (by omega)]
    · rw [if_neg written, if_neg before, if_neg (by omega), if_neg written]

/-- **The old table leaves nothing** exactly if nothing but zeros was behind the end of the new one. -/
theorem writeFont_fresh_eq_iff :
    (fresh old).memory.writeBlock fontStart new.glyphs = (fresh new).memory ↔
      ∀ (position : Nat) (inside : position < old.glyphs.length), new.glyphs.length ≤ position →
        old.glyphs[position] % 256 = 0 := by
  constructor
  · intro same position inside behind
    have fits : 0x50 + old.glyphs.length ≤ 0x200 := old.fits
    have stored := getElem?_writeFont_fresh old new (0x50 + position)
    rw [same, if_pos (by omega), Machine.getElem?_fresh_glyph old inside,
      Machine.getElem?_fresh_zero new (by omega) (by omega)] at stored
    exact Memory.byteOf_eq_zero_iff.1 (Option.some.inj stored).symm
  · intro zero
    refine Array.ext_getElem? fun cell => ?_
    rw [getElem?_writeFont_fresh]
    split_ifs with stale
    · have fits : 0x50 + old.glyphs.length ≤ 0x200 := old.fits
      obtain ⟨position, rfl⟩ : ∃ position, cell = 0x50 + position := ⟨cell - 0x50, by omega⟩
      have inside : position < old.glyphs.length := by omega
      rw [Machine.getElem?_fresh_glyph old inside, Machine.getElem?_fresh_zero new (by omega) (by omega),
        Memory.byteOf_eq_zero_iff.2 (zero position inside (by omega))]
    · rfl

end State

/-! ## Loads and resets -/

/-- Every table that fits can be chosen when a machine is created. -/
lemma Machine.create_withGlyphs (settings : Settings) {traceBound : Nat}
    (bounded : extent .negativeTraceBound settings.traceBound = .ok traceBound) (font : Font) :
    create { settings with glyphs := font.glyphs } = .ok (ofSettings settings traceBound font) :=
  create_eq_ok_iff.2 ⟨traceBound, font, bounded, Font.ofGlyphs_eq_ok_iff.2 rfl, rfl⟩

/-- Every table that fits is accepted by a new machine and written over the one that is there. -/
lemma Machine.loadFont_created (settings : Settings) (traceBound : Nat) (old new : Font) :
    (loadFont new.glyphs).run { machine := ofSettings settings traceBound old } =
      .ok () (({ machine := ofSettings settings traceBound old } : Session).withFont new) :=
  loadFont_run (State.memory_size_fresh old) (Font.ofGlyphs_eq_ok_iff.2 rfl)

/-- **A new machine that is given another glyph table** differs from one created with that table in memory at
most, and there only behind the end of the new table, where bytes of the old one have stayed.  So the two are
equal exactly if no byte but zero was there.  A reset makes them equal in any case: the table that is seen
after a load and the one that is seen after the next reset are the same exactly under this condition. -/
theorem font_written_over_font {settings : Settings} {traceBound : Nat}
    (bounded : extent .negativeTraceBound settings.traceBound = .ok traceBound) {first second : List Int}
    (accepted : first.length ≤ 432) (short : second.length ≤ 432) :
    ∃ old new left,
      Machine.create { settings with glyphs := first } = .ok old ∧
      Machine.create { settings with glyphs := second } = .ok new ∧
      (Machine.loadFont second).run { machine := old } = .ok () left ∧
      (left.after Machine.reset).machine = new ∧
      let memory := left.machine.state.memory
      left.machine = { new with state := { new.state with memory } } ∧
      (∀ cell : Nat, memory[cell]? =
        if 0x50 + second.length ≤ cell ∧ cell < 0x50 + first.length then old.state.memory[cell]?
        else new.state.memory[cell]?) ∧
      (memory = new.state.memory ↔
        ∀ (position : Nat) (inside : position < first.length), second.length ≤ position →
          first[position] % 256 = 0) := by
  have fits {glyphs : List Int} (few : glyphs.length ≤ 432) : fontStart + glyphs.length ≤ programStart := by
    change 0x50 + glyphs.length ≤ 0x200
    omega
  let old : Font := ⟨first, fits accepted⟩
  let new : Font := ⟨second, fits short⟩
  exact ⟨_, _, _, Machine.create_withGlyphs settings bounded old,
    Machine.create_withGlyphs settings bounded new, Machine.loadFont_created settings traceBound old new,
    rfl, rfl, State.getElem?_writeFont_fresh old new,
    State.writeFont_fresh_eq_iff old new⟩

/-- Two bytes over three, the last of which was stored as zero. -/
theorem font_written_over_font_zero :
    ∃ settings : Settings, extent .negativeTraceBound settings.traceBound = .ok 1000 ∧
      [7, 7, 512].length ≤ 432 ∧ [8, 9].length ≤ 432 ∧
      ∃ old new left,
        Machine.create { settings with glyphs := [7, 7, 512] } = .ok old ∧
        Machine.create { settings with glyphs := [8, 9] } = .ok new ∧
        (Machine.loadFont [8, 9]).run { machine := old } = .ok () left ∧
        left.machine.state.memory = new.state.memory ∧ (left.after Machine.reset).machine = new := by
  let settings : Settings := { random := .sequence (fun draw => draw) 0 }
  obtain ⟨old, new, left, created, other, loaded, reset, -, -, same⟩ :=
    @font_written_over_font settings 1000 rfl [7, 7, 512] [8, 9] (by decide) (by decide)
  refine ⟨settings, rfl, by decide, by decide, old, new, left, created, other, loaded, same.2 ?_, reset⟩
  decide

/-- The digits are not replaced as a whole: a table of one byte takes the place of one row, and the other
rows are there until the next reset. -/
theorem shorter_font_leaves_rows :
    ∃ old new left,
      Machine.create { random := .sequence (fun draw => draw) 0, glyphs := hexGlyphs } = .ok old ∧
      Machine.create { random := .sequence (fun draw => draw) 0, glyphs := [0xAA] } = .ok new ∧
      (Machine.loadFont [0xAA]).run { machine := old } = .ok () left ∧
      left.machine.state.memory ≠ new.state.memory ∧
      left.machine.state.memory[0x51]? = some 0x90 ∧
      (left.after Machine.reset).machine.state.memory[0x51]? = some 0 := by
  let settings : Settings := { random := .sequence (fun draw => draw) 0 }
  have created (font : Font) := Machine.create_withGlyphs settings rfl font
  -- the new table by name only, so that nothing is evaluated
  obtain ⟨new, glyphs⟩ : ∃ new : Font, new.glyphs = [0xAA] := ⟨⟨[0xAA], by decide⟩, rfl⟩
  have kept : ((State.fresh .standard).memory.writeBlock fontStart new.glyphs)[0x51]? = some 0x90 := by
    rw [State.getElem?_writeFont_fresh, glyphs]
    exact Machine.getElem?_fresh_glyph .standard (show 1 < hexGlyphs.length by decide)
  have gone : (State.fresh new).memory[0x51]? = some 0 :=
    Machine.getElem?_fresh_zero new (by decide) (by rw [glyphs]; decide)
  have different : (State.fresh .standard).memory.writeBlock fontStart new.glyphs ≠
      (State.fresh new).memory := by
    intro same
    rw [same, gone] at kept
    exact absurd kept (by decide)
  have loaded := Machine.loadFont_created settings 1000 .standard new
  have other := created new
  rw [glyphs] at loaded other
  exact ⟨_, _, _, created .standard, other, loaded, different, kept, gone⟩

end Chip8
