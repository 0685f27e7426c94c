import Chip8.Proofs.Footprint
import Chip8.Proofs.Repaint
import Chip8.Proofs.Sprites

/-!
# Drawing from memory

The instruction `DXYN` takes as many rows as its last digit says from memory, at the index and behind it,
and draws them where its two registers point.  Addresses wrap as coordinates do.  The screen is larger than
every such sprite, so no pixel is covered twice, and drawing is the exclusive or of the screen with the set
of those that are covered.

* `State.Covers` — the pixels of this set, read off memory and registers; `State.covers_iff` — they are those
  that the rows at the index hit.
* `State.Drawn` — the state before, with that set put on its screen.
* **`Kind.effect_drawn`** — this is the effect of the instruction.
* **`draw_xors_sprite`** — so it is what carrying out the instruction does, and a step that fetches it.
-/

namespace Chip8

/-- Drawing raises the flag if some pixel is covered. -/
lemma Screen.dirty_drawSprite {width height : Nat} [Side width] [Side height]
    (screen : Screen width height) (x y : Int) (rows : List Int) :
    (screen.drawSprite x y rows).2.dirty =
      (screen.dirty || decide (∃ pixel : Pixel width height, 1 ≤ spriteHits x y rows pixel)) := by
  rw [drawSprite, dirty_flipAll]
  congr 1
  rw [Bool.eq_iff_iff, decide_eq_true_iff, Bool.not_eq_true']
  simp only [← count_spritePixels, List.one_le_count_iff, ← List.isEmpty_eq_false_iff_exists_mem,
    spritePixels, List.isEmpty_map]

/-! ## The sprite at the index -/

namespace State

/-- Whether a drawing instruction covers a pixel: bit 7 of the byte at the index stands for the pixel that
the registers name, lower bits for those to the right of it, and later bytes for those below. -/
def Covers (state : State) (ins : Instruction) (pixel : Pixel screenWidth screenHeight) : Prop :=
  ∃ (row : Fin ins.n) (column : Fin 8),
    (state.byteAt (state.index + row)).testBit (7 - column) = true ∧
      (state.reg ins.x + column) % 64 = pixel.1 ∧ (state.reg ins.y + row) % 32 = pixel.2

instance (state : State) (ins : Instruction) : DecidablePred (state.Covers ins) :=
  fun _ => inferInstanceAs (Decidable (∃ _ : Fin ins.n, ∃ _ : Fin 8, _))

/-- The rows of the sprite at the index. -/
def spriteRows (state : State) (ins : Instruction) : List Int :=
  (List.range ins.n).map fun (row : Nat) => state.byteAt (state.index + row)

variable (state : State) (ins : Instruction)

lemma length_spriteRows : (state.spriteRows ins).length = ins.n := by simp [spriteRows]

/-- No sprite is higher than the screen. -/
lemma spriteRows_fits : (state.spriteRows ins).length ≤ screenHeight := by
  have few := ins.n_lt
  rw [length_spriteRows, screenHeight]
  omega

variable {state ins}

lemma getElem_spriteRows {row : Nat} (inside : row < (state.spriteRows ins).length) :
    (state.spriteRows ins)[row] = state.byteAt (state.index + row) := by simp [spriteRows]

lemma covers_iff {pixel : Pixel screenWidth screenHeight} :
    state.Covers ins pixel ↔
      1 ≤ spriteHits (state.reg ins.x) (state.reg ins.y) (state.spriteRows ins) pixel := by
  have count := state.length_spriteRows ins
  simp only [Covers, one_le_spriteHits, Prod.exists, Fin.getElem_fin, getElem_spriteRows]
  constructor
  · rintro ⟨row, column, covered⟩
    exact ⟨column, row.cast count.symm, covered⟩
  · rintro ⟨column, row, covered⟩
    exact ⟨row.cast count, column, covered⟩

/-! ## What drawing leaves -/

/-- A state with the sprite of a drawing instruction put on its screen. -/
structure Drawn (before : State) (ins : Instruction) (after : State) : Prop where
  pixels : ∀ pixel, after.screen.isLit pixel =
    (before.screen.isLit pixel ^^ decide (before.Covers ins pixel))
  dirty : after.screen.dirty = (before.screen.dirty || decide (∃ pixel, before.Covers ins pixel))
  /-- The flag tells of a lit pixel that was covered. -/
  flag : after.registers[flagRegister]? =
    some (if ∃ pixel, before.Covers ins pixel ∧ before.screen.isLit pixel = true then 1 else 0)
  registers : ∀ register, register ≠ flagRegister →
    after.registers[register]? = before.registers[register]?
  pc : after.pc = before.pc + 2
  cycleCount : after.cycleCount = before.cycleCount + 1
  /-- Nothing else is touched. -/
  rest : after = { before with
    screen := after.screen, registers := after.registers, pc := after.pc, cycleCount := after.cycleCount }

end State

variable {state : State}

/-- **Drawing puts the sprite on the screen.** -/
theorem Kind.effect_drawn (shaped : state.Shaped) (glyphBase byte : Int) (ins : Instruction) :
    state.Drawn ins (draw.effect glyphBase byte ins state).counted := by
  have inside : flagRegister < state.registers.size := by rw [shaped.registers_size]; decide
  have wide : 8 ≤ screenWidth := by decide
  have fits := state.spriteRows_fits ins
  have hit := state.screen.drawSprite_hit_of_fits (state.reg ins.x) (state.reg ins.y) wide fits
  constructor
  case pixels =>
      intro pixel
      simp only [State.covers_iff]
      exact state.screen.isLit_drawSprite_of_fits _ _ wide fits pixel
  case dirty =>
      simp only [State.covers_iff]
      exact state.screen.dirty_drawSprite _ _ _
  case flag =>
      simp only [State.covers_iff, ← hit]
      exact Array.getElem?_setIfInBounds_self_of_lt inside
  case registers =>
      intro register other
      exact Kind.put_register other _
  all_goals rfl

/-! ## Carrying it out -/

/-- **`DXYN` is the exclusive or with the sprite at the index.**  Carried out by any set that has it, on any
state of the right shape and whatever the operands are, it is not refused and leaves the state with the
sprite on its screen.  So does a step that fetches it, without a fault; the rest of the machine, what is
recorded apart, stays as it is. -/
theorem draw_xors_sprite (shaped : state.Shaped) (ins : Instruction) :
    (∀ (set : InstructionSet) (byte : Int), .draw ∈ set.kinds →
      ∃ after, (set.execute byte .draw ins).run state = .ok () after ∧ state.Drawn ins after) ∧
    ∀ session : Session, session.machine.state = state →
      (∀ kind, kind ∈ session.machine.instructions.kinds) → state.mode = .running →
        fetch state.memory state.pc = .ok ins.opcode → ins.family = 0xD →
          ∃ entry left, Machine.step.run session = .ok (some entry) left ∧ entry.fault = none ∧
            state.Drawn ins left.machine.state ∧
            left.machine = { session.machine with
              state := left.machine.state, trace := left.machine.trace } := by
  refine ⟨fun set byte listed => ?_, ?_⟩
  · exact ⟨_, InstructionSet.execute_run listed shaped byte ins, Kind.effect_drawn shaped _ _ _⟩
  · rintro session rfl complete running fetched family
    obtain ⟨entry, left, stepped, -, fault, machine⟩ :=
      Machine.step_executes shaped complete running fetched
    have kind : Kind.ofOpcode ins.opcode = .draw := Kind.ofOpcode_eq_iff.2 family
    have next := Machine.nextState_fetched running fetched
    have harmless : session.machine.faultOf ins.opcode = none := by rw [Machine.faultOf, kind]; rfl
    rw [kind] at next
    rw [harmless, kind] at machine
    refine ⟨entry, left, stepped, fault.trans harmless, ?_, ?_⟩
    · rw [machine]
      show session.machine.state.Drawn ins session.machine.nextState
      rw [next]
      exact Kind.effect_drawn shaped _ _ ins
    · rw [machine]
      rfl

/-- Two rows, one in the last cell of memory and one in the first, drawn over the lower right corner by a
step; the flag register is one of the coordinates.  A lit pixel is covered and goes dark. -/
theorem draw_xors_sprite_corner :
    ∃ (session : Session) (entry : Entry) (left : Session),
      let before := session.machine.state
      let after := left.machine.state
      fetch before.memory before.pc = .ok 0xDF22 ∧ before.index = 4095 ∧
        before.reg flagRegister = 62 ∧ before.reg 2 = 31 ∧ before.screen.isLit (63, 31) = true ∧
        Machine.step.run session = .ok (some entry) left ∧
        after.screen.isLit (62, 31) = true ∧ after.screen.isLit (63, 31) = false ∧
        after.screen.isLit (0, 31) = false ∧ after.screen.isLit (5, 31) = true ∧
        after.screen.isLit (62, 0) = true ∧ after.screen.dirty = true ∧
        after.registers[flagRegister]? = some 1 ∧ after.registers[2]? = some 31 ∧ after.pc = 8 := by
  obtain ⟨memory, written⟩ : ∃ memory,
      memory = ((Memory.zeroed memorySize).writeBlock 6 [0xDF, 0x22]).writeBlock 4095 [0xC1, 0x80] :=
    ⟨_, rfl⟩
  have size : memory.size = memorySize := by simp [written, Memory.zeroed]
  have fetched : fetch memory 6 = .ok 0xDF22 := by
    rw [written]
    decide +kernel
  let state : State :=
    { memory, pc := 6, index := 4095
      registers := #[0, 0, 31, 0, 0, 0, 0, 0, 0, 0, 0, 0, 0, 0, 0, 62]
      screen := (Screen.blank _ _).flip 63 31 }
  have shaped : state.Shaped := ⟨size, rfl, rfl⟩
  let session : Session :=
    { machine := { Machine.ofSettings { random := .sequence (fun _ => 0) 0 } 0 .standard with state } }
  have bytes (row : Fin 2) : state.byteAt (state.index + row) = if row = 0 then 0xC1 else 0x80 := by
    show ((memory.getD (Memory.cell (4095 + row)) 0).toNat : Int) = _
    rw [written]
    revert row
    decide +kernel
  obtain ⟨entry, left, stepped, -, drawn, -⟩ :=
    (draw_xors_sprite shaped ⟨0xDF22⟩).2 session rfl Kind.mem_all rfl fetched (by decide)
  have covers (pixel : Pixel screenWidth screenHeight) :
      state.Covers ⟨0xDF22⟩ pixel ↔ ∃ (row : Fin 2) (column : Fin 8),
        (if row = 0 then 0xC1 else 0x80 : Int).testBit (7 - column) = true ∧
          (62 + column : Int) % 64 = pixel.1 ∧ (31 + row : Int) % 32 = pixel.2 := by
    simp only [State.Covers, ← bytes]
    rfl
  have spot (pixel : Pixel screenWidth screenHeight) :
      state.screen.isLit pixel =
        ((Screen.blank _ _).isLit pixel ^^ decide (Screen.pixelAt (63, 31) = pixel)) :=
    Screen.isLit_flip _ (63, 31) pixel
  have corner : state.Covers ⟨0xDF22⟩ (63, 31) := (covers _).2 (by decide +kernel)
  have lit : state.screen.isLit (63, 31) = true := (spot _).trans (by decide +kernel)
  refine ⟨session, entry, left, fetched, rfl, rfl, rfl, lit, stepped, ?_, ?_, ?_, ?_, ?_, ?_, ?_, ?_,
    drawn.pc⟩
  iterate 5
    rw [drawn.pixels, spot]
    simp only [covers]
    decide +kernel
  · rw [drawn.dirty, decide_eq_true ⟨_, corner⟩, Bool.or_true]
  · rw [drawn.flag, if_pos ⟨_, corner, lit⟩]
  · exact drawn.registers 2 (by decide)

end Chip8
