import Chip8.Proofs.Run

/-!
# When the screen has to be painted again

A renderer paints the screen and lowers the flag.  As long as the flag stays down it keeps what it has
painted, so whatever changes a pixel has to raise the flag.  Clearing and drawing do.  A reset does not:
it replaces the screen by a blank one, whose flag is down.

* `Screen.Painted` — the flag is up, or the pixels are those that were painted.
* `Screen.dirty_flipAll`, `State.blind_painted` — clearing and drawing raise the flag, and nothing else
  that an instruction does reaches the screen.
* `painted_invariant` — the same for everything that a host can do but a reset.
* **`painted_performAll`** — what the screen shows while the flag is down, after any run; a renderer
  that polls the flag goes wrong exactly if a reset has blanked what it had painted.
-/

namespace Chip8

/-! ## The flag and the pixels -/

namespace Screen

variable {width height : Nat} {painted : Vector (Vector Bool width) height}
  {screen : Screen width height}

/-- A screen that looks as it was painted, unless its flag says otherwise. -/
def Painted (painted : Vector (Vector Bool width) height) (screen : Screen width height) : Prop :=
  screen.dirty = false → screen.rows = painted

lemma painted_of_dirty (dirty : screen.dirty = true) : screen.Painted painted := by
  intro lowered
  rw [dirty] at lowered
  cases lowered

lemma painted_clear (screen : Screen width height) : screen.clear.Painted painted :=
  painted_of_dirty rfl

variable [Side width] [Side height]

/-- Flipping pixels raises the flag, unless there are none to flip; flipping some of them back does not
lower it. -/
lemma dirty_flipAll (screen : Screen width height) (points : List (Int × Int)) :
    (screen.flipAll points).2.dirty = (screen.dirty || !points.isEmpty) := by
  induction points generalizing screen with
  | nil => simp [flipAll]
  | cons point rest ih =>
      show ((screen.flip point.1 point.2).flipAll rest).2.dirty = _
      rw [ih]
      simp [flip]

lemma Painted.drawSprite (kept : screen.Painted painted) (x y : Int) (rows : List Int) :
    (screen.drawSprite x y rows).2.Painted painted := by
  rw [Screen.drawSprite]
  cases (spritePoints rows).map fun point => (x + point.1, y + point.2) with
  | nil => exact kept
  | cons point rest => exact painted_of_dirty (by simp [dirty_flipAll])

end Screen

/-! ## Operations -/

section

variable (painted : Vector (Vector Bool screenWidth) screenHeight)

lemma State.blind_painted : State.Blind fun state => state.screen.Painted painted where
  registers := fun _ _ kept => kept
  memory := fun _ _ kept => kept
  index := fun _ _ kept => kept
  pc := fun _ _ kept => kept
  mode := fun _ _ kept => kept
  delayTimer := fun _ _ kept => kept
  soundTimer := fun _ _ kept => kept
  cycleCount := fun _ _ kept => kept
  cleared := fun state _ => state.screen.painted_clear
  drawn := fun _ x y rows kept => kept.drawSprite x y rows

/-- **Nothing but a reset changes a pixel and leaves the flag down.** -/
lemma painted_invariant {command : Command} (other : command ≠ .reset) :
    Invariant (fun machine => machine.state.screen.Painted painted) command := by
  intro before after kept move
  cases move with
  | cleared => exact absurd rfl other
  | executed random trace faults word =>
      have executed : Preserves (fun state => state.screen.Painted painted) (before.execution word) :=
        before.instructions.preserves_execute (State.blind_painted painted) (fun _ _ _ kept => kept) _ _
      exact executed before.state kept
  | _ => exact kept

/-- What is blank stays so until the flag is raised; a reset makes it blank again. -/
lemma painted_invariant_blank (command : Command) :
    Invariant (fun machine => machine.state.screen.Painted (Screen.blank _ _).rows) command := by
  by_cases reset : command = .reset
  · subst reset
    intro before after _ move
    cases move with
    | stored loads => cases loads
    | cleared => exact fun _ => rfl
  · exact painted_invariant _ reset

end

/-! ## Runs -/

section

variable {session : Session} {commands : List Command}

lemma painted_performAll_of_notMem (kept : .reset ∉ commands) :
    (session.performAll commands).machine.state.screen.Painted session.machine.state.screen.rows := by
  have unmoved : session.machine.state.screen.Painted session.machine.state.screen.rows := fun _ => rfl
  refine performAll_invariant (fun command among stage inside => painted_invariant _ ?_) unmoved
  rintro rfl
  exact kept (Command.eq_reset_of_mem inside ▸ among)

/-- After a reset there is nothing on the screen until the flag is raised. -/
lemma painted_performAll_of_mem (reset : .reset ∈ commands) :
    (session.performAll commands).machine.state.screen.Painted (Screen.blank _ _).rows := by
  obtain ⟨before, after, rfl⟩ := List.append_of_mem reset
  rw [Session.performAll_append, Session.performAll_cons]
  have blanked : (((session.performAll before).after
      (Command.perform .reset)).machine.state.screen.Painted (Screen.blank _ _).rows) := fun _ => rfl
  exact performAll_invariant (fun _ _ stage _ => painted_invariant_blank stage) blanked

end

/-- **What is on the screen while the flag is down.**  Without a reset it is what was there when the run
began, with one it is nothing.  So a renderer that paints when it finds the flag raised shows the right
pixels, unless a reset has blanked a screen with lit pixels and nothing has raised the flag since. -/
theorem painted_performAll (session : Session) (commands : List Command) :
    let painted := session.machine.state.screen.rows
    let blank := (Screen.blank screenWidth screenHeight).rows
    let screen := (session.performAll commands).machine.state.screen
    (screen.dirty = false → screen.rows = if .reset ∈ commands then blank else painted) ∧
      ((screen.dirty = false → screen.rows = painted) ↔
        ¬ (.reset ∈ commands ∧ screen.dirty = false ∧ painted ≠ blank)) := by
  intro painted blank screen
  by_cases reset : .reset ∈ commands
  · have shown : screen.dirty = false → screen.rows = blank := painted_performAll_of_mem reset
    refine ⟨fun lowered => ?_, fun right => ?_, fun allowed lowered => ?_⟩
    · rw [if_pos reset, shown lowered]
    · rintro ⟨-, lowered, lit⟩
      exact lit ((right lowered).symm.trans (shown lowered))
    · by_contra wrong
      exact allowed ⟨reset, lowered, fun same => wrong ((shown lowered).trans same.symm)⟩
  · have shown : screen.dirty = false → screen.rows = painted := painted_performAll_of_notMem reset
    refine ⟨fun lowered => ?_, fun _ => ?_, fun _ => shown⟩
    · rw [if_neg reset, shown lowered]
    · rintro ⟨mentioned, -⟩
      exact reset mentioned

/-- The digit zero is on the screen, the renderer has painted it, and a reset takes it away behind the
renderer's back. -/
theorem reset_blanks_silently :
    ∃ machine, Machine.create { random := .sequence (fun draw => draw) 0 } = .ok machine ∧
      let drawn := Session.performAll { machine } [.load [0xF029, 0xD005], .step, .step]
      let shown := drawn.machine.state.screen
      let session := Machine.withState drawn
        { drawn.machine.state with screen := { shown with dirty := false } }
      let screen := (session.performAll [.reset]).machine.state.screen
      screen.dirty = false ∧ screen.rows ≠ shown.rows := by
  refine ⟨_, rfl, rfl, ?_⟩
  decide +kernel

end Chip8
