import Chip8.Proofs.Accounting
import Chip8.Proofs.Footprint
import Chip8.Proofs.Oblivious

/-!
# A reset is a new machine

A reset clears everything that a program or a host has brought about since the machine was created, the
clock, the latch and the books included.  Three things stay: the settings, the glyph table that was last
accepted, and the position in the random supply.  A new machine with these three is the same machine.

* `Machine.Canonical` — the machine before anything has happened, part by part.
* `Machine.canonical_ofSettings` — every machine is created so.
* `Session.lastGlyphs` — the glyph table of the last load that was not refused;
  `Session.glyphs_performAll` — it is the one that the machine keeps.
* `Machine.cleared_eq` — a reset machine and a new one, field by field.
* **`reset_equals_fresh`** — after every run, and for all that follows.
-/

namespace Chip8

/-! ## New machines -/

/-- The machine before anything has happened, with nothing in memory but a glyph table. -/
structure Machine.Canonical (machine : Machine) (glyphs : List Int) : Prop where
  registers : machine.state.registers = Array.replicate 16 0
  index : machine.state.index = 0
  pc : machine.state.pc = 0x200
  stack : machine.state.stack = []
  delayTimer : machine.state.delayTimer = 0
  soundTimer : machine.state.soundTimer = 0
  keypad : machine.state.keypad = Array.replicate 16 false
  mode : machine.state.mode = .running
  screen : machine.state.screen = .blank 64 32
  cycleCount : machine.state.cycleCount = 0
  memory_size : machine.state.memory.size = 4096
  glyph : ∀ (offset : Nat) (inside : offset < glyphs.length),
    machine.state.memory[0x50 + offset]? = some (Memory.byteOf glyphs[offset])
  /-- Elsewhere there are zeros. -/
  zero : ∀ cell < 4096, cell < 0x50 ∨ 0x50 + glyphs.length ≤ cell →
    machine.state.memory[cell]? = some 0
  ticks : machine.ticks = 0
  physical : machine.latch.physical = .released
  virtual : machine.latch.virtual = .released
  trace : machine.trace.toList = []
  faults : machine.faults = {}

/-- A glyph table in memory, and what lies around it. -/
lemma Memory.getElem?_writeFont {memory : Memory} (font : Font) (full : memory.size = memorySize)
    (cell : Nat) :
    (memory.writeBlock fontStart font.glyphs)[cell]? =
      if 0x50 ≤ cell ∧ cell < 0x50 + font.glyphs.length then font.glyphs[cell - 0x50]?.map byteOf
      else memory[cell]? := by
  have fits : 0x50 + font.glyphs.length ≤ 0x200 := font.fits
  exact memory.getElem?_writeBlock_unwrapped full (Nat.le_trans fits (by decide)) cell

lemma Font.ofGlyphs_eq_ok_iff {glyphs : List Int} {font : Font} :
    Font.ofGlyphs glyphs = .ok font ↔ font.glyphs = glyphs := by
  constructor
  · intro accepted
    rw [ofGlyphs] at accepted
    split at accepted <;> cases accepted
    rfl
  · rintro rfl
    exact dif_pos font.fits

namespace Machine

/-- The memory of a cleared machine. -/
lemma getElem?_fresh (font : Font) (cell : Nat) :
    (State.fresh font).memory[cell]? =
      if 0x50 ≤ cell ∧ cell < 0x50 + font.glyphs.length then font.glyphs[cell - 0x50]?.map Memory.byteOf
      else (Memory.zeroed memorySize)[cell]? :=
  Memory.getElem?_writeFont font Array.size_replicate cell

lemma getElem?_fresh_glyph (font : Font) {offset : Nat} (inside : offset < font.glyphs.length) :
    (State.fresh font).memory[0x50 + offset]? = some (Memory.byteOf font.glyphs[offset]) := by
  rw [getElem?_fresh, if_pos (by omega), Nat.add_sub_cancel_left, List.getElem?_eq_getElem inside, Option.map_some]

lemma getElem?_fresh_zero (font : Font) {cell : Nat} (small : cell < 4096)
    (outside : cell < 0x50 ∨ 0x50 + font.glyphs.length ≤ cell) :
    (State.fresh font).memory[cell]? = some 0 := by
  rw [getElem?_fresh, if_neg (by omega), Memory.zeroed, Array.getElem?_replicate, if_pos small]

/-- Every machine starts like this. -/
lemma canonical_ofSettings (settings : Settings) (traceBound : Nat) (font : Font) :
    (ofSettings settings traceBound font).Canonical font.glyphs where
  registers := rfl
  index := rfl
  pc := rfl
  stack := rfl
  delayTimer := rfl
  soundTimer := rfl
  keypad := rfl
  mode := rfl
  screen := rfl
  cycleCount := rfl
  memory_size := (Memory.size_writeBlock _ _ _).trans Array.size_replicate
  glyph := fun _ inside => getElem?_fresh_glyph font inside
  zero := fun _ small outside => getElem?_fresh_zero font small outside
  ticks := rfl
  physical := rfl
  virtual := rfl
  trace := rfl
  faults := rfl

end Machine

/-! ## The glyph table that is kept -/

/-- The machine keeps this glyph table for its resets. -/
def Machine.Keeps (font : Font) (machine : Machine) : Prop := machine.font = font

section

variable {font : Font}

/-- Loading a program leaves the table alone. -/
lemma Preserves.font_load (words : List Int) :
    Preserves (fun session => session.machine.Keeps font) (Machine.load words) :=
  (Preserves.accept _).bind fun _ => (Preserves.onState fun _ same => same).bind fun _ => .emit _

lemma Preserves.font_loadFile (file : ProgramFile) :
    Preserves (fun session => session.machine.Keeps font) (Machine.loadFile file) :=
  (Preserves.accept _).bind fun _ => font_load _

/-- So does everything that loads nothing. -/
lemma Session.font_after_of_not_load {session : Session} {command : Command}
    (plain : command.isLoad = false) :
    (session.after command.perform).machine.font = session.machine.font := by
  have each : ∀ other ∈ [command], ∀ stage ∈ other.stages,
      Invariant (fun machine => machine.font = session.machine.font) stage := by
    intro other among stage inside before after same move
    obtain rfl := List.mem_singleton.1 among
    cases move with
    | stored loads =>
        rw [Command.isLoad_of_mem inside loads] at plain
        cases plain
    | _ => exact same
  exact performAll_invariant each rfl

end

namespace Session

/-- The glyph table that an operation leaves in effect: a new one if it is not refused. -/
def glyphsAfter (session : Session) (glyphs : List Int) : Command → List Int
  | .loadFont table =>
    match (Machine.loadFont table).run session with
    | .ok _ _ => table
    | .error _ _ => glyphs
  | _ => glyphs

/-- The glyph table that was last accepted in a run. -/
def lastGlyphs (session : Session) (glyphs : List Int) : List Command → List Int
  | [] => glyphs
  | command :: rest =>
    (session.after command.perform).lastGlyphs (session.glyphsAfter glyphs command) rest

variable {session : Session}

/-- A table that is accepted is kept, and one that is refused is not. -/
lemma glyphs_loadFont (table : List Int) :
    (session.after (Command.perform (.loadFont table))).machine.font.glyphs =
      session.glyphsAfter session.machine.font.glyphs (.loadFont table) := by
  rw [after_eq_leaves, Command.perform, leaves_reply, leaves, glyphsAfter, Machine.loadFont,
    EStateM.run_bind]
  by_cases fits : fontStart + table.length ≤ programStart
  · rw [Font.ofGlyphs, dif_pos fits, Machine.accept_run_ok]
    dsimp only
    rw [EStateM.run_bind, Machine.onState_run]
    cases (State.loadFont ⟨table, fits⟩).run session.machine.state with
    | ok _ state => rfl
    | error error state => rfl
  · rw [Font.ofGlyphs, dif_neg fits, Machine.accept_run_error]

lemma glyphs_after (command : Command) :
    (session.after command.perform).machine.font.glyphs =
      session.glyphsAfter session.machine.font.glyphs command := by
  cases command with
  | loadFont table => exact glyphs_loadFont table
  | load words =>
      rw [after_eq_leaves, Command.perform, leaves_reply]
      exact congrArg Font.glyphs (Preserves.font_load words session rfl)
  | loadFile file =>
      rw [after_eq_leaves, Command.perform, leaves_reply]
      exact congrArg Font.glyphs (Preserves.font_loadFile file session rfl)
  | _ => exact congrArg Font.glyphs (font_after_of_not_load rfl)

/-- **A machine keeps the glyph table that was last accepted.** -/
theorem glyphs_performAll (commands : List Command) :
    (session.performAll commands).machine.font.glyphs =
      session.lastGlyphs session.machine.font.glyphs commands := by
  induction commands generalizing session with
  | nil => rfl
  | cons command rest ih => rw [performAll_cons, ih, lastGlyphs, glyphs_after]

end Session

/-! ## Resets -/

/-- A reset machine and a new one differ in nothing. -/
lemma Machine.cleared_eq {settings : Settings} {session : Session} {entries : List Entry}
    (accounts : Accounts settings session entries) {traceBound : Nat}
    (bounded : extent .negativeTraceBound settings.traceBound = .ok traceBound) (glyphs : List Int) :
    session.machine.cleared =
      ofSettings { settings with glyphs, random := session.machine.random } traceBound
        session.machine.font := by
  have bound : session.machine.trace.bound = traceBound :=
    accounts.bound.trans (eq_of_extent bounded).symm
  rw [cleared, ofSettings, accounts.sound.standard, accounts.tracing, accounts.hasObserver, Recent.clear,
    bound]

/-- **A reset is never refused and makes a new machine**, whatever has been done to the old one: the
machine that would be created with the same settings, the glyph table that was last accepted and the
random supply as far as it has been used.  From then on the two answer alike, and everything that is
written down about the new machine is written down about the old one as well. -/
theorem reset_equals_fresh {settings : Settings} {machine : Machine}
    (created : Machine.create settings = .ok machine) (commands : List Command) :
    let reached := Session.performAll { machine } commands
    let glyphs := ({ machine } : Session).lastGlyphs settings.glyphs commands
    ∃ left fresh,
      Machine.reset.run reached = .ok () left ∧
      Machine.create { settings with glyphs, random := reached.machine.random } = .ok fresh ∧
      left.machine = fresh ∧
      fresh.Canonical glyphs ∧
      ∀ later,
        left.replies later = ({ machine := fresh } : Session).replies later ∧
        left.performAll later =
          (({ machine := fresh } : Session).performAll later).behind left.journal := by
  intro reached glyphs
  obtain ⟨traceBound, font, bounded, table, new⟩ := Machine.create_eq_ok_iff.1 created
  have accounts := Accounts.reached created commands
  have kept : reached.machine.font.glyphs = glyphs := by
    have start : machine.font.glyphs = settings.glyphs := by
      rw [new]
      exact Font.ofGlyphs_eq_ok_iff.1 table
    rw [Session.glyphs_performAll, start]
  have cleared := Machine.cleared_eq accounts bounded glyphs
  have accepted : Font.ofGlyphs glyphs = .ok reached.machine.font := Font.ofGlyphs_eq_ok_iff.2 kept
  have again : Machine.create { settings with glyphs, random := reached.machine.random } =
      .ok reached.machine.cleared :=
    Machine.create_eq_ok_iff.2 ⟨traceBound, reached.machine.font, bounded, accepted, cleared⟩
  refine ⟨reached.after Machine.reset, reached.machine.cleared, rfl, again, rfl, ?_, fun later => ?_⟩
  · rw [cleared, ← kept]
    exact Machine.canonical_ofSettings _ _ _
  · have same : reached.after Machine.reset =
        ({ machine := reached.machine.cleared } : Session).behind
          (reached.after Machine.reset).journal := by
      rw [Session.behind, Array.append_empty]
      rfl
    constructor
    · rw [same, Session.replies_behind]
    · rw [← Session.performAll_behind, ← same]

/-- A machine that has taken a table of one byte, refused one that is too long, drawn a random byte and
waits for a key. -/
theorem reset_equals_fresh_waiting :
    let settings : Settings :=
      { random := .sequence (fun draw => draw) 0, tracing := true, traceBound := 1 }
    ∃ machine, Machine.create settings = .ok machine ∧
      let commands : List Command :=
        [.loadFont [0xAB], .loadFont (List.replicate 433 0), .load [0xC0FF, 0xF00A], .step, .step]
      let reached := Session.performAll { machine } commands
      let glyphs := Session.lastGlyphs { machine } settings.glyphs commands
      reached.machine.state.mode = .awaitingKey 0 ∧ glyphs = [0xAB] ∧
        ∃ left fresh, Machine.reset.run reached = .ok () left ∧
          Machine.create { settings with glyphs, random := reached.machine.random } = .ok fresh ∧
          left.machine = fresh ∧ fresh.Canonical glyphs ∧
          ∀ later, left.replies later = ({ machine := fresh } : Session).replies later := by
  have created : Machine.create
      { random := .sequence (fun draw => draw) 0, tracing := true, traceBound := 1 } = .ok _ := rfl
  obtain ⟨left, fresh, reset, again, same, canonical, alike⟩ := reset_equals_fresh created
    [.loadFont [0xAB], .loadFont (List.replicate 433 0), .load [0xC0FF, 0xF00A], .step, .step]
  refine ⟨_, created, ?_, ?_, left, fresh, reset, again, same, canonical, fun later => (alike later).1⟩
  · decide +kernel
  · decide +kernel

end Chip8
