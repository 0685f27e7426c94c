import Chip8.Machine

/-!
# The building blocks of operations, as equations

A machine is created if its trace bound and its glyph table are accepted, and then it is determined by
its settings.

Every operation of a host is put together from a few blocks: look at the machine, change it, write an
event down, let an action change the state, refuse.  Each block has an equation for what it does to a
session.

* `ofSettings`, **`create_eq_ok_iff`** — the machines that can be created.
* `look_run`, `change_run`, `emit_run`, `accept_run_ok`, `accept_run_error` — the plain blocks.
* `onState_run_ok` — an action changes the state of the machine and nothing else.
* `catchFault_eq` — a fault becomes an answer, every other refusal stands.
* `step_run_waiting` — a suspended machine does nothing.
-/

namespace Chip8.Machine

/-! ## Creation -/

/-- The cleared machine with settings that have been accepted. -/
def ofSettings (settings : Settings) (traceBound : Nat) (font : Font) : Machine where
  font
  instructions := .standard
  random := settings.random
  tracing := settings.tracing
  hasObserver := settings.hasObserver
  trace := .empty traceBound
  faults := {}
  ticks := 0
  latch := {}
  state := .fresh font

theorem create_eq_ok_iff {settings : Settings} {machine : Machine} :
    create settings = .ok machine ↔
      ∃ traceBound font, extent .negativeTraceBound settings.traceBound = .ok traceBound ∧
        Font.ofGlyphs settings.glyphs = .ok font ∧ machine = ofSettings settings traceBound font := by
  rw [create]
  cases extent .negativeTraceBound settings.traceBound with
  | error error =>
      constructor
      · rintro ⟨⟩
      · rintro ⟨_, _, ⟨⟩, _⟩
  | ok traceBound =>
      cases Font.ofGlyphs settings.glyphs with
      | error error =>
          constructor
          · rintro ⟨⟩
          · rintro ⟨_, _, _, ⟨⟩, _⟩
      | ok font =>
          constructor
          · intro created
            cases created
            exact ⟨traceBound, font, rfl, rfl, rfl⟩
          · rintro ⟨_, _, ⟨⟩, ⟨⟩, rfl⟩
            rfl

/-! ## Operations -/

variable {session : Session}

theorem look_run : look.run session = .ok session.machine session := rfl

theorem change_run (f : Machine → Machine) :
    (change f).run session = .ok () { session with machine := f session.machine } := rfl

theorem emit_run (event : Event) :
    (emit event).run session = .ok () { session with journal := session.journal.push event } := rfl

theorem accept_run_ok {α : Type} (value : α) :
    (accept (.ok value)).run session = .ok value session := rfl

theorem accept_run_error {α : Type} (error : Error) :
    (accept (.error error : Except Error α)).run session = .error error session := rfl

theorem onState_run_ok {α : Type} {action : Action α} {value : α} {state : State}
    (run : action.run session.machine.state = .ok value state) :
    (onState action).run session = .ok value (withState session state) := by
  simp only [EStateM.run] at run
  simp [onState, EStateM.run, run]

theorem catchFault_eq (operation : Operation Unit) :
    (catchFault operation).run session =
      match operation.run session with
      | .ok _ left => .ok none left
      | .error (.fault fault) left => .ok (some fault) left
      | .error error left => .error error left := rfl

/-- **A suspended machine does nothing.** -/
theorem step_run_waiting (waiting : session.machine.state.mode.isWaiting = true) :
    step.run session = .ok none session := by
  simp [step, EStateM.run_bind, look_run, waiting]

end Chip8.Machine
