import Chip8.Panel
import Chip8.Proofs.HeldKeys
import Chip8.Proofs.Listing
import Chip8.Proofs.Timers

/-!
# Clicks on the pad

A click holds a virtual key for one frame and releases it for another.  The second frame tells the keypad, so
after a click its key is held nowhere, whatever the program does meanwhile.  There is one way to be refused
in between: the number of steps is looked at when the key is down already, and if there is no whole number in
it the key stays down.

A machine that waits for a key takes the first one that goes down, in the first synchronisation of the click
and before any instruction is executed.  Which one that is can be read off the keys of the panel: those that
are held, and those that the keypad shows.

* `follow_run`, `display_run` — operations that are not refused; the panel can always show its machine.
* `Panel.Rests` — the machine holds these keys and its keypad says so; `rests_synced` — after a
  synchronisation it does.
* `Panel.Pad`, `Panel.Pad.riser?` — the keys of a panel, and the one that goes down first in a click.
* `Panel.half_stages`, `Panel.unrolled_click` — what half a click and a whole one go through.
* **`Panel.click_answers`** — the key that a machine takes if it waits.
* `Panel.press_run`, `Panel.press_run_refused`, `Panel.press_run_foreign` — a click that is not refused, one
  that is refused with its key down, and one that is refused at once.
-/

namespace Chip8

/-! ## Operations one after the other -/

section

variable {session : Session}

lemma complete_performAll (complete : session.machine.Complete) (commands : List Command) :
    (session.performAll commands).machine.Complete :=
  performAll_invariant (fun _ _ stage _ => complete_invariant stage) complete

/-- Operations that are not refused lead where the run leads. -/
lemma follow_run {commands : List Command}
    (each : ∀ command ∈ commands, ∀ session : Session, session.machine.Complete →
      Returns command.perform session)
    (complete : session.machine.Complete) :
    (follow commands).run session = .ok () (session.performAll commands) := by
  induction commands generalizing session with
  | nil => rfl
  | cons command rest ih =>
      obtain ⟨reply, next, performed⟩ := each command List.mem_cons_self session complete
      have after : session.performAll [command] = next := Session.after_of_ok performed
      rw [follow_cons, EStateM.run_bind, performed, Session.performAll_cons,
        Session.after_of_ok performed]
      refine ih (fun other later => each other (List.mem_cons_of_mem _ later)) ?_
      rw [← after]
      exact complete_performAll complete [command]

/-- Without resets the clock counts the ticks. -/
lemma ticks_performAll {stages : List Command} (elementary : ∀ stage ∈ stages, stage.isElementary = true)
    (kept : .reset ∉ stages) :
    (session.performAll stages).machine.ticks = session.machine.ticks + stages.count .advanceTimers := by
  induction stages generalizing session with
  | nil => rfl
  | cons stage rest ih =>
      have moved := Session.move_after (elementary stage List.mem_cons_self) session
      have first : stage ≠ .reset := fun reset => kept (reset ▸ List.mem_cons_self)
      rw [Session.performAll_cons, ih (fun other later => elementary other (List.mem_cons_of_mem _ later))
        fun member => kept (List.mem_cons_of_mem _ member)]
      by_cases ticks : stage = .advanceTimers
      · subst ticks
        rw [List.count_cons_self]
        change session.machine.ticks + 1 + _ = _
        omega
      · rw [ticks_of_move moved first ticks, List.count_cons_of_ne ticks]

/-- The bound of a trace is for ever. -/
lemma bound_perform {command : Command} (elementary : command.isElementary = true) :
    (session.after command.perform).machine.trace.bound = session.machine.trace.bound := by
  by_cases idle : command = .step
  · subst idle
    have ended := Machine.step_end session
    rw [Session.after_step, Session.after_eq_leaves, leaves]
    generalize Machine.step.run session = result at ended ⊢
    have pushed (done : Session) (entry : Entry) :
        (done.completed entry).machine.trace.bound = done.machine.trace.bound := by
      rw [Session.completed_machine]
      dsimp only
      split_ifs
      · exact Recent.bound_push _ _
      · rfl
    cases ended with
    | suspended | missing => rfl
    | lost => exact pushed _ _
    | ran running word | met running word =>
        refine (pushed _ _).trans ?_
        simp
    | refused running word => simp
  · have moved := Session.move_after elementary session
    generalize (session.after command.perform).machine = after at moved
    cases moved with
    | idled | executed => exact absurd rfl idle
    | _ => rfl

end

/-! ## Showing a machine -/

/-- The session after its machine was shown. -/
def Session.shown (session : Session) : Session :=
  { session with
    machine := { session.machine with
      state := { session.machine.state with
        screen := { session.machine.state.screen with dirty := false } } } }

lemma Session.shown_ticks (session : Session) : session.shown.machine.ticks = session.machine.ticks := rfl

/-- **The panel can always show its machine.** -/
lemma display_run {session : Session} (full : session.machine.state.memory.size = memorySize) :
    ∃ views, Panel.display.run session = .ok views session.shown := by
  have told : session.machine.listing none Panel.shownWords = .ok _ := listing_eq full _ _
  have traced : ∃ text, Panel.traceView session.machine = .ok text := by
    rw [Panel.traceView, told]
    exact ⟨_, rfl⟩
  obtain ⟨text, traced⟩ := traced
  simp only [Panel.display, EStateM.run_bind, Machine.look_run, Machine.change_run, traced,
    Machine.accept_run_ok]
  exact ⟨_, rfl⟩

/-- Operations and then a look at the machine. -/
lemma follow_display_run {session : Session} {commands : List Command}
    (each : ∀ command ∈ commands, ∀ session : Session, session.machine.Complete →
      Returns command.perform session)
    (complete : session.machine.Complete) :
    ∃ views, (follow commands >>= fun _ => Panel.display).run session =
      .ok views (session.performAll commands).shown := by
  obtain ⟨views, shown⟩ := display_run (complete_performAll complete commands).shaped.memory_size
  refine ⟨views, ?_⟩
  rw [EStateM.run_bind, follow_run each complete]
  exact shown

/-! ## Keys between two actions -/

namespace Panel

/-- The machine holds these keys, and its keypad says so. -/
structure Rests (latch : Latch) (session : Session) : Prop extends Settled none session where
  held : session.machine.latch = latch
  bound : session.machine.trace.bound = traceBound

/-- An operation that a panel makes use of between presses and releases of keys. -/
def isQuiet : Chip8.Command → Bool
  | .load _ | .advanceTimers | .step | .syncKeys none => true
  | _ => false

variable {latch : Latch} {session : Session}

/-- What is neither a press nor a release leaves the keys at rest. -/
lemma Rests.perform (rests : Rests latch session) {stage : Chip8.Command} (quiet : isQuiet stage = true) :
    Rests latch (session.after stage.perform) := by
  have aside (elementary : stage.isElementary = true) (kept : stage ≠ .reset)
      (other : stage.isSync = false) (apart : ∀ number pressed, stage ≠ .holdKey number pressed) :
      Rests latch (session.after stage.perform) := by
    have moved := Session.move_after elementary session
    exact ⟨rests.aside elementary kept other apart,
      (latch_of_move moved kept other apart).trans rests.held,
      (bound_perform elementary).trans rests.bound⟩
  cases stage with
  | load _ | advanceTimers | step => exact aside rfl nofun rfl nofun
  | syncKeys keys =>
      cases keys with
      | some report => cases quiet
      | none =>
          obtain ⟨left, run, same⟩ := rests.sync
          refine ⟨Settled.perform rests.toSettled (.inr (.inr rfl)), ?_,
            (bound_perform rfl).trans rests.bound⟩
          rw [Session.after_syncKeys, Session.after_of_ok run, same]
          exact rests.held
  | _ => cases quiet

end Panel

/-! ## From the first synchronisation on -/

section

variable {session : Session} (complete : session.machine.Complete)
include complete

/-- A frame, and a run as well, goes through the clock and the keys first. -/
lemma carried_synced (stages : List Command) :
    ∃ later, session.carried (.advanceTimers :: .syncKeys none :: stages) =
        .advanceTimers :: .syncKeys none :: later ∧ later ⊆ stages := by
  have clocked : session.clocked.machine.Complete := complete_invariant .advanceTimers _ _ complete .clocked
  have taken : session.clocked.machine.latch.take none = .ok session.clocked.machine.latch := rfl
  obtain ⟨answer, synced⟩ := perform_syncKeys_ok clocked taken
  let left := session.clocked.synced none session.clocked.machine.latch
  refine ⟨left.carried stages, ?_, fun stage => Session.mem_carried⟩
  rw [Session.carried]
  change Command.advanceTimers :: session.clocked.carried _ = _
  rw [Session.carried, synced]

/-- **From then on the keypad shows the keys that are held.** -/
lemma rests_synced (bound : session.machine.trace.bound = Panel.traceBound) {later : List Command}
    (quiet : ∀ stage ∈ later, Panel.isQuiet stage = true) :
    Panel.Rests session.machine.latch
      (session.performAll (.advanceTimers :: .syncKeys none :: later)) := by
  have clocked : session.clocked.machine.Complete := complete_invariant .advanceTimers _ _ complete .clocked
  have taken : session.clocked.machine.latch.take none = .ok session.clocked.machine.latch := rfl
  have synced := syncKeys_run_of_complete clocked taken
  have start : Panel.Rests session.machine.latch (session.clocked.after (Machine.syncKeys none)) := by
    refine ⟨.start clocked nofun, ?_, ?_⟩
    · rw [Session.after_of_ok synced, Session.synced_machine]
      rfl
    · rw [Session.after_of_ok synced, Session.synced_machine]
      exact bound
  rw [Session.performAll_cons, Session.performAll_cons, Session.after_syncKeys]
  exact performAll_keeps (Panel.Rests session.machine.latch)
    (fun stage member left rests => rests.perform (quiet stage member)) start

/-- A frame goes through the clock, the keys and some steps. -/
lemma carried_frame (steps : Int) :
    ∃ later, session.carried (Command.frame none steps).stages = .advanceTimers :: .syncKeys none :: later ∧
      ∀ stage ∈ later, stage = .step := by
  obtain ⟨later, carried, among⟩ := carried_synced complete (List.replicate steps.toNat .step)
  exact ⟨later, carried, fun stage member => (List.mem_replicate.1 (among member)).2⟩

lemma rests_frame (bound : session.machine.trace.bound = Panel.traceBound) (steps : Int) :
    Panel.Rests session.machine.latch (session.after (Command.perform (.frame none steps))) := by
  obtain ⟨later, carried, only⟩ := carried_frame complete steps
  rw [Session.after_perform, carried]
  refine rests_synced complete bound fun stage member => ?_
  rw [only stage member]
  rfl

/-- A run of at least one frame tells the keypad as well. -/
lemma rests_run (bound : session.machine.trace.bound = Panel.traceBound) {frames : Int}
    (some_frames : 0 < frames) (steps : Int) :
    Panel.Rests session.machine.latch (session.after (Command.perform (.run frames steps none))) := by
  obtain ⟨rest, stages⟩ : ∃ rest, (Command.run frames steps none).stages =
      .advanceTimers :: .syncKeys none :: rest := by
    obtain ⟨count, same⟩ : ∃ count, frames.toNat = count + 1 := ⟨frames.toNat - 1, by omega⟩
    rw [Command.stages, same]
    exact ⟨_, rfl⟩
  obtain ⟨later, carried, among⟩ := carried_synced complete rest
  rw [Session.after_perform, stages, carried]
  refine rests_synced complete bound fun stage member => ?_
  have inside : stage ∈ (Command.run frames steps none).stages := by
    rw [stages]
    exact List.mem_cons_of_mem _ (List.mem_cons_of_mem _ (among member))
  rcases Command.mem_stages inside with rfl | rfl | rfl | rfl
  · cases Command.isElementary_of_mem inside
  · rfl
  · rfl
  · rfl

end

/-- A run of no frames does nothing. -/
lemma after_run_none (session : Session) {frames : Int} (none_left : frames ≤ 0) (steps : Int) :
    session.after (Command.perform (.run frames steps none)) = session := by
  have stages : (Command.run frames steps none).stages = [] := by
    rw [Command.stages, Int.toNat_of_nonpos none_left]
    rfl
  rw [Session.after_perform, stages]
  rfl

/-! ## The keys of a panel -/

namespace Panel

/-- Virtual keys: those that are held, and those that the keypad shows. -/
structure Pad where
  held : KeyVector := .released
  shown : KeyVector := .released
  deriving DecidableEq, Repr

namespace Pad

/-- Whether a key goes down when one is clicked: it is clicked or held, and the keypad does not show it. -/
def goesDown (pad : Pad) (clicked key : Key) : Bool :=
  (key = clicked || pad.held.get key) && !pad.shown.get key

/-- The first key that goes down when one is clicked. -/
def riser? (pad : Pad) (clicked : Key) : Option Key := Fin.find? (pad.goesDown clicked)

/-- The key that is clicked goes down first unless the keypad shows it already, or a smaller one is held that
the keypad does not show. -/
lemma riser?_eq_self_iff {pad : Pad} {clicked : Key} :
    pad.riser? clicked = some clicked ↔
      pad.shown.get clicked = false ∧
        ∀ smaller < clicked, pad.held.get smaller = true → pad.shown.get smaller = true := by
  rw [riser?, Fin.find?_eq_some_iff]
  refine and_congr (by simp [goesDown]) (forall₂_congr fun smaller below => ?_)
  simp [goesDown, ne_of_lt below]

end Pad

/-- The machine is in order, and its keys are these. -/
structure Holds (pad : Pad) (session : Session) : Prop where
  complete : session.machine.Complete
  latch : session.machine.latch = { virtual := pad.held }
  keypad : session.machine.state.keypad = pad.shown.toArray
  bound : session.machine.trace.bound = traceBound

end Panel

lemma Latch.merged_virtual (keys : KeyVector) : ({ virtual := keys } : Latch).merged = keys.toArray := by
  refine Array.ext (by simp [merged]) fun position _ inside => ?_
  simp [merged, pressed, KeyVector.released]

lemma Key.eq_of_ofInt {number : Int} {key : Key} (named : Key.ofInt number = .ok key) : number = key.1 := by
  rw [Key.ofInt] at named
  split at named
  · next inside =>
      cases named
      exact (Int.toNat_of_nonneg inside.1).symm
  · cases named

lemma Latch.hold_key (latch : Latch) (key : Key) (pressed : Bool) :
    latch.hold key.1 pressed = .ok { latch with virtual := latch.virtual.set key.1 pressed key.2 } := by
  have inside : 0 ≤ (key.1 : Int) ∧ (key.1 : Int) < keyCount := by omega
  have named : Key.ofInt key.1 = .ok key := dif_pos inside
  rw [hold, named]
  rfl

namespace Panel

variable {pad : Pad} {session : Session}

/-- Where the keypad says which keys are held, these are the keys of the panel. -/
lemma Rests.holds {keys : KeyVector} (rests : Rests { virtual := keys } session) :
    Holds { held := keys, shown := keys } session where
  complete := rests.complete
  latch := rests.held
  keypad := by rw [rests.mirrored, rests.held, Latch.merged_virtual]
  bound := rests.bound

/-! ## Clicks -/

/-- The session after a virtual key was pressed or released. -/
def holding (session : Session) (key : Key) (pressed : Bool) : Session :=
  let latch := session.machine.latch
  Session.logged
    { session with
      machine := { session.machine with
        latch := { latch with virtual := latch.virtual.set key.1 pressed key.2 } } }
    (.held key.1 pressed)

section

variable (session) (key : Key) (pressed : Bool)

lemma perform_holdKey_run :
    (Chip8.Command.perform (.holdKey key.1 pressed)).run session =
      .ok .nothing (holding session key pressed) :=
  perform_holdKey_ok (Latch.hold_key _ key pressed)

lemma holdKey_run : (Machine.holdKey key.1 pressed).run session = .ok () (holding session key pressed) := by
  obtain ⟨⟨⟩, run, -⟩ := run_of_map (perform_holdKey_run session key pressed)
  exact run

variable {session}

lemma holding_complete (complete : session.machine.Complete) :
    (holding session key pressed).machine.Complete :=
  ⟨complete.shaped, complete.listed, complete.named⟩

lemma Holds.holding (holds : Holds pad session) :
    Holds { pad with held := pad.held.set key.1 pressed key.2 } (holding session key pressed) where
  complete := holding_complete key pressed holds.complete
  latch := by
    dsimp only [Panel.holding, Session.logged]
    rw [holds.latch]
  keypad := holds.keypad
  bound := holds.bound

end

section

variable (key : Key) (pressed : Bool) (steps : Int)

/-- A key of the pad goes down or up, and a frame follows. -/
def half : List Chip8.Command := [.holdKey key.1 pressed, .frame none steps]

/-- A key is held for a frame, and released for another. -/
def click : List Chip8.Command := half key true steps ++ half key false steps

variable {key pressed} in
lemma half_returns {command : Chip8.Command} (member : command ∈ half key pressed steps)
    (session : Session) (complete : session.machine.Complete) : Returns command.perform session := by
  rcases List.mem_pair.1 member with rfl | rfl
  · exact ⟨_, _, perform_holdKey_run session key pressed⟩
  · exact unreported_returns complete rfl rfl

/-- **Half a click**: the latch, the clock, the keypad, some steps. -/
lemma half_stages (holds : Holds pad session) :
    Rests { virtual := pad.held.set key.1 pressed key.2 } (session.performAll (half key pressed steps)) ∧
      ∃ later, (∀ stage ∈ later, stage = .step) ∧
        session.unrolled (half key pressed steps) =
          .holdKey key.1 pressed :: .advanceTimers :: .syncKeys none :: later := by
  have held := perform_holdKey_run session key pressed
  have after := holds.holding key pressed
  constructor
  · have framed := rests_frame after.complete after.bound steps
    rw [after.latch] at framed
    rw [half, Session.performAll_cons, Session.performAll_cons, Session.performAll_nil,
      Session.after_of_ok held]
    exact framed
  · obtain ⟨later, carried, only⟩ := carried_frame after.complete steps
    refine ⟨later, only, ?_⟩
    have alone : session.carried (Chip8.Command.stages (.holdKey key.1 pressed)) =
        [.holdKey key.1 pressed] := by
      change session.carried [.holdKey key.1 pressed] = _
      rw [Session.carried, held]
      rfl
    rw [half, Session.unrolled, Session.unrolled, Session.unrolled, Session.after_of_ok held, alone,
      carried, List.append_nil]
    rfl

end

/-! ### The two halves -/

section

variable (holds : Holds pad session) (key : Key) (steps : Int)
include holds

/-- After a click its key is released, and the keypad says so. -/
lemma rests_click :
    Rests { virtual := pad.held.set key.1 false key.2 } (session.performAll (click key steps)) := by
  obtain ⟨down, -⟩ := half_stages key true steps holds
  obtain ⟨up, -⟩ := half_stages key false steps down.holds
  rw [Vector.set_set] at up
  rw [click, Session.performAll_append]
  exact up

/-- **A click taken apart.** -/
lemma unrolled_click :
    ∃ first last, (∀ stage ∈ first ++ last, stage = .step) ∧
      session.unrolled (click key steps) =
        .holdKey key.1 true :: .advanceTimers :: .syncKeys none :: first ++
          .holdKey key.1 false :: .advanceTimers :: .syncKeys none :: last := by
  obtain ⟨down, first, only, begun⟩ := half_stages key true steps holds
  obtain ⟨-, last, only', ended⟩ := half_stages key false steps down.holds
  refine ⟨first, last, fun stage member => ?_, ?_⟩
  · exact (List.mem_append.1 member).elim (only stage) (only' stage)
  · rw [click, Session.unrolled_append, begun, ended]

/-- The clock ticks twice. -/
lemma ticks_click :
    (session.performAll (click key steps)).machine.ticks = session.machine.ticks + 2 := by
  obtain ⟨first, last, only, unrolled⟩ := unrolled_click holds key steps
  have untimed (stages : List Chip8.Command) (among : stages ⊆ first ++ last) :
      stages.count .advanceTimers = 0 :=
    List.count_eq_zero.2 fun member => nomatch only _ (among member)
  rw [← Session.performAll_unrolled, ticks_performAll]
  · rw [unrolled, List.count_append]
    simp [untimed first (List.subset_append_left _ _), untimed last (List.subset_append_right _ _)]
  · exact fun stage member => Session.isElementary_of_mem_unrolled member
  · intro member
    obtain ⟨command, among, inside⟩ := Session.mem_unrolled member
    have := Chip8.Command.eq_reset_of_mem inside
    subst this
    simp [click, half] at among

/-- What a suspended machine makes of a click is read off the keys of the panel. -/
lemma resolution?_click {register : Int} (waiting : session.machine.state.mode = .awaitingKey register) :
    session.machine.state.clocked.resolution? (holding session key true).machine.latch =
      (pad.riser? key).map fun riser => (riser, register) := by
  have raises : (holding session key true).machine.latch.raises session.machine.state.clocked.keypad =
      pad.goesDown key := by
    funext other
    have shown : session.machine.state.clocked.keypad[other.1]? = some (pad.shown.get other) := by
      change session.machine.state.keypad[other.1]? = _
      rw [holds.keypad]
      simp [Vector.get]
    rw [Latch.raises, shown, (holds.holding key true).latch, Pad.goesDown, Latch.pressed]
    by_cases same : other = key
    · simp [same]
    · have apart : key.1 ≠ other.1 := fun equal => same (Fin.ext equal.symm)
      simp [same, apart, KeyVector.released, Vector.get]
  have mode : session.machine.state.clocked.mode = .awaitingKey register := waiting
  rw [State.resolution?, mode, raises]
  rfl

/-- **A machine that waits takes the first key that goes down** in the first synchronisation of the click. -/
lemma click_answers {register : Int} (waiting : session.machine.state.mode = .awaitingKey register) :
    ∃ answered,
      (Machine.syncKeys none).run (session.performAll [.holdKey key.1 true, .advanceTimers]) =
        .ok (pad.riser? key) answered ∧
      ∀ riser, pad.riser? key = some riser →
        answered.machine.state = { session.machine.state.clocked with
          keypad := (pad.held.set key.1 true key.2).toArray
          registers := session.machine.state.registers.setIfInBounds register.toNat riser.1
          pc := session.machine.state.pc + 2
          mode := .running } ∧
        answered.machine.state.registers[register.toNat]? = some (riser.1 : Int) := by
  let down := holding session key true
  have begun : session.performAll [.holdKey key.1 true, .advanceTimers] = down.clocked := by
    rw [Session.performAll_cons, Session.after_of_ok (perform_holdKey_run session key true)]
    rfl
  have complete : down.clocked.machine.Complete := by
    rw [← begun]
    exact complete_performAll holds.complete _
  have taken : down.clocked.machine.latch.take none = .ok down.machine.latch := rfl
  have resolution : down.clocked.machine.state.resolution? down.machine.latch =
      (pad.riser? key).map fun riser => (riser, register) := resolution?_click holds key waiting
  refine ⟨down.clocked.synced none down.machine.latch, ?_, fun riser rises => ?_⟩
  · rw [begun, syncKeys_run_of_complete complete taken, resolution, Option.map_map]
    exact congrArg (fun answer => EStateM.Result.ok answer _) Option.map_id'
  · have outcome : (down.clocked.synced none down.machine.latch).machine.state =
        { session.machine.state.clocked with
          keypad := (pad.held.set key.1 true key.2).toArray }.resolved register riser.1 := by
      rw [Session.synced_machine, State.synced, resolution, rises, (holds.holding key true).latch,
        Latch.merged_virtual]
      rfl
    rw [State.resolved_key] at outcome
    refine ⟨outcome, ?_⟩
    have named := holds.complete.named register waiting
    have inside : register.toNat < session.machine.state.registers.size := by
      rw [holds.complete.shaped.registers_size]
      omega
    rw [outcome]
    exact Array.getElem?_setIfInBounds_self_of_lt inside

end

/-! ## Clicks that are refused, and clicks that are not -/

/-- A click with a number of steps is not refused. -/
lemma press_run (complete : session.machine.Complete) {steps : Reading} {count : Int}
    (readable : steps.whole = .ok count) (key : Key) :
    ∃ views, (press key.1 steps).run session =
      .ok views (session.performAll (click key count)).shown := by
  have accepted : Machine.accept steps.whole = pure count := by
    rw [readable]
    rfl
  have eq : press key.1 steps = follow (click key count) >>= fun _ => display := by
    simp only [press, accepted, click, half, List.cons_append, List.nil_append, follow_cons, follow_nil,
      Chip8.Command.perform, bind_assoc, pure_bind]
  rw [eq]
  refine follow_display_run (fun command member session complete => ?_) complete
  rcases List.mem_append.1 member with first | second
  · exact half_returns count first session complete
  · exact half_returns count second session complete

/-- **A click that is refused for its number of steps leaves the key down.**  Nothing else has happened. -/
lemma press_run_refused (session : Session) (key : Key) {steps : Reading} {error : Error}
    (unreadable : steps.whole = .error error) :
    (press key.1 steps).run session = .error error (holding session key true) := by
  rw [press, EStateM.run_bind, holdKey_run]
  dsimp only
  rw [EStateM.run_bind, unreadable, Machine.accept_run_error]

/-- A key that is not on the pad is refused before anything is done. -/
lemma press_run_foreign (session : Session) {key : Int} {error : Error}
    (foreign : Key.ofInt key = .error error) (steps : Reading) :
    (press key steps).run session = .error error session := by
  have refused (latch : Latch) : latch.hold key true = .error error := by
    rw [Latch.hold, foreign]
    rfl
  simp only [press, Machine.holdKey, EStateM.run_bind, Machine.look_run, refused,
    Machine.accept_run_error]

end Panel
end Chip8
