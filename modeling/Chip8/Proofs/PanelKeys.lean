import Chip8.Proofs.Clicks

/-!
# The keys of the panel

Which keys of a panel are held, and which the keypad shows, follows from the actions of its user; the program
has no part in it.  A load takes a new machine, a run tells the keypad, a click releases its key; only a click
that is refused for its number of steps leaves a key held.  If there was none, no key is held between the
actions, a click is always seen as a key that goes down, and it answers a machine that waits.

* **`Panel.Pad.after`** — what an action does to the keys; `Panel.Pad.afterAll_released` — it leaves none held
  unless it is a click that is refused for its number of steps.
* `Panel.Between`, **`Panel.between_perform`** — what is so between two actions of a user.
* `Panel.Idle`, `Panel.Pad.On`, `Panel.Clicks` — what can be said of the machine and of the clicks to come.
* **`Panel.keys_of_session`** — sessions of any length; `Panel.refused_press_holds_key` — one of them.
-/

namespace Chip8
namespace Panel

/-! ## Actions and keys -/

namespace Pad

/-- What an action does to the keys.  A new machine has none.  A run tells the keypad.  A click releases its
key and tells the keypad too, but if it is refused for its number of steps it leaves the key down. -/
def after (pad : Pad) : Command → Pad
  | .pick name seed =>
    match seed.whole, exampleProgram name with
    | .ok _, .ok _ => {}
    | _, _ => pad
  | .upload _ seed =>
    match seed.whole with
    | .ok _ => {}
    | .error _ => pad
  | .run frames steps =>
    match frames.whole, steps.whole with
    | .ok frames, .ok _ => if 0 < frames then { pad with shown := pad.held } else pad
    | _, _ => pad
  | .press key steps =>
    match Key.ofInt key, steps.whole with
    | .ok key, .ok _ => { held := pad.held.set key.1 false key.2, shown := pad.held.set key.1 false key.2 }
    | .ok key, .error _ => { pad with held := pad.held.set key.1 true key.2 }
    | .error _, _ => pad

/-- The keys after a sequence of actions. -/
def afterAll (pad : Pad) (actions : List Command) : Pad := actions.foldl after pad

/-- The number of steps of a click is not refused. -/
def Orderly : Command → Prop
  | .press _ steps => ∃ count, steps.whole = .ok count
  | _ => True

/-- Nothing but clicks that are refused for their number of steps leaves keys held. -/
lemma after_released {action : Command} (orderly : Orderly action) : ({} : Pad).after action = {} := by
  cases action with
  | pick name seed =>
      rw [after]
      split <;> rfl
  | upload bytes seed =>
      rw [after]
      split <;> rfl
  | run frames steps =>
      rw [after]
      split
      · split_ifs <;> rfl
      · rfl
  | press key steps =>
      obtain ⟨count, readable⟩ := orderly
      have same (key : Key) : KeyVector.released.set key.1 false key.2 = KeyVector.released :=
        Vector.set_replicate_self
      rw [after, readable]
      cases Key.ofInt key with
      | ok key => simp only [same]
      | error _ => rfl

lemma afterAll_released {actions : List Command} (orderly : ∀ action ∈ actions, Orderly action) :
    ({} : Pad).afterAll actions = {} := by
  induction actions with
  | nil => rfl
  | cons action rest ih =>
      rw [afterAll, List.foldl_cons, after_released (orderly action List.mem_cons_self)]
      exact ih fun other member => orderly other (List.mem_cons_of_mem _ member)

end Pad

variable {pad : Pad} {session : Session}

/-! ## Actions that are not refused, and actions that are -/

/-- The keys of the panel are these, and the screen counts as rendered. -/
structure Between (pad : Pad) (session : Session) : Prop extends Holds pad session where
  clean : session.machine.state.screen.dirty = false

/-- Showing a machine does not touch its keys. -/
lemma Holds.shown (holds : Holds pad session) : Between pad session.shown where
  complete :=
    ⟨⟨holds.complete.shaped.memory_size, holds.complete.shaped.registers_size,
      holds.complete.shaped.keypad_size⟩, holds.complete.listed, holds.complete.named⟩
  latch := holds.latch
  keypad := holds.keypad
  bound := holds.bound
  clean := rfl

/-- A new machine has no key held. -/
lemma newSession_rests {seed : Reading} {number : Int} (readable : seed.whole = .ok number) :
    ∃ session, newSession seed = .ok session ∧ Rests {} session := by
  obtain ⟨machine, created⟩ : ∃ machine,
      Machine.create { random := .seeded number, tracing := true, traceBound } = .ok machine := ⟨_, rfl⟩
  refine ⟨{ machine }, ?_, ?_⟩
  · simp only [newSession, readable, created, bind, Except.bind]
    rfl
  · have complete := (Machine.create_sound created).complete
    obtain ⟨bound, font, bounded, -, rfl⟩ := Machine.create_eq_ok_iff.1 created
    exact ⟨⟨complete, rfl, (Latch.merged_virtual .released).symm⟩, rfl, eq_of_extent bounded⟩

/-- Programs that are built in can be loaded. -/
lemma checkProgram_example {name : String} {words : List Int} (known : exampleProgram name = .ok words) :
    Machine.checkProgram words = .ok () := by
  have each : ∀ entry ∈ examples, Machine.checkProgram entry.2 = .ok () := by decide
  rw [exampleProgram] at known
  split at known
  · next entry found =>
      cases known
      exact each entry (List.mem_of_find?_eq_some found)
  · cases known

section

variable (rests : Rests {} session)
include rests

lemma display_ends : ∃ views, display.run session = .ok views session.shown ∧ Between {} session.shown := by
  obtain ⟨views, shown⟩ := display_run rests.complete.shaped.memory_size
  exact ⟨views, shown, rests.holds.shown⟩

/-- A program that is accepted is stored and shown. -/
lemma load_ends {words : List Int} (accepted : Machine.checkProgram words = .ok ()) :
    ∃ views left, (Machine.load words >>= fun _ => display).run session = .ok views left ∧
      Between {} left := by
  have loaded := Machine.load_run rests.complete.shaped.memory_size accepted
  have stored : Rests {} (session.loaded words) := by
    have rests : Rests {} (session.after (Chip8.Command.perform (.load words))) := rests.perform rfl
    rwa [Chip8.Command.perform, Session.after_reply, Session.after_of_ok loaded] at rests
  obtain ⟨views, shown, rest⟩ := display_ends stored
  refine ⟨views, _, ?_, rest⟩
  rw [EStateM.run_bind, loaded]
  exact shown

lemma pick_ends {name : String} {words : List Int} (known : exampleProgram name = .ok words) :
    ∃ views left, (pick name).run session = .ok views left ∧ Between {} left := by
  have run : (pick name).run session = (Machine.load words >>= fun _ => display).run session := by
    rw [pick, EStateM.run_bind, known, Machine.accept_run_ok]
  rw [run]
  exact load_ends rests (checkProgram_example known)

/-- A file that is refused is told of, on a machine without a program. -/
lemma upload_ends (bytes : List UInt8) :
    ∃ views left, (upload bytes).run session = .ok views left ∧ Between {} left := by
  obtain ⟨views, shown, rest⟩ := display_ends rests
  rw [upload]
  split
  · exact ⟨views, _, shown, rest⟩
  · dsimp only
    split
    · next accepted => exact load_ends rests accepted
    · next error _ =>
        refine ⟨{ views with registers := s!"Error: {error.message}" }, _, ?_, rest⟩
        rw [EStateM.run_bind, shown]
        rfl

end

/-- A run shows the machine again. -/
lemma run_run (complete : session.machine.Complete) {frames steps : Reading} {count pace : Int}
    (readable : frames.whole = .ok count) (paced : steps.whole = .ok pace) :
    ∃ views, (run frames steps).run session =
      .ok views (session.performAll [.run count pace none]).shown := by
  let operations : List Chip8.Command := [.run count pace none]
  have eq : (run frames steps).run session = (follow operations >>= fun _ => display).run session := by
    simp only [run, readable, paced, EStateM.run_bind, Machine.accept_run_ok, operations, follow_cons,
      follow_nil, Chip8.Command.perform, bind_assoc, pure_bind]
  have returns (command : Chip8.Command) (member : command ∈ operations) (session : Session)
      (complete : session.machine.Complete) : Returns command.perform session := by
    obtain rfl := List.mem_singleton.1 member
    exact unreported_returns complete rfl rfl
  rw [eq]
  exact follow_display_run returns complete

/-! ### The panel -/

/-- An action that loads a program into a new machine. -/
def Command.loads : Command → Bool
  | .pick _ _ | .upload _ _ => true
  | .run _ _ | .press _ _ => false

/-- The panel after a sequence of actions, each of which may have been refused. -/
def performAll (panel : Panel) (actions : List Command) : Panel :=
  actions.foldl (fun panel action => leaves action.perform panel) panel

section

variable (panel : Panel)

/-- A new machine takes the place of the old one, unless the operation is refused. -/
lemma replacing_run {seed : Reading} (new : newSession seed = .ok session) (operation : Operation Views) :
    (replacing seed operation).run panel =
      match operation.run session with
      | .ok views left => .ok views (some left)
      | .error error _ => .error error panel := by
  change replacing seed operation panel = _
  cases ran : operation.run session with
  | ok views left => simp only [replacing, new, ran]
  | error error left => simp only [replacing, new, ran]

/-- Without a seed there is no new machine. -/
lemma replacing_run_unreadable {seed : Reading} {error : Error} (unreadable : seed.whole = .error error)
    (operation : Operation Views) : (replacing seed operation).run panel = .error error panel := by
  have new : newSession seed = .error error := by
    rw [newSession, unreadable]
    rfl
  change replacing seed operation panel = _
  rw [replacing, new]

/-- A program is loaded into a new machine, or the old machine stays as it is. -/
lemma load_action_ends (action : Command) (pad : Pad) (loads : action.loads = true) :
    (∃ views left, action.perform.run panel = .ok views (some left) ∧ Between {} left ∧
      pad.after action = {}) ∨
    ∃ error, action.perform.run panel = .error error panel ∧ pad.after action = pad := by
  cases action with
  | run _ _ | press _ _ => cases loads
  | pick name seed =>
      cases readable : seed.whole with
      | error error =>
          exact .inr ⟨error, replacing_run_unreadable panel readable _, by simp only [Pad.after, readable]⟩
      | ok number =>
          obtain ⟨session, new, rests⟩ := newSession_rests readable
          cases known : exampleProgram name with
          | error error =>
              have refused : (pick name).run session = .error error session := by
                rw [pick, EStateM.run_bind, known, Machine.accept_run_error]
              refine .inr ⟨error, ?_, by simp only [Pad.after, readable, known]⟩
              rw [Command.perform, replacing_run panel new, refused]
          | ok words =>
              obtain ⟨views, left, run, between⟩ := pick_ends rests known
              refine .inl ⟨views, left, ?_, between, by simp only [Pad.after, readable, known]⟩
              rw [Command.perform, replacing_run panel new, run]
  | upload bytes seed =>
      cases readable : seed.whole with
      | error error =>
          exact .inr ⟨error, replacing_run_unreadable panel readable _, by simp only [Pad.after, readable]⟩
      | ok number =>
          obtain ⟨session, new, rests⟩ := newSession_rests readable
          obtain ⟨views, left, run, between⟩ := upload_ends rests bytes
          refine .inl ⟨views, left, ?_, between, by simp only [Pad.after, readable]⟩
          rw [Command.perform, replacing_run panel new, run]

/-- An operation on the machine that is there. -/
lemma onCurrent_run (operation : Operation Views) (session : Session) :
    (onCurrent operation).run (some session) =
      match operation.run session with
      | .ok views left => .ok views (some left)
      | .error error left => .error error (some left) := rfl

/-- The machine that an operation leaves behind, refused or not. -/
lemma leaves_onCurrent (operation : Operation Views) (session : Session) :
    leaves (onCurrent operation) (some session) = some (leaves operation session) := by
  rw [leaves, onCurrent_run, leaves]
  cases operation.run session <;> rfl

section

variable (between : Between pad session)
include between

lemma between_run (frames steps : Reading) :
    Between (pad.after (.run frames steps)) (leaves (run frames steps) session) := by
  cases readable : frames.whole with
  | error error =>
      have refused : (run frames steps).run session = .error error session := by
        rw [run, EStateM.run_bind, readable, Machine.accept_run_error]
      simpa only [Pad.after, readable, leaves_of_error refused] using between
  | ok count =>
      cases paced : steps.whole with
      | error error =>
          have refused : (run frames steps).run session = .error error session := by
            simp only [run, EStateM.run_bind, readable, paced, Machine.accept_run_ok,
              Machine.accept_run_error]
          simpa only [Pad.after, readable, paced, leaves_of_error refused] using between
      | ok pace =>
          obtain ⟨views, ran⟩ := run_run between.complete readable paced
          rw [leaves_of_ok ran]
          simp only [Pad.after, readable, paced]
          split_ifs with frames_left
          · have rests := rests_run between.complete between.bound frames_left pace
            rw [between.latch] at rests
            exact rests.holds.shown
          · have idle : session.performAll [.run count pace none] = session :=
              after_run_none session (not_lt.1 frames_left) pace
            rw [idle]
            exact between.toHolds.shown

lemma between_press (number : Int) (steps : Reading) :
    Between (pad.after (.press number steps)) (leaves (press number steps) session) := by
  cases named : Key.ofInt number with
  | error error =>
      simpa only [Pad.after, named, leaves_of_error (press_run_foreign session named steps)] using between
  | ok key =>
      obtain rfl := Key.eq_of_ofInt named
      cases readable : steps.whole with
      | error error =>
          simp only [Pad.after, named, readable, leaves_of_error (press_run_refused session key readable)]
          exact ⟨between.toHolds.holding key true, between.clean⟩
      | ok count =>
          obtain ⟨views, ran⟩ := press_run between.complete readable key
          simp only [Pad.after, named, readable, leaves_of_ok ran]
          exact (rests_click between.toHolds key count).holds.shown

/-- **What is so between two actions of a user** stays so after every action, refused or not. -/
theorem between_perform (action : Command) :
    ∃ left, leaves action.perform (some session) = some left ∧ Between (pad.after action) left := by
  by_cases loads : action.loads = true
  · rcases load_action_ends _ action pad loads with ⟨views, left, run, rest, keys⟩ | ⟨error, run, keys⟩
    · rw [keys]
      exact ⟨left, leaves_of_ok run, rest⟩
    · rw [keys]
      exact ⟨session, leaves_of_error run, between⟩
  · cases action with
    | pick _ _ | upload _ _ => exact absurd rfl loads
    | run frames steps => exact ⟨_, leaves_onCurrent _ _, between_run between frames steps⟩
    | press number steps => exact ⟨_, leaves_onCurrent _ _, between_press between number steps⟩

/-- The same for a whole session. -/
theorem between_performAll (actions : List Command) :
    ∃ left, performAll (some session) actions = some left ∧ Between (pad.afterAll actions) left := by
  induction actions generalizing session pad with
  | nil => exact ⟨session, rfl, between⟩
  | cons action later ih =>
      obtain ⟨next, after, between⟩ := between_perform between action
      rw [performAll, List.foldl_cons, after]
      exact ih between

end
end

/-! ## The whole session -/

/-- No key is held, be it on the keypad, by the host or on the pad; the trace is short, and the screen
counts as rendered. -/
structure Idle (machine : Machine) : Prop where
  keypad : machine.state.keypad = Array.replicate keyCount false
  physical : machine.latch.physical = .released
  virtual : machine.latch.virtual = .released
  trace : machine.trace.size ≤ 200
  clean : machine.state.screen.dirty = false

/-- The machine shows these keys and holds them on the pad; the rest is as when it is idle. -/
structure Pad.On (pad : Pad) (machine : Machine) : Prop where
  keypad : machine.state.keypad = pad.shown.toArray
  physical : machine.latch.physical = .released
  virtual : machine.latch.virtual = pad.held
  trace : machine.trace.size ≤ 200
  clean : machine.state.screen.dirty = false

lemma Between.on (between : Between pad session) : pad.On session.machine where
  keypad := between.keypad
  physical := by rw [between.latch]
  virtual := by rw [between.latch]
  trace := by
    have bound : session.machine.trace.bound = 200 := between.bound
    exact bound ▸ session.machine.trace.size_le
  clean := between.clean

lemma Pad.On.idle_iff {machine : Machine} (on : pad.On machine) : Idle machine ↔ pad = {} := by
  constructor
  · intro idle
    have shown : pad.shown = .released := Vector.toArray_inj.1 (on.keypad.symm.trans idle.keypad)
    have held : pad.held = .released := on.virtual.symm.trans idle.virtual
    obtain ⟨_, _⟩ := pad
    cases shown
    cases held
    rfl
  · rintro rfl
    exact ⟨on.keypad, on.physical, on.virtual, on.trace, on.clean⟩

/-- What a click on the panel does. -/
structure Clicks (pad : Pad) (session : Session) (key : Key) (steps : Reading) : Prop where
  /-- Where the number of steps is refused, the key is held, and that is all. -/
  refused : ∀ error, steps.whole = .error error →
    (Command.perform (.press key.1 steps)).run (some session) =
      .error error (some (holding session key true))
  /-- Else the click is not refused, and shows the machine after its operations; the timers have advanced
  twice. -/
  returns : ∀ count, steps.whole = .ok count → ∃ views left,
    (Command.perform (.press key.1 steps)).run (some session) = .ok views (some left) ∧
      left = (session.performAll (click key count)).shown ∧
      left.machine.ticks = session.machine.ticks + 2
  /-- The key is down for one frame and up for another, and no instruction is executed in front of the
  first synchronisation. -/
  stages : ∀ count, ∃ first last, (∀ stage ∈ first ++ last, stage = .step) ∧
    session.unrolled (click key count) =
      .holdKey key.1 true :: .advanceTimers :: .syncKeys none :: first ++
        .holdKey key.1 false :: .advanceTimers :: .syncKeys none :: last
  /-- There a machine that waits takes the first key that goes down, and goes on behind the waiting
  instruction. -/
  answers : ∀ register, session.machine.state.mode = .awaitingKey register →
    ∃ answered,
      (Machine.syncKeys none).run (session.performAll [.holdKey key.1 true, .advanceTimers]) =
        .ok (pad.riser? key) answered ∧
      ∀ riser, pad.riser? key = some riser →
        answered.machine.state = { session.machine.state.clocked with
          keypad := (pad.held.set key.1 true key.2).toArray
          registers := session.machine.state.registers.setIfInBounds register.toNat riser.1
          pc := session.machine.state.pc + 2
          mode := .running } ∧
        answered.machine.state.registers[register.toNat]? = some (riser.1 : Int)
  /-- That is the key of the click, unless other clicks have left keys held. -/
  first : pad.riser? key = some key ↔
    pad.shown.get key = false ∧
      ∀ smaller < key, pad.held.get smaller = true → pad.shown.get smaller = true

lemma Between.clicks (between : Between pad session) (key : Key) (steps : Reading) :
    Clicks pad session key steps where
  refused error unreadable := by
    rw [Command.perform, onCurrent_run, press_run_refused session key unreadable]
  returns count readable := by
    obtain ⟨views, run⟩ := press_run between.complete readable key
    refine ⟨views, _, ?_, rfl, ?_⟩
    · rw [Command.perform, onCurrent_run, run]
    · rw [Session.shown_ticks]
      exact ticks_click between.toHolds key count
  stages count := unrolled_click between.toHolds key count
  answers _ waiting := click_answers between.toHolds key waiting
  first := Pad.riser?_eq_self_iff

/-- **The keys of a session.**  A session begins with a program that could be loaded, and goes on with any
actions of a user, refused ones among them.  After each of them there is a machine with 200 entries on its
trace at most and nothing left to be painted.  Its keys follow from the actions: a key is held where a click
on it was refused for its number of steps and no later click on it or load has released it.  So no key is
held anywhere if there was no such click, and only if none is left.  Whatever the program has done by then, a
click with a number of steps is not refused and advances the timers twice; and if the machine waits for a key,
the click answers it before an instruction is executed. -/
theorem keys_of_session {first : Command} {views : Views} {panel : Panel} (loads : first.loads = true)
    (begun : first.perform.run none = .ok views panel) (actions : List Command) :
    let pad := ({} : Pad).afterAll actions
    ∃ session, panel.performAll actions = some session ∧ pad.On session.machine ∧
      (Idle session.machine ↔ pad = {}) ∧ ((∀ action ∈ actions, Pad.Orderly action) → pad = {}) ∧
      ∀ key steps, Clicks pad session key steps := by
  obtain ⟨session, shown, between⟩ : ∃ session, panel = some session ∧ Between {} session := by
    rcases load_action_ends none first {} loads with ⟨views, left, run, rest, -⟩ | ⟨error, run, -⟩
    · rw [run] at begun
      cases begun
      exact ⟨left, rfl, rest⟩
    · rw [run] at begun
      cases begun
  obtain ⟨left, reached, between⟩ := between_performAll between actions
  exact ⟨left, shown ▸ reached, between.on, between.on.idle_iff, Pad.afterAll_released, between.clicks⟩

/-- A program file with a single word waits in `V3`; a key that does not exist is refused, and then comes a
click on key 7. -/
theorem keys_of_session_upload :
    ∃ views panel session,
      (Command.perform (.upload [0xF3, 0x0A] (.number 0))).run none = .ok views panel ∧
      panel.performAll [.run (.number 1) (.number 1), .press 16 (.number 3)] = some session ∧
      session.machine.state.mode = .awaitingKey 3 ∧ Idle session.machine ∧
      ∃ answered,
        (Machine.syncKeys none).run (session.performAll [.holdKey 7 true, .advanceTimers]) =
          .ok (some 7) answered ∧
        answered.machine.state.registers[3]? = some 7 := by
  let first : Command := .upload [0xF3, 0x0A] (.number 0)
  let actions : List Command := [.run (.number 1) (.number 1), .press 16 (.number 3)]
  have waits : ((leaves first.perform none).performAll actions).map (·.machine.state.mode) =
      some (.awaitingKey 3) := by
    unfold first actions
    decide +kernel
  have empty : ({} : Pad).afterAll actions = {} := by
    unfold actions
    decide +kernel
  obtain ⟨views, left, begun, -⟩ | ⟨error, refused, -⟩ := load_action_ends none first {} rfl
  · obtain ⟨session, reached, -, idle, -, clicks⟩ := keys_of_session rfl begun actions
    rw [leaves_of_ok begun, reached] at waits
    rw [empty] at idle clicks
    have waiting : session.machine.state.mode = .awaitingKey 3 := Option.some.inj waits
    obtain ⟨answered, run, after⟩ := (clicks 7 (.number 3)).answers 3 waiting
    have rises : ({} : Pad).riser? 7 = some 7 := by decide
    have seven : (((7 : Key).1 : Nat) : Int) = 7 := rfl
    rw [rises, seven] at run
    exact ⟨views, some left, session, begun, reached, waiting, idle.2 rfl, answered, run,
      (after 7 rises).2⟩
  · rw [leaves_of_error refused] at waits
    cases waits

/-- A click on key 5 is refused because its number of steps is no number.  The key stays down, and the next
click, on key 7, answers a program that waits with 5. -/
theorem refused_press_holds_key :
    ∃ views panel session later,
      (Command.perform (.pick "Echo key" (.number 0))).run none = .ok views panel ∧
      panel.performAll [.run (.number 1) (.number 1), .press 5 .undefined] = some session ∧
      session.machine.latch.virtual[5] = true ∧ ¬ Idle session.machine ∧
      session.machine.state.mode = .awaitingKey 0 ∧
      leaves (Command.perform (.press 7 (.number 1))) (some session) = some later ∧
      later.machine.state.registers[0]? = some 5 := by
  let first : Command := .pick "Echo key" (.number 0)
  let actions : List Command := [.run (.number 1) (.number 1), .press 5 .undefined]
  let click : Command := .press 7 (.number 1)
  -- both are read off one evaluation of the session
  have seen : ((leaves first.perform none).performAll actions).map (fun session =>
      (session.machine.latch.virtual[5], session.machine.state.mode,
        (leaves click.perform (some session)).bind (·.machine.state.registers[0]?))) =
          some (true, .awaitingKey 0, some 5) := by
    unfold first actions click
    decide +kernel
  obtain ⟨views, left, begun, between, -⟩ | ⟨error, refused, -⟩ := load_action_ends none first {} rfl
  · obtain ⟨session, reached, -⟩ := between_performAll between actions
    rw [leaves_of_ok begun, reached] at seen
    simp only [Option.map_some, Option.some.injEq, Prod.mk.injEq] at seen
    obtain ⟨held, waiting, mistaken⟩ := seen
    obtain ⟨later, after, answered⟩ := Option.bind_eq_some_iff.1 mistaken
    refine ⟨views, some left, session, later, begun, reached, held, fun idle => ?_, waiting, after,
      answered⟩
    rw [idle.virtual] at held
    revert held
    decide
  · rw [leaves_of_error refused] at seen
    cases seen

end Panel
end Chip8
