import Chip8.Machine.Command
import Chip8.Proofs.Preservation
import Chip8.Proofs.Step

/-!
# What one operation can do to a machine

Loading, resetting, the timers, the keys and a single step are the elementary operations.  Each of them
has one or two outcomes, listed here once; an invariant of the machine is then a case analysis over
this list and never looks into an operation again.

* `Command.isElementary`, `Command.isLoad` — ticks, frames and runs are not elementary.
* `State.clocked`, `State.resolved`, `Machine.cleared` — the outcomes that are functions.
* **`Move`** — the list of outcomes.  A load can only touch memory and the glyph table, a
  synchronisation only the keypad, unless it ends a suspension.
* **`move_perform`** — every elementary operation is a move, on machines of any shape, refused or not.
-/

namespace Chip8

namespace Command

/-- Whether an operation is not put together from others. -/
def isElementary : Command → Bool
  | tick _ | frame _ _ | run _ _ _ => false
  | _ => true

/-- Whether an operation writes a program or a glyph table into memory. -/
def isLoad : Command → Bool
  | load _ | loadFile _ | loadFont _ => true
  | _ => false

end Command

/-! ## The list of outcomes -/

/-- The state after one tick of the timers. -/
def State.clocked (state : State) : State :=
  { state with
    delayTimer := max 0 (state.delayTimer - 1)
    soundTimer := max 0 (state.soundTimer - 1) }

/-- The state after a key that was waited for has arrived in a register. -/
def State.resolved (state : State) (register value : Int) : State :=
  { state with
    registers := state.registers.setIfInBounds register.toNat (value % 256)
    mode := .running
    pc := state.pc + 2 }

/-- The machine after a reset. -/
def Machine.cleared (machine : Machine) : Machine :=
  { machine with
    state := .fresh machine.font
    ticks := 0
    latch := {}
    trace := machine.trace.clear
    faults := {} }

/-- What an elementary operation can do to a machine. -/
inductive Move (before : Machine) : Command → Machine → Prop
  | stored {command : Command} (loads : command.isLoad = true) (font : Font) (memory : Memory)
      (size : memory.size = before.state.memory.size) :
      Move before command { before with font, state := { before.state with memory } }
  | cleared : Move before .reset before.cleared
  | clocked : Move before .advanceTimers
      { before with ticks := before.ticks + 1, state := before.state.clocked }
  | held (key : Int) (pressed : Bool) (latch : Latch) :
      Move before (.holdKey key pressed) { before with latch }
  | sensed (keys : Option HostReport) (latch : Latch) (keypad : Array Bool)
      (size : keypad.size = before.state.keypad.size) :
      Move before (.syncKeys keys) { before with latch, state := { before.state with keypad } }
  /-- The key that ends a suspension goes to the register that waits for it. -/
  | resolved (keys : Option HostReport) (latch : Latch) (keypad : Array Bool)
      (size : keypad.size = before.state.keypad.size) (key : Key) (register : Int)
      (waiting : before.state.mode = .awaitingKey register)
      (named : 0 ≤ register ∧ register < registerCount) :
      Move before (.syncKeys keys)
        { before with latch, state := { before.state with keypad }.resolved register key.1 }
  /-- A step that executes nothing: the machine is suspended, or there is no word to fetch. -/
  | idled (trace : Recent Entry) (faults : FaultCounts) :
      Move before .step { before with trace, faults }
  | executed (random : RandomSupply) (trace : Recent Entry) (faults : FaultCounts) (word : Int)
      (running : before.state.mode = .running)
      (fetched : fetch before.state.memory before.state.pc = .ok word) :
      Move before .step
        { before with
          random, trace, faults
          state := leaves (before.execution word) before.state }

/-! ## Building blocks -/

section

variable {property : Session → Prop}

lemma Preserves.accept {α : Type} (result : Except Error α) :
    Preserves property (Machine.accept result) := by
  cases result with
  | ok value => exact .pure _
  | error error => exact .throw _

lemma Preserves.look : Preserves property Machine.look := fun _ holds => holds

/-- Nothing that is said of the machine alone is changed by writing an event down. -/
lemma Preserves.emit {property : Machine → Prop} (event : Event) :
    Preserves (fun session => property session.machine) (Machine.emit event) := fun _ holds => holds

lemma Preserves.change {property : Machine → Prop} {f : Machine → Machine}
    (keeps : ∀ machine, property machine → property (f machine)) :
    Preserves (fun session => property session.machine) (Machine.change f) :=
  fun session holds => keeps session.machine holds

lemma Preserves.onState {α : Type} {property : Machine → Prop} {action : Action α}
    (keeps : ∀ machine, property machine →
      property { machine with state := leaves action machine.state }) :
    Preserves (fun session => property session.machine) (Machine.onState action) := by
  intro session holds
  have kept := keeps session.machine holds
  rw [leaves, Machine.onState_run]
  rw [leaves] at kept
  cases run : action.run session.machine.state with
  | ok value state =>
      rw [run] at kept
      exact kept
  | error error state =>
      rw [run] at kept
      exact kept

end

/-! ## Loads -/

/-- Storing bytes touches memory alone, and not its size. -/
lemma State.leaves_writeBlock (state : State) (address : Int) (data : List Int) :
    ∃ memory : Memory, memory.size = state.memory.size ∧
      leaves (writeBlock address data) state = { state with memory } := by
  induction data generalizing state address with
  | nil => exact ⟨state.memory, rfl, rfl⟩
  | cons value rest ih =>
      by_cases inside : Memory.cell address < state.memory.size
      · obtain ⟨memory, size, left⟩ :=
          ih { state with memory := state.memory.write address value } (address + 1)
        refine ⟨memory, size.trans (Memory.size_write _ _ _), ?_⟩
        have written : (writeByte address value).run state =
            .ok () { state with memory := state.memory.write address value } := by
          simp [writeByte, EStateM.run_bind, EStateM.run_get, EStateM.run_modify, inside]
        rw [writeBlock, leaves, EStateM.run_bind, written]
        exact left
      · refine ⟨state.memory, rfl, ?_⟩
        have missed : (writeByte address value).run state = .error .outOfBounds state := by
          simp [writeByte, EStateM.run_bind, EStateM.run_get, inside]
        rw [writeBlock, leaves, EStateM.run_bind, missed]

/-- What a load can do. -/
def Stored (before after : Machine) : Prop :=
  ∃ (font : Font) (memory : Memory), memory.size = before.state.memory.size ∧
    after = { before with font, state := { before.state with memory } }

namespace Stored

variable {before : Machine}

lemma refl : Stored before before := ⟨before.font, before.state.memory, rfl, rfl⟩

lemma writeBlock {after : Machine} (stored : Stored before after) (address : Int) (data : List Int) :
    Stored before { after with state := leaves (State.writeBlock address data) after.state } := by
  obtain ⟨font, memory, size, rfl⟩ := stored
  obtain ⟨written, same, left⟩ :=
    State.leaves_writeBlock { before.state with memory } address data
  exact ⟨font, written, same.trans size, by rw [left]⟩

lemma load (words : List Int) :
    Preserves (fun session => Stored before session.machine) (Machine.load words) :=
  (Preserves.accept _).bind fun _ =>
    (Preserves.onState fun _ stored => stored.writeBlock _ _).bind fun _ => .emit _

lemma loadFile (file : ProgramFile) :
    Preserves (fun session => Stored before session.machine) (Machine.loadFile file) :=
  (Preserves.accept _).bind fun _ => load _

lemma loadFont (glyphs : List Int) :
    Preserves (fun session => Stored before session.machine) (Machine.loadFont glyphs) := by
  refine (Preserves.accept _).bind fun font =>
    (Preserves.onState fun _ stored => stored.writeBlock _ _).bind fun _ => .change ?_
  rintro _ ⟨_, memory, size, rfl⟩
  exact ⟨font, memory, size, rfl⟩

lemma move {after : Machine} (stored : Stored before after) {command : Command}
    (loads : command.isLoad = true) : Move before command after := by
  obtain ⟨font, memory, size, rfl⟩ := stored
  exact .stored loads font memory size

end Stored

/-! ## Keys -/

/-- What a synchronisation can do. -/
def Synced (before after : Machine) : Prop :=
  ∃ (latch : Latch) (keypad : Array Bool), keypad.size = before.state.keypad.size ∧
    (after = { before with latch, state := { before.state with keypad } } ∨
      ∃ (key : Key) (register : Int), before.state.mode = .awaitingKey register ∧
        (0 ≤ register ∧ register < registerCount) ∧
        after = { before with latch, state := { before.state with keypad }.resolved register key.1 })

/-- The state after the host's key has been looked at. -/
def State.sensed (state : State) (key : Key) (pressed : Bool) : State :=
  { state with keypad := state.keypad.setIfInBounds key.1 pressed }

namespace Machine

variable {session : Session}

lemma setKeypad_run {state : State} {key : Key} (inside : key.1 < state.keypad.size) (pressed : Bool) :
    (setKeypad key pressed).run state = .ok state.keypad[key.1] (state.sensed key pressed) := by
  simp only [setKeypad, EStateM.run_bind, EStateM.run_get, Array.getElem?_eq_getElem inside]
  rfl

lemma setKeypad_run_missing {state : State} {key : Key} (outside : ¬ key.1 < state.keypad.size)
    (pressed : Bool) : (setKeypad key pressed).run state = .error .outOfBounds state := by
  simp only [setKeypad, EStateM.run_bind, EStateM.run_get,
    Array.getElem?_eq_none (Nat.le_of_not_lt outside)]
  rfl

/-- The action by which a key ends a suspension. -/
def resolve (register value : Int) : Action Unit := do
  State.setRegister register value
  State.resume
  State.advance

lemma resolve_run {state : State} {register : Int} (named : 0 ≤ register ∧ register < registerCount)
    (inside : register.toNat < state.registers.size) (value : Int) :
    (resolve register value).run state = .ok () (state.resolved register value) := by
  rw [resolve, EStateM.run_bind, State.setRegister, if_pos named, State.replaceRegister_run inside]
  rfl

/-- A resolution that is refused changes nothing. -/
lemma leaves_resolve (state : State) (register value : Int) :
    leaves (resolve register value) state = state ∨
      (0 ≤ register ∧ register < registerCount) ∧
        leaves (resolve register value) state = state.resolved register value := by
  by_cases named : 0 ≤ register ∧ register < registerCount
  · by_cases inside : register.toNat < state.registers.size
    · exact .inr ⟨named, leaves_of_ok (resolve_run named inside value)⟩
    · have missed : (resolve register value).run state = .error .outOfBounds state := by
        rw [resolve, EStateM.run_bind, State.setRegister, if_pos named, State.replaceRegister,
          EStateM.run_bind, EStateM.run_get]
        simp only [inside, ↓reduceIte]
        rfl
      exact .inl (leaves_of_error missed)
  · have refused : (resolve register value).run state =
        .error (.invalidRegister register) state := by
      rw [resolve, EStateM.run_bind, State.setRegister, if_neg named]
      rfl
    exact .inl (leaves_of_error refused)

lemma leaves_resolution (register : Int) (key : Key) :
    (leaves (do
        onState (resolve register key.1)
        emit (.resolved key register)
        return true : Operation Bool) session).machine =
      { session.machine with state := leaves (resolve register key.1) session.machine.state } := by
  rw [leaves, EStateM.run_bind, onState_run, leaves]
  cases (resolve register key.1).run session.machine.state with
  | ok value state => rfl
  | error error state => rfl

/-- One key: first the keypad, and then, if the key went down, the register that waits for it. -/
lemma syncKey_run {key : Key} (inside : key.1 < session.machine.state.keypad.size) :
    (syncKey key).run session =
      let pressed := session.machine.latch.pressed key
      let sensed := withState session (session.machine.state.sensed key pressed)
      if (pressed && !session.machine.state.keypad[key.1]) = true then
        match session.machine.state.mode with
        | .running => .ok false sensed
        | .awaitingKey register => (do
            onState (resolve register key.1)
            emit (.resolved key register)
            return true : Operation Bool).run sensed
      else .ok false sensed := by
  simp only [syncKey, EStateM.run_bind, look_run, onState_run, setKeypad_run inside]
  split_ifs with down
  · simp only [EStateM.run_bind, look_run]
    cases mode : session.machine.state.mode with
    | running =>
        rw [withState_machine]
        simp only [State.sensed, mode]
        rfl
    | awaitingKey register =>
        rw [withState_machine]
        simp only [State.sensed, mode]
        rfl
  · rfl

end Machine

namespace Synced

variable {before after : Machine}

lemma refl : Synced before before :=
  ⟨before.latch, before.state.keypad, rfl, .inl rfl⟩

lemma trans {last : Machine} (first : Synced before after) (second : Synced after last) :
    Synced before last := by
  obtain ⟨latch, keypad, size, rfl | ⟨key, register, waiting, named, rfl⟩⟩ := first
  · obtain ⟨latch, keypad, same, rfl | ⟨key, register, waiting, named, rfl⟩⟩ := second
    · exact ⟨latch, keypad, same.trans size, .inl rfl⟩
    · exact ⟨latch, keypad, same.trans size, .inr ⟨key, register, waiting, named, rfl⟩⟩
  · obtain ⟨latch, keypad, same, rfl | ⟨_, _, again, _, _⟩⟩ := second
    · exact ⟨latch, keypad, same.trans size, .inr ⟨key, register, waiting, named, rfl⟩⟩
    · cases again

lemma syncKey (key : Key) (session : Session) :
    Synced session.machine (leaves (Machine.syncKey key) session).machine := by
  by_cases inside : key.1 < session.machine.state.keypad.size
  · have sensed : Synced session.machine
        { session.machine with
          state := session.machine.state.sensed key (session.machine.latch.pressed key) } :=
      ⟨session.machine.latch, _, by rw [Array.size_setIfInBounds], .inl rfl⟩
    rw [leaves, Machine.syncKey_run inside]
    dsimp only
    split_ifs with down
    · cases mode : session.machine.state.mode with
      | running => exact sensed
      | awaitingKey register =>
          refine sensed.trans ?_
          change Synced _ (leaves _ (Machine.withState session _)).machine
          rw [Machine.leaves_resolution]
          rcases Machine.leaves_resolve
            (session.machine.state.sensed key (session.machine.latch.pressed key)) register key.1
            with kept | ⟨named, left⟩
          · rw [Machine.withState_machine, kept]
            exact refl
          · rw [Machine.withState_machine, left]
            exact ⟨session.machine.latch, _, rfl, .inr ⟨key, register, mode, named, rfl⟩⟩
    · exact sensed
  · have missed : (Machine.syncKey key).run session =
        .error .outOfBounds (Machine.withState session session.machine.state) := by
      simp only [Machine.syncKey, EStateM.run_bind, Machine.look_run, Machine.onState_run,
        Machine.setKeypad_run_missing inside]
    rw [leaves_of_error missed]
    exact refl

lemma syncKeysFrom (found : Option Key) (keys : List Key) :
    Preserves (fun session => Synced before session.machine) (Machine.syncKeysFrom found keys) := by
  induction keys generalizing found with
  | nil => exact .pure _
  | cons key rest ih =>
      refine Preserves.bind (fun session synced => synced.trans (syncKey key session)) fun _ => ?_
      exact .ite (fun _ => ih _) fun _ => ih _

lemma syncKeys (keys : Option HostReport) :
    Preserves (fun session => Synced before session.machine) (Machine.syncKeys keys) := by
  have rest : Preserves (fun session => Synced before session.machine) (do
      let resolved ← Machine.syncKeysFrom none (List.finRange keyCount)
      Machine.emit (.synced keys)
      return resolved : Operation (Option Key)) :=
    (syncKeysFrom _ _).bind fun _ => (Preserves.emit _).bind fun _ => .pure _
  cases keys with
  | none => exact rest
  | some report =>
      refine Preserves.look.bind fun _ => (Preserves.accept _).bind fun latch =>
        (Preserves.change ?_).bind fun _ => rest
      rintro machine ⟨_, keypad, size, outcome⟩
      refine ⟨latch, keypad, size, ?_⟩
      rcases outcome with rfl | ⟨key, register, waiting, named, rfl⟩
      · exact .inl rfl
      · exact .inr ⟨key, register, waiting, named, rfl⟩

lemma move (synced : Synced before after) (keys : Option HostReport) :
    Move before (.syncKeys keys) after := by
  obtain ⟨latch, keypad, size, rfl | ⟨key, register, waiting, named, rfl⟩⟩ := synced
  · exact .sensed keys latch keypad size
  · exact .resolved keys latch keypad size key register waiting named

end Synced

/-! ## Steps -/

lemma move_step (session : Session) :
    Move session.machine .step (leaves Machine.step session).machine := by
  have executed (random : RandomSupply) (trace : Recent Entry) (faults : FaultCounts) {word : Int}
      {state : State} (running : session.machine.state.mode = .running)
      (fetched : fetch session.machine.state.memory session.machine.state.pc = .ok word)
      (left : leaves (session.machine.execution word) session.machine.state = state) :
      Move session.machine .step { session.machine with random, trace, faults, state } :=
    left ▸ .executed random trace faults word running fetched
  have ended := Machine.step_end session
  rw [leaves]
  generalize Machine.step.run session = result at ended ⊢
  cases ended with
  | suspended => exact .idled session.machine.trace session.machine.faults
  | lost =>
      dsimp only
      rw [Session.completed_machine, Session.reported_machine]
      exact .idled _ _
  | missing => exact .idled session.machine.trace session.machine.faults
  | ran running word fetched state run =>
      dsimp only
      rw [Session.completed_machine, Machine.withState_machine, Session.ready_machine]
      exact executed _ _ _ running fetched (leaves_of_ok run)
  | met running word fetched fault state run =>
      dsimp only
      rw [Session.completed_machine, Session.reported_machine, Machine.withState_machine,
        Session.ready_machine]
      exact executed _ _ _ running fetched (leaves_of_error run)
  | refused running word fetched error state run =>
      dsimp only
      rw [Machine.withState_machine, Session.ready_machine]
      exact executed _ _ _ running fetched (leaves_of_error run)

/-! ## All elementary operations -/

/-- A reply does not change anything any more. -/
lemma leaves_reply {α : Type} (operation : Operation α) (reply : α → Reply) (session : Session) :
    leaves (operation >>= fun answer => return reply answer) session = leaves operation session := by
  rw [leaves, leaves, EStateM.run_bind]
  cases operation.run session with
  | ok answer left => rfl
  | error error left => rfl

/-- **An elementary operation is a move**, on machines of any shape, refused or not. -/
theorem move_perform {command : Command} (elementary : command.isElementary = true)
    (session : Session) :
    Move session.machine command (leaves command.perform session).machine := by
  cases command with
  | load words =>
      rw [Command.perform, leaves_reply]
      exact (Stored.load words session .refl).move rfl
  | loadFile file =>
      rw [Command.perform, leaves_reply]
      exact (Stored.loadFile file session .refl).move rfl
  | loadFont glyphs =>
      rw [Command.perform, leaves_reply]
      exact (Stored.loadFont glyphs session .refl).move rfl
  | reset => exact .cleared
  | advanceTimers => exact .clocked
  | syncKeys keys =>
      rw [Command.perform, leaves_reply]
      exact (Synced.syncKeys keys session .refl).move keys
  | holdKey key pressed =>
      have held : Preserves (fun left => ∃ latch, left.machine = { session.machine with latch })
          (Machine.holdKey key pressed) := by
        refine Preserves.look.bind fun _ => (Preserves.accept _).bind fun latch =>
          Preserves.bind ?_ fun _ => fun _ holds => holds
        rintro left ⟨_, same⟩
        refine ⟨latch, ?_⟩
        rw [leaves, Machine.change_run]
        dsimp only
        rw [same]
      obtain ⟨latch, left⟩ := held session ⟨session.machine.latch, rfl⟩
      rw [Command.perform, leaves_reply, left]
      exact .held key pressed latch
  | step =>
      rw [Command.perform, leaves_reply]
      exact move_step session
  | tick _ | frame _ _ | run _ _ _ => cases elementary

end Chip8
