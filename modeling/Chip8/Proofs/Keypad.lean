import Chip8.Proofs.Returns
import Mathlib.Data.List.Induction

/-!
# The keypad as the operations tell it

A key is held if the host's keyboard or the virtual pad says so, and either says what it said last.  A
report may name all keys or some, an empty report names none, and a report that is refused has said
nothing, however much of it was right.  The keypad follows at synchronisations and at no other time.

* `latest?` — the last answer in a sequence.
* `HostReport.tells?` — what a report says about a key; `Latch.take_ok`, `Latch.hold_ok` — the latch
  afterwards, key by key.
* `Session.accepted` — the operations since the last reset that were not refused.
* `Latched`, `Latched.perform` — the latch remembers what these operations said last.
* `keypad_of_move` — nothing but synchronisations and resets touches the keypad.
* **`keypad_reflects_reports`** — the keypad at every moment of every run.
-/

namespace Chip8

/-! ## The last answer -/

section

variable {α β : Type}

/-- The last answer that a sequence of values gives, if one of them gives any. -/
def latest? (answer : α → Option β) (values : List α) : Option β := (values.filterMap answer).getLast?

lemma latest?_concat (answer : α → Option β) (values : List α) (value : α) :
    latest? answer (values ++ [value]) = (answer value).or (latest? answer values) := by
  rw [latest?, latest?, List.filterMap_append, List.getLast?_append]
  congr 1
  cases given : answer value with
  | none => rw [List.filterMap_cons_none given, List.filterMap_nil, List.getLast?_nil]
  | some told => rw [List.filterMap_cons_some given, List.filterMap_nil, List.getLast?_singleton]

/-- A value without an answer does not count. -/
lemma latest?_concat_none {answer : α → Option β} {value : α} (silent : answer value = none)
    (values : List α) : latest? answer (values ++ [value]) = latest? answer values := by
  rw [latest?_concat, silent, Option.none_or]

end

/-! ## Reports and virtual keys -/

/-- What a change says about a key. -/
def changeOf? (key : Key) (entry : Int × Bool) : Option Bool :=
  if entry.1 = key.1 then some entry.2 else none

/-- What a report says about a key. -/
def HostReport.tells? (key : Key) : HostReport → Option Bool
  | .states pressed => pressed[key.1]?
  | .changes entries => latest? (changeOf? key) entries

lemma Key.ofInt_eq_ok {number : Int} {key : Key} (named : Key.ofInt number = .ok key) :
    number = key.1 := by
  rw [Key.ofInt] at named
  split at named
  · cases named
    exact (Int.toNat_of_nonneg (by omega)).symm
  · cases named

namespace Latch

variable {latch after : Latch}

/-- Changes that are in order name keys. -/
lemma eq_of_validChanges {entries : List (Int × Bool)} {changes : List (Key × Bool)}
    (valid : validChanges entries = .ok changes) :
    entries = changes.map fun change => ((change.1.1 : Int), change.2) := by
  induction entries generalizing changes with
  | nil =>
      cases valid
      rfl
  | cons entry rest ih =>
      obtain ⟨number, pressed⟩ := entry
      rw [validChanges] at valid
      cases named : Key.ofInt number with
      | error error =>
          rw [named] at valid
          cases valid
      | ok key =>
          cases later : validChanges rest with
          | error error =>
              rw [named, later] at valid
              cases valid
          | ok others =>
              rw [named, later] at valid
              cases valid
              rw [List.map_cons, ← ih later, Key.ofInt_eq_ok named]

/-- After some changes a key is as the last of them says, or as it was. -/
lemma getElem_changed (changes : List (Key × Bool)) (keys : KeyVector) {position : Nat}
    (inside : position < keyCount) :
    (changes.foldl (fun keys entry => keys.set entry.1.1 entry.2 entry.1.2) keys)[position] =
      (latest? (changeOf? ⟨position, inside⟩)
        (changes.map fun change => ((change.1.1 : Int), change.2))).getD keys[position] := by
  induction changes using List.reverseRecOn with
  | nil => rfl
  | append_singleton changes change ih =>
      rw [List.foldl_append, List.map_append, List.map_singleton, latest?_concat, changeOf?]
      change ((_ : KeyVector).set change.1.1 change.2 change.1.2)[position] = _
      rw [Vector.getElem_set]
      by_cases same : change.1.1 = position
      · simp [same]
      · have apart : ¬ (change.1.1 : Int) = position := fun equal => same (Int.ofNat.inj equal)
        rw [if_neg same, if_neg apart, Option.none_or, ← ih]

/-- **A report that is taken sets the keys that it names**, and no others. -/
theorem report_ok {report : HostReport} (taken : latch.report report = .ok after) :
    after = { latch with
      physical := .ofFn fun key => (report.tells? key).getD latch.physical[key] } := by
  cases report with
  | states pressed =>
      rw [Latch.report] at taken
      split at taken
      · next size =>
          cases taken
          refine congrArg (fun physical => { latch with physical }) ?_
          ext position inside
          have there : position < pressed.length := size ▸ inside
          simp [HostReport.tells?, there]
      · cases taken
  | changes entries =>
      rw [Latch.report] at taken
      cases valid : validChanges entries with
      | error error =>
          rw [valid] at taken
          cases taken
      | ok changes =>
          rw [valid] at taken
          cases taken
          refine congrArg (fun physical => { latch with physical }) ?_
          ext position inside
          rw [Vector.getElem_ofFn, HostReport.tells?, eq_of_validChanges valid]
          exact getElem_changed changes latch.physical inside

/-- Without a report no key is named. -/
theorem take_ok {keys : Option HostReport} (taken : latch.take keys = .ok after) :
    after = { latch with
      physical := .ofFn fun key => (keys.bind (·.tells? key)).getD latch.physical[key] } := by
  cases keys with
  | none =>
      obtain rfl : latch = after := Except.ok.inj taken
      have same : latch.physical = .ofFn fun key : Key => latch.physical[key] := by
        ext position inside
        rw [Vector.getElem_ofFn]
        rfl
      exact congrArg (fun physical => { latch with physical }) same
  | some report => exact report_ok taken

/-- The same for the virtual pad. -/
theorem hold_ok {number : Int} {pressed : Bool} (held : latch.hold number pressed = .ok after) :
    after = { latch with
      virtual := .ofFn fun key =>
        (changeOf? key (number, pressed)).getD latch.virtual[key] } := by
  rw [hold] at held
  cases named : Key.ofInt number with
  | error error =>
      rw [named] at held
      cases held
  | ok key =>
      rw [named] at held
      cases held
      refine congrArg (fun virtual => { latch with virtual }) ?_
      ext position inside
      rw [Vector.getElem_ofFn, changeOf?, Key.ofInt_eq_ok named, Vector.getElem_set]
      by_cases same : key.1 = position
      · simp [same]
      · have apart : ¬ (key.1 : Int) = position := fun equal => same (Int.ofNat.inj equal)
        simp [same, apart]

end Latch

/-! ## Operations -/

namespace Command

/-- Whether an operation is a synchronisation. -/
def isSync : Command → Bool
  | syncKeys _ => true
  | _ => false

/-- What an operation reports of a key. -/
def reports? (key : Key) : Command → Option Bool
  | syncKeys keys => keys.bind (·.tells? key)
  | _ => none

/-- What an operation makes of a key of the virtual pad. -/
def holds? (key : Key) : Command → Option Bool
  | holdKey number pressed => changeOf? key (number, pressed)
  | _ => none

end Command

namespace Session

/-- An operation is not refused. -/
def accepts (session : Session) (command : Command) : Bool :=
  match command.perform.run session with
  | .ok _ _ => true
  | .error _ _ => false

/-- The accepted operations since the last reset after one more elementary operation. -/
def acceptedAfter (session : Session) (earlier : List Command) : Command → List Command
  | .reset => []
  | command => if session.accepts command then earlier ++ [command] else earlier

/-- The elementary operations since the last reset that were not refused, in order. -/
def accepted (session : Session) (stages : List Command) : List Command :=
  session.collect acceptedAfter [] stages

variable {session : Session} {command : Command}

lemma accepts_of_ok {answer : Reply} {left : Session}
    (run : command.perform.run session = .ok answer left) : session.accepts command = true := by
  rw [accepts, run]

lemma accepts_of_error {error : Error} {left : Session}
    (run : command.perform.run session = .error error left) : session.accepts command = false := by
  rw [accepts, run]

lemma acceptedAfter_eq (earlier : List Command) (kept : command ≠ .reset) :
    session.acceptedAfter earlier command =
      if session.accepts command then earlier ++ [command] else earlier := by
  cases command with
  | reset => exact absurd rfl kept
  | _ => rfl

/-- An operation that says nothing of a key does not change what was said last. -/
lemma latest?_acceptedAfter {answer : Command → Option Bool} (earlier : List Command)
    (kept : command ≠ .reset) (silent : answer command = none) :
    latest? answer (session.acceptedAfter earlier command) = latest? answer earlier := by
  rw [acceptedAfter_eq earlier kept]
  split_ifs
  · exact latest?_concat_none silent earlier
  · rfl

end Session

section

variable {session : Session}

/-- A synchronisation that is carried out. -/
lemma perform_syncKeys_ok (complete : session.machine.Complete) {keys : Option HostReport}
    {latch : Latch} (taken : session.machine.latch.take keys = .ok latch) :
    ∃ answer, (Command.perform (.syncKeys keys)).run session = .ok answer (session.synced keys latch) := by
  rw [Command.perform, EStateM.run_bind, syncKeys_run_of_complete complete taken]
  exact ⟨_, rfl⟩

lemma perform_syncKeys_error {keys : Option HostReport} {error : Error}
    (refused : session.machine.latch.take keys = .error error) :
    (Command.perform (.syncKeys keys)).run session = .error error session := by
  rw [Command.perform, EStateM.run_bind, Machine.syncKeys_run_refused refused]

/-- A virtual key that is pressed or released. -/
lemma perform_holdKey_ok {number : Int} {pressed : Bool} {latch : Latch}
    (held : session.machine.latch.hold number pressed = .ok latch) :
    (Command.perform (.holdKey number pressed)).run session =
      .ok .nothing (Session.logged { session with machine := { session.machine with latch } }
        (.held number pressed)) := by
  simp only [Command.perform, Machine.holdKey, EStateM.run_bind, Machine.look_run, held,
    Machine.accept_run_ok, Machine.change_run, Machine.emit_run]
  rfl

lemma perform_holdKey_error {number : Int} {pressed : Bool} {error : Error}
    (refused : session.machine.latch.hold number pressed = .error error) :
    (Command.perform (.holdKey number pressed)).run session = .error error session := by
  simp only [Command.perform, Machine.holdKey, EStateM.run_bind, Machine.look_run, refused,
    Machine.accept_run_error]

end

section

variable {before after : Machine} {command : Command}

/-- **Synchronisations and resets alone touch the keypad.** -/
theorem keypad_of_move (move : Move before command after) (kept : command ≠ .reset)
    (other : command.isSync = false) : after.state.keypad = before.state.keypad := by
  cases move with
  | stored | clocked | held | idled => rfl
  | cleared => exact absurd rfl kept
  | sensed | resolved => cases other
  | executed =>
      exact before.instructions.preserves_execute
        (State.blind_view fun _ kept => kept = before.state.keypad)
        (fun _ _ _ same => same) _ _ _ rfl

/-- The latch is for synchronisations, resets and the virtual pad. -/
lemma latch_of_move (move : Move before command after) (kept : command ≠ .reset)
    (other : command.isSync = false) (apart : ∀ number pressed, command ≠ .holdKey number pressed) :
    after.latch = before.latch := by
  cases move with
  | stored | clocked | idled | executed => rfl
  | cleared => exact absurd rfl kept
  | sensed | resolved => cases other
  | held number pressed => exact absurd rfl (apart number pressed)

end

/-! ## What the latch remembers -/

/-- The latch holds what the accepted operations since the last reset said last of each key. -/
structure Latched (session : Session) (history : List Command) : Prop where
  complete : session.machine.Complete
  physical : session.machine.latch.physical =
    .ofFn fun key => (latest? (Command.reports? key) history).getD false
  virtual : session.machine.latch.virtual =
    .ofFn fun key => (latest? (Command.holds? key) history).getD false

namespace Latched

variable {session left : Session} {history : List Command}

/-- A released latch and no operations. -/
lemma start (complete : session.machine.Complete) (released : session.machine.latch = {}) :
    Latched session [] := by
  have up : KeyVector.released = .ofFn fun _ => false := by
    ext position inside
    rw [Vector.getElem_ofFn]
    exact Vector.getElem_replicate inside
  refine ⟨complete, ?_, ?_⟩ <;> rw [released] <;> exact up

lemma pressed (latched : Latched session history) (key : Key) :
    session.machine.latch.pressed key =
      ((latest? (Command.reports? key) history).getD false ||
        (latest? (Command.holds? key) history).getD false) := by
  rw [Latch.pressed, latched.physical, latched.virtual]
  exact congrArg₂ or (Vector.getElem_ofFn _) (Vector.getElem_ofFn _)

/-- What leaves the latch alone and says nothing of keys adds nothing. -/
lemma aside (latched : Latched session history) {command : Command} (kept : command ≠ .reset)
    (silent : ∀ key, command.reports? key = none ∧ command.holds? key = none)
    (complete : left.machine.Complete) (same : left.machine.latch = session.machine.latch) :
    Latched left (session.acceptedAfter history command) where
  complete
  physical := by
    rw [same, latched.physical]
    refine congrArg Vector.ofFn (funext fun key => ?_)
    rw [Session.latest?_acceptedAfter history kept (silent key).1]
  virtual := by
    rw [same, latched.virtual]
    refine congrArg Vector.ofFn (funext fun key => ?_)
    rw [Session.latest?_acceptedAfter history kept (silent key).2]

/-- A report that is taken is remembered. -/
lemma sync (latched : Latched session history) {keys : Option HostReport}
    (complete : left.machine.Complete)
    (taken : session.machine.latch.take keys = .ok left.machine.latch) :
    Latched left (history ++ [.syncKeys keys]) := by
  have after := Latch.take_ok taken
  refine ⟨complete, ?_, ?_⟩
  · rw [after]
    refine congrArg Vector.ofFn (funext fun key => ?_)
    rw [latest?_concat, Command.reports?, Option.getD_or, latched.physical, Fin.getElem_fin,
      Vector.getElem_ofFn]
  · rw [after, latched.virtual]
    refine congrArg Vector.ofFn (funext fun key => ?_)
    rw [latest?_concat_none rfl]

/-- So is what happens on the virtual pad. -/
lemma hold (latched : Latched session history) {number : Int} {pressed : Bool}
    (complete : left.machine.Complete)
    (held : session.machine.latch.hold number pressed = .ok left.machine.latch) :
    Latched left (history ++ [.holdKey number pressed]) := by
  have after := Latch.hold_ok held
  refine ⟨complete, ?_, ?_⟩
  · rw [after, latched.physical]
    refine congrArg Vector.ofFn (funext fun key => ?_)
    rw [latest?_concat_none rfl]
  · rw [after]
    refine congrArg Vector.ofFn (funext fun key => ?_)
    rw [latest?_concat, Command.holds?, Option.getD_or, latched.virtual, Fin.getElem_fin,
      Vector.getElem_ofFn]

/-- **Every elementary operation is remembered** for what it says, unless it is refused. -/
theorem perform (latched : Latched session history) {command : Command}
    (elementary : command.isElementary = true) :
    Latched (session.after command.perform) (session.acceptedAfter history command) := by
  have moved := Session.move_after elementary session
  have complete := complete_invariant command _ _ latched.complete moved
  cases command with
  | reset => exact .start complete rfl
  | syncKeys keys =>
      change Latched _ (if session.accepts (.syncKeys keys) then _ else _)
      cases taken : session.machine.latch.take keys with
      | error error =>
          have refused := perform_syncKeys_error taken
          rw [Session.accepts_of_error refused, Session.after_of_error refused]
          exact latched
      | ok latch =>
          obtain ⟨answer, synced⟩ := perform_syncKeys_ok latched.complete taken
          rw [Session.after_of_ok synced] at complete ⊢
          rw [Session.accepts_of_ok synced, if_pos rfl]
          exact latched.sync complete (by rw [Session.synced_machine]; exact taken)
  | holdKey number pressed =>
      change Latched _ (if session.accepts (.holdKey number pressed) then _ else _)
      cases held : session.machine.latch.hold number pressed with
      | error error =>
          have refused := perform_holdKey_error held
          rw [Session.accepts_of_error refused, Session.after_of_error refused]
          exact latched
      | ok latch =>
          have run := perform_holdKey_ok held
          rw [Session.after_of_ok run] at complete ⊢
          rw [Session.accepts_of_ok run, if_pos rfl]
          exact latched.hold complete held
  | step | advanceTimers | load _ | loadFile _ | loadFont _ =>
      exact latched.aside nofun (fun _ => ⟨rfl, rfl⟩) complete (latch_of_move moved nofun rfl nofun)
  | tick _ | frame _ _ | run _ _ _ => cases elementary

end Latched

/-! ## Synchronisations -/

section

variable {session : Session} {stage : Command}

/-- After a synchronisation that was not refused the keypad is that of the latch. -/
lemma keypad_of_synced (complete : session.machine.Complete)
    (synced : (stage.isSync && session.accepts stage) = true) (key : Key) :
    (session.after stage.perform).machine.state.keypad[key.1]? =
      some ((session.after stage.perform).machine.latch.pressed key) := by
  obtain ⟨sync, accepts⟩ := (Bool.and_eq_true _ _).mp synced
  cases stage with
  | syncKeys keys =>
      cases taken : session.machine.latch.take keys with
      | error error =>
          rw [Session.accepts_of_error (perform_syncKeys_error taken)] at accepts
          cases accepts
      | ok latch =>
          obtain ⟨answer, run⟩ := perform_syncKeys_ok complete taken
          rw [Session.after_of_ok run, Session.synced_machine]
          dsimp only
          rw [State.synced_keypad, Latch.getElem?_merged]
  | _ => cases sync

/-- Without one the keypad is as it was, unless there is a reset. -/
lemma keypad_of_not_synced (complete : session.machine.Complete)
    (elementary : stage.isElementary = true) (kept : stage ≠ .reset)
    (quiet : (stage.isSync && session.accepts stage) = false) :
    (session.after stage.perform).machine.state.keypad = session.machine.state.keypad := by
  cases sync : stage.isSync with
  | false =>
      have moved := Session.move_after elementary session
      exact keypad_of_move moved kept sync
  | true =>
      rw [sync, Bool.true_and] at quiet
      cases stage with
      | syncKeys keys =>
          cases taken : session.machine.latch.take keys with
          | error error => rw [Session.after_of_error (perform_syncKeys_error taken)]
          | ok latch =>
              obtain ⟨answer, run⟩ := perform_syncKeys_ok complete taken
              rw [Session.accepts_of_ok run] at quiet
              cases quiet
      | _ => cases sync

end

/-! ## Runs -/

/-- **The keypad reflects the latest reports**, at every moment of every run of a created machine.  After
a synchronisation that was not refused, be it one of its own or part of a tick, a frame or a run, a key
is pressed if the last report that mentioned it says so, or the last operation on the virtual pad that
named it; only operations since the last reset count, and of those only the ones that were not refused.
Between such synchronisations nothing but a reset changes the keypad. -/
theorem keypad_reflects_reports {settings : Settings} {machine : Machine}
    (created : Machine.create settings = .ok machine) {commands earlier : List Command}
    {stage : Command} (moment : earlier ++ [stage] <+: ({ machine } : Session).unrolled commands) :
    let session : Session := { machine }
    let before := session.performAll earlier
    let after := session.performAll (earlier ++ [stage])
    let history := session.accepted (earlier ++ [stage])
    let synced := stage.isSync && before.accepts stage
    (synced = true → ∀ key : Key, after.machine.state.keypad[key.1]? =
      some ((latest? (Command.reports? key) history).getD false ||
        (latest? (Command.holds? key) history).getD false)) ∧
    (synced = false → stage ≠ .reset →
      after.machine.state.keypad = before.machine.state.keypad) := by
  intro session before after history synced
  have released : session.machine.latch = {} := by
    obtain ⟨traceBound, font, -, -, same⟩ := Machine.create_eq_ok_iff.1 created
    exact congrArg (·.latch) same
  have elementary (other : Command) (member : other ∈ earlier ++ [stage]) :
      other.isElementary = true := Session.isElementary_of_mem_unrolled (moment.subset member)
  have latched {passed : List Command} (early : passed <+: earlier ++ [stage]) :
      Latched (session.performAll passed) (session.accepted passed) :=
    collect_keeps Latched
      (fun other member _ _ latched => latched.perform (elementary other (early.subset member)))
      (.start (Machine.create_sound created).complete released)
  have start : Latched before (session.accepted earlier) := latched (List.prefix_append _ _)
  have finish : Latched after history := latched (List.prefix_refl _)
  have next : after = before.after stage.perform := Session.performAll_append _ _
  refine ⟨fun sync key => ?_, fun quiet kept => ?_⟩
  · rw [← finish.pressed, next]
    exact keypad_of_synced start.complete sync key
  · rw [next]
    exact keypad_of_not_synced start.complete (elementary stage (by simp)) kept quiet

/-- Key 1 is reported and key 2 is pressed on the virtual pad; a report that is refused for a seventeenth
key releases neither. -/
theorem keypad_reflects_reports_refused :
    ∃ machine, Machine.create { random := .sequence (fun _ => 0) 0, glyphs := [] } = .ok machine ∧
      let earlier : List Command := [.syncKeys (some (.changes [(1, true)])), .holdKey 2 true,
        .syncKeys (some (.changes [(1, false), (16, true)]))]
      let keypad := (Session.performAll { machine } (earlier ++ [.syncKeys none])).machine.state.keypad
      keypad[1]? = some true ∧ keypad[2]? = some true ∧ keypad[0]? = some false := by
  let earlier : List Command := [.syncKeys (some (.changes [(1, true)])), .holdKey 2 true,
    .syncKeys (some (.changes [(1, false), (16, true)]))]
  obtain ⟨machine, created, accepts, history⟩ : ∃ machine,
      Machine.create { random := .sequence (fun _ => 0) 0, glyphs := [] } = .ok machine ∧
        (Session.performAll { machine } earlier).accepts (.syncKeys none) = true ∧
        Session.accepted { machine } (earlier ++ [.syncKeys none]) =
          [.syncKeys (some (.changes [(1, true)])), .holdKey 2 true, .syncKeys none] := by
    refine ⟨_, rfl, ?_⟩
    unfold earlier
    decide +kernel
  have moment : earlier ++ [.syncKeys none] <+:
      ({ machine } : Session).unrolled (earlier ++ [.syncKeys none]) :=
    ⟨[], by rw [List.append_nil, Session.unrolled_of_elementary (by decide)]⟩
  have keys := (keypad_reflects_reports created moment).1 accepts
  rw [history] at keys
  exact ⟨machine, created, keys 1, keys 2, keys 0⟩

end Chip8
