import Chip8.Proofs.Run
import Chip8.Proofs.Sync
import Mathlib.Data.List.Induction

/-!
# Waiting for a key

A suspended machine waits for a key to go *down*.  A key that was held when the wait began does not
count until it has been released and the keypad has been told, however often the host synchronises in
between, and of two keys that go down together the smaller one is taken.  Up to that moment nothing
happens but clock ticks.

* `Session.sees` — a synchronisation sees a key go down.
* `Machine.Waits` — what can change while a machine waits; `waits_perform` — nothing else does.
* `syncKeys_seen` — the synchronisation that ends the wait.
* **`wait_until_edge`** — the whole wait, whatever operations it is made of.
-/

namespace Chip8

/-- A synchronisation sees a key go down: with the report taken it is held, physically or virtually,
and on the keypad it is still up. -/
def Session.sees (session : Session) (keys : Option HostReport) (key : Key) : Bool :=
  match session.machine.latch.take keys with
  | .ok latch => latch.raises session.machine.state.keypad key
  | .error _ => false

lemma Session.sees_of_take {session : Session} {keys : Option HostReport} {latch : Latch}
    (taken : session.machine.latch.take keys = .ok latch) (key : Key) :
    session.sees keys key = latch.raises session.machine.state.keypad key := by
  rw [sees, taken]

/-! ## What can change meanwhile -/

/-- The clock, the latch, the timers and the keypad may have changed. -/
def Machine.Waits (machine after : Machine) : Prop :=
  ∃ (ticks : Nat) (latch : Latch) (delayTimer soundTimer : Int) (keypad : Array Bool),
    keypad.size = machine.state.keypad.size ∧
      after = { machine with
        ticks, latch
        state := { machine.state with delayTimer, soundTimer, keypad } }

lemma Machine.Waits.refl (machine : Machine) : Waits machine machine := ⟨_, _, _, _, _, rfl, rfl⟩

section

variable {machine : Machine} {session : Session} {register : Int} (shaped : machine.state.Shaped)
  (waiting : machine.state.mode = .awaitingKey register)
  (named : 0 ≤ register ∧ register < registerCount)
include shaped waiting named

/-- While a machine waits, its synchronisations are known exactly. -/
lemma sync_of_waits (waits : Machine.Waits machine session.machine) {keys : Option HostReport}
    {latch : Latch} (taken : session.machine.latch.take keys = .ok latch) :
    (Machine.syncKeys keys).run session =
      .ok ((session.machine.state.resolution? latch).map (·.1)) (session.synced keys latch) := by
  obtain ⟨_, _, _, _, keypad, size, same⟩ := waits
  refine Machine.syncKeys_run taken ?_ fun other still => ?_
  · rw [same]
    exact size.trans shaped.keypad_size
  · have mode : session.machine.state.mode = .awaitingKey register := by rw [same]; exact waiting
    rw [mode] at still
    cases still
    refine ⟨named, ?_⟩
    rw [same, shaped.registers_size]
    omega

/-- As long as no key is seen to go down, the machine waits on. -/
lemma waits_perform (waits : Machine.Waits machine session.machine) {command : Command}
    (elementary : command.isElementary = true) (kept : command ≠ .reset)
    (quiet : command.isLoad = false)
    (unseen : ∀ keys, command = .syncKeys keys → ∀ key, session.sees keys key = false) :
    Machine.Waits machine (session.after command.perform).machine := by
  have sync {keys : Option HostReport} {latch : Latch}
      (taken : session.machine.latch.take keys = .ok latch) :=
    sync_of_waits shaped waiting named waits taken
  have moved := Session.move_after elementary session
  obtain ⟨ticks, latch, delayTimer, soundTimer, keypad, size, same⟩ := waits
  cases command with
  | advanceTimers =>
      generalize (session.after (Command.perform .advanceTimers)).machine = after at moved
      rw [same] at moved
      cases moved with
      | stored loads => cases loads
      | clocked => exact ⟨_, _, _, _, keypad, size, rfl⟩
  | holdKey key pressed =>
      generalize (session.after (Command.perform (.holdKey key pressed))).machine = after at moved
      rw [same] at moved
      cases moved with
      | stored loads => cases loads
      | held => exact ⟨_, _, _, _, keypad, size, rfl⟩
  | step =>
      have idle : session.after (Command.perform .step) = session := by
        have step := Machine.step_run_waiting (show session.machine.state.mode.isWaiting = true by
          rw [same, waiting, Mode.isWaiting])
        rw [Session.after_step, Session.after_of_ok step]
      rw [idle]
      exact ⟨_, _, _, _, keypad, size, same⟩
  | syncKeys keys =>
      cases taken : session.machine.latch.take keys with
      | error error =>
          have refused : session.after (Command.perform (.syncKeys keys)) = session := by
            rw [Session.after_syncKeys, Session.after_of_error (Machine.syncKeys_run_refused taken)]
          rw [refused]
          exact ⟨_, _, _, _, keypad, size, same⟩
      | ok latch =>
          have unresolved : session.machine.state.resolution? latch = none := by
            refine State.resolution?_eq_none.2 (.inr fun key => ?_)
            rw [← Session.sees_of_take taken]
            exact unseen keys rfl key
          have noted : session.after (Command.perform (.syncKeys keys)) =
              session.synced keys latch := by
            rw [Session.after_syncKeys, Session.after_of_ok (sync taken)]
          rw [noted, Session.synced_machine, State.synced, unresolved, same]
          exact ⟨_, _, _, _, latch.merged, Array.size_ofFn.trans shaped.keypad_size.symm, rfl⟩
  | reset => exact absurd rfl kept
  | load _ | loadFile _ | loadFont _ => cases quiet
  | tick _ | frame _ _ | run _ _ _ => cases elementary

/-- The same for whole sequences, by induction on the operations that have passed. -/
lemma waits_performAll {passed : List Command} (waits : Machine.Waits machine session.machine)
    (elementary : ∀ stage ∈ passed, stage.isElementary = true) (kept : .reset ∉ passed)
    (quiet : ∀ stage ∈ passed, stage.isLoad = false)
    (unseen : ∀ earlier keys, earlier ++ [.syncKeys keys] <+: passed →
      ∀ key, (session.performAll earlier).sees keys key = false) :
    Machine.Waits machine (session.performAll passed).machine := by
  induction passed using List.reverseRecOn with
  | nil => exact waits
  | append_singleton earlier stage ih =>
      have last : stage ∈ earlier ++ [stage] := by simp
      have before := ih (fun other member => elementary other (by simp [member]))
        (fun member => kept (by simp [member])) (fun other member => quiet other (by simp [member]))
        fun first keys start => unseen first keys (start.trans (List.prefix_append _ _))
      rw [Session.performAll_append]
      refine waits_perform shaped waiting named before (elementary stage last)
        (fun reset => kept (reset ▸ last)) (quiet stage last) ?_
      rintro keys rfl
      exact unseen earlier keys (List.prefix_refl _)

/-- **The synchronisation that ends a wait** stores the smallest key that it sees go down. -/
lemma sync_seen (waits : Machine.Waits machine session.machine) {keys : Option HostReport} {key : Key}
    (seen : session.sees keys key = true)
    (first : ∀ smaller < key, session.sees keys smaller = false) :
    ∃ latch left, (Machine.syncKeys keys).run session = .ok (some key) left ∧
      left.machine = { session.machine with
        latch
        state := { session.machine.state with keypad := latch.merged }.resolved register key.1 } := by
  cases taken : session.machine.latch.take keys with
  | error error =>
      rw [Session.sees, taken] at seen
      cases seen
  | ok latch =>
      have sync := sync_of_waits shaped waiting named waits taken
      obtain ⟨_, _, _, _, _, -, same⟩ := waits
      have resolution : session.machine.state.resolution? latch = some (key, register) := by
        simp only [Session.sees_of_take taken] at seen first
        exact State.resolution?_eq_some.2 ⟨by rw [same]; exact waiting, seen, first⟩
      refine ⟨latch, session.synced keys latch, ?_, ?_⟩
      · rw [sync, resolution]
        rfl
      · rw [Session.synced_machine, State.synced, resolution]
        rfl

end

/-- **A wait for a key, from beginning to end.**  Up to the first synchronisation that sees a key go
down, steps have no entry and only the clock, the latch, the timers and the keypad can have changed.
That synchronisation stores the smallest key it sees in the register that waits for it, and the machine
resumes behind the waiting instruction; no instruction has run in between. -/
theorem wait_until_edge {session : Session} (shaped : session.machine.state.Shaped) {register : Int}
    (waiting : session.machine.state.mode = .awaitingKey register)
    (named : 0 ≤ register ∧ register < registerCount) {commands passed : List Command}
    (calm : ∀ command ∈ commands, command ≠ .reset ∧ command.isLoad = false)
    (moment : passed <+: session.unrolled commands)
    (unseen : ∀ earlier keys, earlier ++ [.syncKeys keys] <+: passed →
      ∀ key, (session.performAll earlier).sees keys key = false) :
    let here := session.performAll passed
    Machine.step.run here = .ok none here ∧
      here.machine = { session.machine with
        ticks := here.machine.ticks
        latch := here.machine.latch
        state := { session.machine.state with
          delayTimer := here.machine.state.delayTimer
          soundTimer := here.machine.state.soundTimer
          keypad := here.machine.state.keypad } } ∧
      ∀ keys key, here.sees keys key = true → (∀ smaller < key, here.sees keys smaller = false) →
        ∃ left, (Machine.syncKeys keys).run here = .ok (some key) left ∧
          left.machine = { here.machine with
            latch := left.machine.latch
            state := { here.machine.state with
              keypad := left.machine.state.keypad
              registers := session.machine.state.registers.setIfInBounds register.toNat key.1
              pc := session.machine.state.pc + 2
              mode := .running } } ∧
          left.machine.state.registers[register.toNat]? = some (key.1 : Int) := by
  intro here
  have stages (stage : Command) (member : stage ∈ passed) :
      ∃ command ∈ commands, stage ∈ command.stages := Session.mem_unrolled (moment.subset member)
  have kept : .reset ∉ passed := by
    intro member
    obtain ⟨command, among, inside⟩ := stages _ member
    exact (calm command among).1 (Command.eq_reset_of_mem inside)
  have quiet (stage : Command) (member : stage ∈ passed) : stage.isLoad = false := by
    obtain ⟨command, among, inside⟩ := stages stage member
    refine Bool.eq_false_iff.2 fun loads => ?_
    have load := Command.isLoad_of_mem inside loads
    rw [(calm command among).2] at load
    cases load
  have waits : Machine.Waits session.machine here.machine :=
    waits_performAll shaped waiting named (.refl _)
      (fun stage member => Session.isElementary_of_mem_unrolled (moment.subset member)) kept quiet
      unseen
  have ends (keys : Option HostReport) (key : Key) (seen : here.sees keys key = true)
      (first : ∀ smaller < key, here.sees keys smaller = false) :=
    sync_seen shaped waiting named waits seen first
  obtain ⟨ticks, latch, delayTimer, soundTimer, keypad, -, same⟩ := waits
  refine ⟨Machine.step_run_waiting (by rw [same, waiting, Mode.isWaiting]), by rw [same],
    fun keys key seen first => ?_⟩
  obtain ⟨taken, left, run, outcome⟩ := ends keys key seen first
  have byte : (key.1 : Int) % 256 = key.1 := by
    have := key.2
    unfold keyCount at this
    omega
  refine ⟨left, run, ?_, ?_⟩
  · rw [outcome, same, State.resolved, byte]
  · rw [outcome, same, State.resolved, byte]
    exact Array.getElem?_setIfInBounds_self_of_lt (by rw [shaped.registers_size]; omega)

/-- Key 3 is held from the start and does not count; then 9 and 5 go down together. -/
theorem wait_until_edge_held :
    ∃ session left : Session, session.machine.state.mode = .awaitingKey 0xA ∧
      session.machine.latch.pressed 3 = true ∧
      (Machine.syncKeys (some (.changes [(9, true), (5, true)]))).run
        (session.performAll [.syncKeys none, .step]) = .ok (some 5) left ∧
      left.machine.state.registers[0xA]? = some 5 := by
  let session : Session :=
    { machine := { Machine.ofSettings { random := .sequence (fun _ => 0) 0 } 0 .standard with
        latch := { virtual := KeyVector.released.set 3 true }
        state := { mode := .awaitingKey 0xA, keypad := (Array.replicate keyCount false).set! 3 true } } }
  have shaped : session.machine.state.Shaped := ⟨Array.size_replicate, rfl, rfl⟩
  have unseen : ∀ earlier keys, earlier ++ [.syncKeys keys] <+: [.syncKeys none, .step] →
      ∀ key, (session.performAll earlier).sees keys key = false := by
    rintro earlier keys ⟨rest, split⟩
    obtain _ | ⟨first, _ | ⟨second, more⟩⟩ := earlier
    · cases split
      unfold session
      decide +kernel
    · simp at split
    · simp at split
  have seen : (session.performAll [.syncKeys none, .step]).sees
      (some (.changes [(9, true), (5, true)])) 5 = true := by
    unfold session
    decide +kernel
  have first : ∀ smaller < (5 : Key), (session.performAll [.syncKeys none, .step]).sees
      (some (.changes [(9, true), (5, true)])) smaller = false := by
    unfold session
    decide +kernel
  have calm : ∀ command ∈ [Command.syncKeys none, .step],
      command ≠ .reset ∧ command.isLoad = false := by decide
  have moment : [.syncKeys none, .step] <+: session.unrolled [.syncKeys none, .step] := by
    unfold session
    decide +kernel
  obtain ⟨-, -, ends⟩ := wait_until_edge shaped rfl (by decide) calm moment unseen
  obtain ⟨left, run, -, stored⟩ := ends _ 5 seen first
  exact ⟨session, left, rfl, rfl, run, stored⟩

end Chip8
