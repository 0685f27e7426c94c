import Chip8.Proofs.Keypad

/-!
# One synchronisation, exactly

A synchronisation walks through the keys and overwrites the keypad that it compares them with, and the
key that ends a suspension ends it half way.  None of this can be seen from outside: the keypad becomes
what latch and report say, keys that were up before and are down afterwards are the ones that went down,
and of these the smallest is the answer, if anybody waits.

* `State.Rises` — a key goes down between two states.
* `Machine.Synchronised` — what a synchronisation makes of a machine, and what it answers.
* `Latch.raises_iff_rises`, `State.synced_answered`, `State.synced_unanswered` — what the walk found, in
  terms of the two keypads.
* **`synchronises_exactly`** — every synchronisation whose report is in order does just that.
-/

namespace Chip8

/-! ## What is said of a synchronisation -/

/-- A key that was up is down. -/
def State.Rises (before after : State) (key : Key) : Prop :=
  before.keypad[key.1]? = some false ∧ after.keypad[key.1]? = some true

/-- What a synchronisation makes of a machine, and its answer. -/
structure Machine.Synchronised (before : Machine) (keys : Option HostReport) (answer : Option Key)
    (after : Machine) : Prop where
  /-- The host's keys are as reported now, or as reported before. -/
  physical : ∀ key, after.latch.physical.get key =
    (keys.bind (·.tells? key)).getD (before.latch.physical.get key)
  virtual : after.latch.virtual = before.latch.virtual
  keypad_size : after.state.keypad.size = keyCount
  keypad : ∀ key : Key, after.state.keypad[key.1]? =
    some (after.latch.physical.get key || after.latch.virtual.get key)
  /-- Of the keys that go down the smallest is given to the register that waits for one. -/
  answered : ∀ register, before.state.mode = .awaitingKey register →
    (∃ key, before.state.Rises after.state key) →
      ∃ key, before.state.Rises after.state key ∧
        (∀ smaller < key, ¬ before.state.Rises after.state smaller) ∧ answer = some key ∧
        after.state.registers[register.toNat]? = some (key.1 : Int) ∧
        after.state = { before.state with
          keypad := after.state.keypad
          registers := before.state.registers.setIfInBounds register.toNat key.1
          mode := .running
          pc := before.state.pc + 2 }
  /-- If no key goes down, or nobody waits, there is nothing but the keypad. -/
  unanswered : before.state.mode = .running ∨ (∀ key, ¬ before.state.Rises after.state key) →
    answer = none ∧ after.state = { before.state with keypad := after.state.keypad }
  rest : after = { before with latch := after.latch, state := after.state }

/-! ## What the walk through the keys found -/

section

variable {state : State} {latch : Latch} {key : Key}

/-- **The keys that go down** can be read off the keypads before and after. -/
lemma Latch.raises_iff_rises :
    latch.raises state.keypad key = true ↔ state.Rises (state.synced latch) key := by
  rw [Latch.raises_iff, State.Rises, State.synced_keypad, Latch.getElem?_merged, Option.some_inj]
  exact and_comm

lemma Latch.raises_eq_false_iff :
    latch.raises state.keypad key = false ↔ ¬ state.Rises (state.synced latch) key := by
  rw [← Latch.raises_iff_rises, Bool.not_eq_true]

namespace State

/-- Somebody waits and a key goes down: the smallest that does is found. -/
lemma synced_answered {register : Int} (waiting : state.mode = .awaitingKey register)
    (rises : ∃ key, state.Rises (state.synced latch) key) :
    ∃ key, state.Rises (state.synced latch) key ∧
      (∀ smaller < key, ¬ state.Rises (state.synced latch) smaller) ∧
      state.resolution? latch = some (key, register) ∧
      state.synced latch = { state with
        keypad := (state.synced latch).keypad
        registers := state.registers.setIfInBounds register.toNat key.1
        mode := .running
        pc := state.pc + 2 } := by
  cases resolution : state.resolution? latch with
  | none =>
      obtain ⟨key, goes⟩ := rises
      obtain running | still := resolution?_eq_none.1 resolution
      · rw [waiting] at running
        cases running
      · exact absurd goes (Latch.raises_eq_false_iff.1 (still key))
  | some found =>
      obtain ⟨key, other⟩ := found
      obtain ⟨same, goes, first⟩ := resolution?_eq_some.1 resolution
      obtain rfl : register = other := Mode.awaitingKey.inj (waiting.symm.trans same)
      refine ⟨key, Latch.raises_iff_rises.1 goes,
        fun smaller less => Latch.raises_eq_false_iff.1 (first smaller less), rfl, ?_⟩
      rw [synced_keypad, synced, resolution]
      exact resolved_key _ register key

/-- Nobody waits, or no key goes down. -/
lemma synced_unanswered
    (quiet : state.mode = .running ∨ ∀ key, ¬ state.Rises (state.synced latch) key) :
    state.resolution? latch = none ∧
      state.synced latch = { state with keypad := (state.synced latch).keypad } := by
  have unresolved : state.resolution? latch = none :=
    resolution?_eq_none.2 (quiet.imp_right fun still key => Latch.raises_eq_false_iff.2 (still key))
  refine ⟨unresolved, ?_⟩
  rw [synced_keypad, synced, unresolved]
  rfl

end State

end

/-! ## Every synchronisation -/

/-- **One synchronisation, exactly.**  If the keypad has its sixteen entries, and the register that a
suspended machine waits with exists, a report that is in order, or none, is always taken.  Afterwards
the keypad shows every key that the host or the virtual pad holds.  If the machine waited for a key and
at least one has gone down, the smallest of these is the answer and is stored in the register, and the
machine runs again, one instruction further; otherwise there is no answer, and registers, program
counter and mode are as they were.  Nothing else in the machine has changed in either case. -/
theorem synchronises_exactly {session : Session}
    (size : session.machine.state.keypad.size = keyCount)
    (named : ∀ register, session.machine.state.mode = .awaitingKey register →
      (0 ≤ register ∧ register < registerCount) ∧
        register.toNat < session.machine.state.registers.size)
    {keys : Option HostReport} (accepted : ∀ report ∈ keys, report.Accepted) :
    ∃ answer left, (Machine.syncKeys keys).run session = .ok answer left ∧
      session.machine.Synchronised keys answer left.machine := by
  obtain ⟨latch, taken⟩ := session.machine.latch.take_accepted accepted
  have told := Latch.take_ok taken
  refine ⟨_, _, Machine.syncKeys_run taken size named, ?_⟩
  rw [Session.synced_machine]
  have keypad : (session.machine.state.synced latch).keypad = latch.merged := State.synced_keypad
  constructor
  case physical =>
      intro key
      rw [told]
      exact Vector.getElem_ofFn key.2
  case virtual => rw [told]
  case keypad_size => exact (congrArg Array.size keypad).trans Array.size_ofFn
  case keypad =>
      intro key
      dsimp only
      rw [keypad, Latch.getElem?_merged]
      rfl
  case answered =>
      intro register waiting rises
      obtain ⟨key, goes, first, found, outcome⟩ := State.synced_answered waiting rises
      refine ⟨key, goes, first, congrArg (Option.map (·.1)) found, ?_, outcome⟩
      dsimp only
      rw [outcome]
      exact Array.getElem?_setIfInBounds_self_of_lt (named register waiting).2
  case unanswered =>
      intro quiet
      obtain ⟨unresolved, outcome⟩ := State.synced_unanswered quiet
      exact ⟨congrArg (Option.map (·.1)) unresolved, outcome⟩
  case rest => rfl

/-- A machine waits with `VA` while keys 3 and 7 are down already, 3 on the virtual pad and 7 at the host.
Now the host lets go of 7 and reports 12 and 5, and 9 has been pressed on the virtual pad. -/
theorem synchronises_exactly_merged :
    ∃ session left : Session, session.machine.state.mode = .awaitingKey 0xA ∧
      (Machine.syncKeys (some (.changes [(12, true), (7, false), (5, true)]))).run session =
        .ok (some 5) left ∧
      left.machine.state.registers[0xA]? = some 5 ∧ left.machine.state.mode = .running ∧
      left.machine.state.pc = session.machine.state.pc + 2 ∧
      left.machine.state.keypad[3]? = some true ∧ left.machine.state.keypad[7]? = some false ∧
      left.machine.state.keypad[9]? = some true := by
  let session : Session :=
    { machine := { Machine.ofSettings { random := .sequence (fun _ => 0) 0 } 0 .standard with
        latch :=
          { physical := KeyVector.released.set 7 true
            virtual := (KeyVector.released.set 3 true).set 9 true }
        state :=
          { mode := .awaitingKey 0xA
            keypad := ((Array.replicate keyCount false).set! 3 true).set! 7 true } } }
  let report : HostReport := .changes [(12, true), (7, false), (5, true)]
  have accepted : ∀ other ∈ some report, other.Accepted := by
    rintro _ ⟨⟩
    unfold report HostReport.Accepted
    decide
  have size : session.machine.state.keypad.size = keyCount := rfl
  have named : ∀ register, session.machine.state.mode = .awaitingKey register →
      (0 ≤ register ∧ register < registerCount) ∧
        register.toNat < session.machine.state.registers.size := by
    rintro register ⟨⟩
    decide
  let held (key : Key) : Bool :=
    (report.tells? key).getD (session.machine.latch.physical.get key) ||
      session.machine.latch.virtual.get key
  have fifth : ∀ key : Key,
      session.machine.state.keypad[key.1]? = some false → held key = true → 5 ≤ key := by
    unfold held session report
    decide +kernel
  obtain ⟨answer, left, run, synced⟩ := synchronises_exactly size named accepted
  have down (key : Key) : left.machine.state.keypad[key.1]? = some (held key) := by
    rw [synced.keypad, synced.physical, synced.virtual]
    rfl
  have rises : session.machine.state.Rises left.machine.state 5 := ⟨rfl, down 5⟩
  obtain ⟨key, goes, first, rfl, stored, outcome⟩ := synced.answered 0xA rfl ⟨5, rises⟩
  have last : key ≤ 5 := not_lt.1 fun less => first 5 less rises
  have least : 5 ≤ key := fifth key goes.1 (Option.some.inj ((down key).symm.trans goes.2))
  obtain rfl : key = 5 := le_antisymm last least
  refine ⟨session, left, rfl, run, stored, ?_, ?_, down 3, down 7, down 9⟩
  · rw [outcome]
  · rw [outcome]

end Chip8
