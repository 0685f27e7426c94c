import Chip8.Proofs.Move
import Mathlib.Data.Fin.Tuple.Basic

/-!
# What one synchronisation does

The keypad is brought up to date key by key, and a key that ends a suspension does so in the midst of
it.  Since no key is looked at twice, and since a machine that has resumed takes no further key, the
outcome can be said at once: the keypad becomes that of the latch, and a suspended machine takes the
first key that is held and was still up.

* `Latch.take`, `Latch.merged` — the latch after a report, and the keypad of a latch.
* `Latch.raises`, `State.resolution?` — the keys that go down, and what a suspended machine makes of
  them.
* `syncKeysFrom_quiet`, `syncKeysFrom_resolves` — the two ways through the keys.
* **`syncKeys_run`**, `syncKeys_run_refused` — the outcome.
-/

namespace Chip8

/-! ## Latches and keypads -/

namespace Latch

/-- The latch after a report, if there is one. -/
def take (latch : Latch) : Option HostReport → Except Error Latch
  | some report => latch.report report
  | none => .ok latch

/-- The keypad of a latch. -/
def merged (latch : Latch) : Array Bool := Array.ofFn latch.pressed

/-- A keypad after some keys have been brought up to date. -/
def onto (latch : Latch) (keypad : Array Bool) (keys : List Key) : Array Bool :=
  keys.foldl (fun keypad key => keypad.setIfInBounds key.1 (latch.pressed key)) keypad

/-- A key is held that is still up on the keypad. -/
def raises (latch : Latch) (keypad : Array Bool) (key : Key) : Bool :=
  latch.pressed key && keypad[key.1]? == some false

section

variable (latch : Latch) {keypad : Array Bool} {keys : List Key} {key : Key}

lemma getElem?_merged : latch.merged[key.1]? = some (latch.pressed key) := by simp [merged]

lemma raises_iff :
    latch.raises keypad key = true ↔ latch.pressed key = true ∧ keypad[key.1]? = some false := by
  simp [raises]

lemma raises_of_lt (inside : key.1 < keypad.size) :
    latch.raises keypad key = (latch.pressed key && !keypad[key.1]) := by
  rw [raises, Array.getElem?_eq_getElem inside]
  cases keypad[key.1] <;> rfl

lemma onto_append (first second : List Key) :
    latch.onto keypad (first ++ second) = latch.onto (latch.onto keypad first) second :=
  List.foldl_append

lemma size_onto : (latch.onto keypad keys).size = keypad.size := by
  induction keys generalizing keypad with
  | nil => rfl
  | cons key rest ih => exact ih.trans Array.size_setIfInBounds

lemma getElem?_onto_of_notMem (other : key ∉ keys) :
    (latch.onto keypad keys)[key.1]? = keypad[key.1]? := by
  induction keys generalizing keypad with
  | nil => rfl
  | cons first rest ih =>
      have apart : first.1 ≠ key.1 := fun same => other (by simp [Fin.ext same])
      refine (ih fun later => other (List.mem_cons_of_mem _ later)).trans ?_
      exact Array.getElem?_setIfInBounds_ne apart

lemma getElem?_onto_of_mem (key : Key) (inside : key.1 < keypad.size) (member : key ∈ keys) :
    (latch.onto keypad keys)[key.1]? = some (latch.pressed key) := by
  induction keys generalizing keypad with
  | nil => cases member
  | cons first rest ih =>
      by_cases later : key ∈ rest
      · exact ih (by rw [Array.size_setIfInBounds]; exact inside) later
      · obtain rfl : key = first := (List.mem_cons.1 member).resolve_right later
        refine (latch.getElem?_onto_of_notMem later).trans ?_
        exact Array.getElem?_setIfInBounds_self_of_lt inside

lemma onto_finRange (size : keypad.size = keyCount) :
    latch.onto keypad (List.finRange keyCount) = latch.merged := by
  apply Array.ext_getElem?
  intro position
  by_cases inside : position < keyCount
  · have brought := latch.getElem?_onto_of_mem ⟨position, inside⟩
      (by rw [size]; exact inside) (List.mem_finRange _)
    rw [brought, merged]
    simp [inside]
  · rw [Array.getElem?_eq_none, Array.getElem?_eq_none]
    · simp [merged]
      omega
    · rw [size_onto, size]
      omega

end

end Latch

/-! ## The keys one by one -/

namespace Machine

variable {session : Session}

/-- A key that does not go down, or finds nobody waiting, is only noted. -/
lemma syncKey_quiet {key : Key} (inside : key.1 < session.machine.state.keypad.size)
    (quiet : session.machine.state.mode = .running ∨
      session.machine.latch.raises session.machine.state.keypad key = false) :
    (syncKey key).run session =
      .ok false (withState session
        (session.machine.state.sensed key (session.machine.latch.pressed key))) := by
  rw [syncKey_run inside]
  dsimp only
  rw [← Latch.raises_of_lt]
  rcases quiet with running | still
  · rw [running]
    split_ifs <;> rfl
  · rw [still, if_neg Bool.false_ne_true]

/-- A key that goes down ends a suspension. -/
lemma syncKey_resolves {key : Key} {register : Int}
    (inside : key.1 < session.machine.state.keypad.size)
    (waiting : session.machine.state.mode = .awaitingKey register)
    (named : 0 ≤ register ∧ register < registerCount)
    (found : register.toNat < session.machine.state.registers.size)
    (raises : session.machine.latch.raises session.machine.state.keypad key = true) :
    (syncKey key).run session =
      .ok true ((withState session ((session.machine.state.sensed key
        (session.machine.latch.pressed key)).resolved register key.1)).logged
          (.resolved key register)) := by
  let state := session.machine.state.sensed key (session.machine.latch.pressed key)
  have found : register.toNat < state.registers.size := found
  have resolved := resolve_run named found key.1
  rw [syncKey_run inside]
  dsimp only
  rw [← Latch.raises_of_lt, if_pos raises, waiting]
  dsimp only
  rw [EStateM.run_bind, onState_run, withState_machine]
  dsimp only [state] at resolved ⊢
  rw [resolved]
  rfl

/-- **Keys that end no suspension are all noted.** -/
lemma syncKeysFrom_quiet (found : Option Key) {keys : List Key} (apart : keys.Nodup)
    (size : session.machine.state.keypad.size = keyCount)
    (quiet : session.machine.state.mode = .running ∨ ∀ key ∈ keys,
      session.machine.latch.raises session.machine.state.keypad key = false) :
    (syncKeysFrom found keys).run session =
      .ok found (withState session { session.machine.state with
        keypad := session.machine.latch.onto session.machine.state.keypad keys }) := by
  induction keys generalizing session with
  | nil => rfl
  | cons key rest ih =>
      obtain ⟨fresh, apart⟩ := List.nodup_cons.1 apart
      have here := syncKey_quiet (by rw [size]; exact key.2)
        (quiet.imp_right fun still => still key List.mem_cons_self)
      rw [syncKeysFrom, EStateM.run_bind, here]
      refine (ih apart (Array.size_setIfInBounds.trans size) ?_).trans rfl
      refine quiet.imp_right fun still other later => ?_
      have other_ne : key.1 ≠ other.1 := fun same => fresh (Fin.ext same ▸ later)
      have kept : (session.machine.state.keypad.setIfInBounds key.1
          (session.machine.latch.pressed key))[other.1]? = session.machine.state.keypad[other.1]? :=
        Array.getElem?_setIfInBounds_ne other_ne
      rw [← still other (List.mem_cons_of_mem _ later), Latch.raises, Latch.raises, ← kept]
      rfl

lemma syncKeysFrom_append (found : Option Key) (first second : List Key) :
    syncKeysFrom found (first ++ second) =
      syncKeysFrom found first >>= fun found => syncKeysFrom found second := by
  induction first generalizing found with
  | nil => simp only [List.nil_append, syncKeysFrom, pure_bind]
  | cons key rest ih =>
      simp only [List.cons_append, syncKeysFrom, bind_assoc, ih]
      congr 1
      funext ended
      cases ended <;> rfl

/-- **The first key that goes down ends a suspension**, and those after it are noted. -/
lemma syncKeysFrom_resolves (found : Option Key) {before after : List Key} {key : Key}
    {register : Int} (apart : (before ++ key :: after).Nodup)
    (size : session.machine.state.keypad.size = keyCount)
    (waiting : session.machine.state.mode = .awaitingKey register)
    (named : 0 ≤ register ∧ register < registerCount)
    (held : register.toNat < session.machine.state.registers.size)
    (still : ∀ other ∈ before,
      session.machine.latch.raises session.machine.state.keypad other = false)
    (raises : session.machine.latch.raises session.machine.state.keypad key = true) :
    (syncKeysFrom found (before ++ key :: after)).run session =
      .ok (some key) ((withState session ({ session.machine.state with
        keypad := session.machine.latch.onto session.machine.state.keypad
          (before ++ key :: after) }.resolved register key.1)).logged (.resolved key register)) := by
  obtain ⟨first, second, disjoint⟩ := List.nodup_append.1 apart
  obtain ⟨-, second⟩ := List.nodup_cons.1 second
  let latch := session.machine.latch
  let noted : Session := withState session { session.machine.state with
    keypad := latch.onto session.machine.state.keypad before }
  have size' : noted.machine.state.keypad.size = keyCount := latch.size_onto.trans size
  have raises' : latch.raises noted.machine.state.keypad key = true := by
    have fresh : key ∉ before := fun member => disjoint key member key List.mem_cons_self rfl
    rw [Latch.raises_iff] at raises ⊢
    exact ⟨raises.1, (latch.getElem?_onto_of_notMem fresh).trans raises.2⟩
  have resolved : (syncKey key).run noted = _ :=
    syncKey_resolves (by rw [size']; exact key.2) waiting named held raises'
  rw [syncKeysFrom_append, EStateM.run_bind, syncKeysFrom_quiet found first size (.inr still)]
  dsimp only
  rw [syncKeysFrom, EStateM.run_bind, resolved]
  dsimp only
  rw [if_pos rfl, syncKeysFrom_quiet (some key) second (Array.size_setIfInBounds.trans size')
    (.inl rfl), Latch.onto_append]
  rfl

end Machine

/-! ## The outcome -/

namespace State

variable {state : State} {latch : Latch} {key : Key} {register : Int}

/-- The key that ends a suspension and the register that it goes to. -/
def resolution? (state : State) (latch : Latch) : Option (Key × Int) :=
  match state.mode with
  | .running => none
  | .awaitingKey register => (Fin.find? (latch.raises state.keypad)).map fun key => (key, register)

/-- The state after a synchronisation. -/
def synced (state : State) (latch : Latch) : State :=
  (state.resolution? latch).elim { state with keypad := latch.merged }
    fun (key, register) => { state with keypad := latch.merged }.resolved register key.1

lemma synced_keypad : (state.synced latch).keypad = latch.merged := by
  rw [synced]
  cases state.resolution? latch <;> rfl

/-- A key is a byte, and is stored as it is. -/
lemma resolved_key (state : State) (register : Int) (key : Key) :
    state.resolved register key.1 = { state with
      registers := state.registers.setIfInBounds register.toNat key.1
      mode := .running
      pc := state.pc + 2 } := by
  have byte : (key.1 : Int) % 256 = key.1 := by
    have := key.2
    unfold keyCount at this
    omega
  rw [resolved, byte]

/-- **The smallest key that goes down** ends a suspension. -/
lemma resolution?_eq_some :
    state.resolution? latch = some (key, register) ↔
      state.mode = .awaitingKey register ∧ latch.raises state.keypad key = true ∧
        ∀ smaller < key, latch.raises state.keypad smaller = false := by
  rw [resolution?]
  cases state.mode with
  | running => simp
  | awaitingKey other =>
      simp only [Option.map_eq_some_iff, Fin.find?_eq_some_iff, Prod.mk.injEq, Mode.awaitingKey.injEq]
      constructor
      · rintro ⟨first, goes, rfl, rfl⟩
        exact ⟨rfl, goes⟩
      · rintro ⟨rfl, goes⟩
        exact ⟨key, goes, rfl, rfl⟩

lemma resolution?_eq_none :
    state.resolution? latch = none ↔
      state.mode = .running ∨ ∀ key, latch.raises state.keypad key = false := by
  rw [resolution?]
  cases state.mode with
  | running => simp
  | awaitingKey register => simp

end State

/-- The session after a synchronisation. -/
def Session.synced (session : Session) (keys : Option HostReport) (latch : Latch) : Session :=
  let state := session.machine.state
  let next : Session :=
    { session with machine := { session.machine with latch, state := state.synced latch } }
  ((state.resolution? latch).elim next fun (key, register) => next.logged (.resolved key register)).logged
    (.synced keys)

@[simp] lemma Session.synced_machine (session : Session) (keys : Option HostReport) (latch : Latch) :
    (session.synced keys latch).machine =
      { session.machine with latch, state := session.machine.state.synced latch } := by
  rw [synced]
  cases session.machine.state.resolution? latch <;> rfl

namespace Machine

variable {session : Session} {keys : Option HostReport}

/-- A report that is refused is refused before anything is done. -/
lemma syncKeys_run_refused {error : Error} (refused : session.machine.latch.take keys = .error error) :
    (syncKeys keys).run session = .error error session := by
  cases keys with
  | none => cases refused
  | some report =>
      simp only [Latch.take] at refused
      simp only [syncKeys, EStateM.run_bind, look_run, refused, accept_run_error]

/-- All the keys in turn. -/
lemma syncKeysFrom_run (session : Session) (keys : Option HostReport)
    (size : session.machine.state.keypad.size = keyCount)
    (named : ∀ register, session.machine.state.mode = .awaitingKey register →
      (0 ≤ register ∧ register < registerCount) ∧
        register.toNat < session.machine.state.registers.size) :
    (do
      let resolved ← syncKeysFrom none (List.finRange keyCount)
      emit (.synced keys)
      return resolved : Operation (Option Key)).run session =
      .ok ((session.machine.state.resolution? session.machine.latch).map (·.1))
        (session.synced keys session.machine.latch) := by
  rw [EStateM.run_bind]
  cases resolution : session.machine.state.resolution? session.machine.latch with
  | none =>
      have quiet := (State.resolution?_eq_none.1 resolution).imp_right fun still key
        (_ : key ∈ List.finRange keyCount) => still key
      rw [syncKeysFrom_quiet none (List.nodup_finRange _) size quiet, Latch.onto_finRange _ size]
      dsimp only
      rw [EStateM.run_bind, emit_run, Session.synced, State.synced, resolution]
      rfl
  | some pair =>
      obtain ⟨key, register⟩ := pair
      obtain ⟨waiting, goes⟩ := State.resolution?_eq_some.1 resolution
      have first := Fin.find?_eq_some_iff.2 goes
      rw [Fin.find?_eq_find?_finRange] at first
      obtain ⟨raises, before, after, split, still⟩ := List.find?_eq_some_iff_append.1 first
      have still : ∀ other ∈ before,
          session.machine.latch.raises session.machine.state.keypad other = false :=
        fun other member => by simpa using still other member
      have apart : (before ++ key :: after).Nodup := split ▸ List.nodup_finRange _
      obtain ⟨bounds, held⟩ := named register waiting
      have resolves := syncKeysFrom_resolves none apart size waiting bounds held still raises
      rw [← split, Latch.onto_finRange _ size] at resolves
      rw [resolves]
      dsimp only
      rw [EStateM.run_bind, emit_run, Session.synced, State.synced, resolution]
      rfl

/-- **A synchronisation, from the report to the keypad.** -/
theorem syncKeys_run {latch : Latch} (taken : session.machine.latch.take keys = .ok latch)
    (size : session.machine.state.keypad.size = keyCount)
    (named : ∀ register, session.machine.state.mode = .awaitingKey register →
      (0 ≤ register ∧ register < registerCount) ∧
        register.toNat < session.machine.state.registers.size) :
    (syncKeys keys).run session =
      .ok ((session.machine.state.resolution? latch).map (·.1)) (session.synced keys latch) := by
  cases keys with
  | none =>
      cases taken
      exact syncKeysFrom_run session none size named
  | some report =>
      simp only [Latch.take] at taken
      let told : Session := { session with machine := { session.machine with latch } }
      have run := syncKeysFrom_run told (some report) size named
      simp only [syncKeys, EStateM.run_bind, look_run, taken, accept_run_ok, change_run]
      exact run

end Machine

end Chip8
