import Chip8.Proofs.Accounting
import Chip8.Proofs.Keypad
import Mathlib.Data.List.Chain

/-!
# Recorded snapshots fit together

With tracing on, an entry holds what the registers looked like before and after its step.  Between the end
of one step and the beginning of the next a host may do as it likes: advance the timers, report keys, hold
virtual ones, load programs, ask for steps of a suspended machine.  Of all this the snapshots show the ticks
of the timers and, if the step was one that waits for a key, the key that ended the wait.

* `Snapshot.elapsed`, `Snapshot.resumed` — what ticks and keys do to a snapshot.
* `Gap` — what happened between two steps; `Snapshot.Since`, `since_perform` — what a snapshot has become
  since.
* `Entry.Recorded`, **`step_recorded`** — the entry of a step holds the snapshots around it.
* `Session.links` — the entries of a run, each with the gap before it.
* `Entry.LeadsTo`, `Linked`, `Linked.perform` — consecutive entries fit together, and every operation keeps it
  so.
* **`snapshots_chain`** — so do those of the trace, however many have been dropped.
-/

namespace Chip8

/-! ## Snapshots -/

namespace Snapshot

/-- A snapshot after ticks of the timers. -/
def elapsed (snapshot : Snapshot) (ticks : Nat) : Snapshot :=
  { snapshot with
    delayTimer := max 0 (snapshot.delayTimer - ticks)
    soundTimer := max 0 (snapshot.soundTimer - ticks) }

/-- A snapshot after a key that was waited for has arrived in a register. -/
def resumed (snapshot : Snapshot) (register : Int) (key : Key) : Snapshot :=
  { snapshot with
    registers := snapshot.registers.setIfInBounds register.toNat key.1
    pc := snapshot.pc + 2
    mode := .running }

variable (snapshot : Snapshot)

lemma elapsed_zero (delay : 0 ≤ snapshot.delayTimer) (sound : 0 ≤ snapshot.soundTimer) :
    snapshot.elapsed 0 = snapshot := by
  obtain ⟨⟩ := snapshot
  simp only [elapsed, Snapshot.mk.injEq, true_and, and_true]
  dsimp only at delay sound
  omega

/-- Ticks add up. -/
lemma elapsed_succ (ticks : Nat) : (snapshot.elapsed ticks).elapsed 1 = snapshot.elapsed (ticks + 1) := by
  simp only [elapsed, Snapshot.mk.injEq, true_and, and_true]
  omega

/-- Ticks and keys do not get in each other's way. -/
lemma elapsed_resumed (register : Int) (key : Key) (ticks : Nat) :
    (snapshot.resumed register key).elapsed ticks = (snapshot.elapsed ticks).resumed register key := rfl

end Snapshot

lemma State.snapshot_clocked (state : State) : state.clocked.snapshot = state.snapshot.elapsed 1 := rfl

lemma State.snapshot_resolved (state : State) (register : Int) (key : Key) :
    (state.resolved register key.1).snapshot = state.snapshot.resumed register key := by
  rw [resolved_key]
  rfl

/-- A synchronisation shows in a snapshot if a key ends the wait. -/
lemma State.snapshot_synced (state : State) (latch : Latch) :
    (state.synced latch).snapshot =
      (state.resolution? latch).elim state.snapshot fun (key, register) =>
        state.snapshot.resumed register key := by
  rw [synced]
  -- No snapshot shows the keypad, so nobody has to work out what is on it.
  generalize latch.merged = keypad
  cases state.resolution? latch with
  | none => rfl
  | some pair => exact snapshot_resolved _ _ _

/-! ## Between two steps -/

/-- What happened between two steps. -/
structure Gap where
  /-- How often the timers were advanced. -/
  ticks : Nat := 0
  /-- The keys that synchronisations have answered with. -/
  keys : List Key := []
  deriving DecidableEq, Repr

namespace Session

/-- The key that a synchronisation answers with. -/
def key? (session : Session) (keys : Option HostReport) : Option Key :=
  match (Machine.syncKeys keys).run session with
  | .ok key _ => key
  | .error _ _ => none

/-- What has happened after one more elementary operation. -/
def gapAfter (session : Session) (gap : Gap) : Command → Gap
  | .advanceTimers => { gap with ticks := gap.ticks + 1 }
  | .syncKeys keys => { gap with keys := gap.keys ++ (session.key? keys).toList }
  | _ => gap

end Session

/-- What a snapshot has become since.  At most one key has ended the wait, and only if there was one. -/
inductive Snapshot.Since (ended : Snapshot) (gap : Gap) : Snapshot → Prop
  | elapsed (unanswered : gap.keys = []) : Since ended gap (ended.elapsed gap.ticks)
  | resumed {register : Int} {key : Key} (waiting : ended.mode = .awaitingKey register)
      (answered : gap.keys = [key]) : Since ended gap ((ended.elapsed gap.ticks).resumed register key)

section

variable {session : Session} {ended : Snapshot} {gap : Gap}

/-- A synchronisation answers with the key that ends the wait, or the snapshot stays as it is. -/
lemma sync_cases (complete : session.machine.Complete) (keys : Option HostReport) :
    let left := session.after (Command.perform (.syncKeys keys))
    (session.key? keys = none ∧ left.machine.state.snapshot = session.machine.state.snapshot) ∨
      ∃ key register, session.key? keys = some key ∧
        session.machine.state.mode = .awaitingKey register ∧
        left.machine.state.snapshot = session.machine.state.snapshot.resumed register key := by
  intro left
  have after : left = session.after (Machine.syncKeys keys) := Session.after_syncKeys keys
  rw [after, Session.key?]
  cases taken : session.machine.latch.take keys with
  | error error =>
      have refused := Machine.syncKeys_run_refused taken
      rw [Session.after_of_error refused, refused]
      exact .inl ⟨rfl, rfl⟩
  | ok latch =>
      have run := syncKeys_run_of_complete complete taken
      have shown := session.machine.state.snapshot_synced latch
      rw [Session.after_of_ok run, run, Session.synced_machine, shown]
      cases resolution : session.machine.state.resolution? latch with
      | none => exact .inl ⟨rfl, rfl⟩
      | some pair =>
          obtain ⟨key, register⟩ := pair
          obtain ⟨waiting, -⟩ := State.resolution?_eq_some.1 resolution
          exact .inr ⟨key, register, rfl, waiting, rfl⟩

/-- What a load or a virtual key does shows in no snapshot. -/
lemma snapshot_of_move {before after : Machine} {command : Command} (move : Move before command after)
    (kept : command ≠ .reset) (other : command ≠ .advanceTimers) (silent : command.isSync = false)
    (idle : command ≠ .step) : after.state.snapshot = before.state.snapshot := by
  cases move with
  | cleared => exact absurd rfl kept
  | clocked => exact absurd rfl other
  | sensed | resolved => cases silent
  | idled | executed => exact absurd rfl idle
  | stored | held => rfl

/-- Nothing that a host does to a machine turns tracing on or off. -/
lemma tracing_of_move {before after : Machine} {command : Command} (move : Move before command after) :
    after.tracing = before.tracing := by
  cases move <;> rfl

/-- **Between two steps** every operation adds to the gap, and the snapshot is what the gap tells. -/
theorem since_perform (since : ended.Since gap session.machine.state.snapshot)
    (complete : session.machine.Complete) {command : Command} (elementary : command.isElementary = true)
    (kept : command ≠ .reset) (idle : command ≠ .step) :
    ended.Since (session.gapAfter gap command)
      (session.after command.perform).machine.state.snapshot := by
  have moved := Session.move_after elementary session
  cases command with
  | reset => exact absurd rfl kept
  | advanceTimers =>
      have ticked : (session.after (Command.perform .advanceTimers)).machine.state.snapshot =
          session.machine.state.snapshot.elapsed 1 := State.snapshot_clocked _
      rw [ticked]
      generalize session.machine.state.snapshot = current at since
      cases since with
      | elapsed unanswered =>
          rw [Snapshot.elapsed_succ]
          exact .elapsed unanswered
      | resumed waiting answered =>
          rw [Snapshot.elapsed_resumed, Snapshot.elapsed_succ]
          exact .resumed waiting answered
  | syncKeys keys =>
      rcases sync_cases complete keys with ⟨unanswered, same⟩ | ⟨key, register, answered, waiting, resumed⟩
      · rw [Session.gapAfter, unanswered, same, Option.toList_none, List.append_nil]
        exact since
      · have suspended : session.machine.state.snapshot.mode = .awaitingKey register := waiting
        rw [Session.gapAfter, answered, resumed]
        generalize session.machine.state.snapshot = current at since suspended
        cases since with
        | elapsed unanswered =>
            refine .resumed suspended ?_
            rw [unanswered]
            rfl
        | resumed => cases suspended
  | step => exact absurd rfl idle
  | load _ | loadFile _ | loadFont _ | holdKey _ _ =>
      rw [snapshot_of_move moved nofun nofun rfl nofun]
      exact since
  | tick _ | frame _ _ | run _ _ _ => cases elementary

end

/-! ## Steps -/

namespace Entry

/-- The register with which an instruction waits for a key, if that is what it does. -/
def awaited? (entry : Entry) : Option Nat :=
  entry.decoding.bind fun decoding =>
    if decoding.kind = .awaitKey then some decoding.instruction.x else none

/-- The mode in which a step ends. -/
def mode (entry : Entry) : Mode :=
  entry.awaited?.elim .running fun register => .awaitingKey register

lemma mode_of_decoded {entry : Entry} {word : Int} (decoded : entry.decoding = some (.ofOpcode word)) :
    entry.mode =
      if Kind.ofOpcode word = .awaitKey then .awaitingKey (⟨word⟩ : Instruction).x else .running := by
  rw [mode, awaited?, decoded, Option.bind_some, Decoding.ofOpcode]
  split_ifs <;> rfl

/-- An entry holds the snapshots before and after its step, and bears the address and the number of
instructions that the first one shows. -/
structure Recorded (entry : Entry) (begun ended : Snapshot) : Prop where
  before : entry.before = some begun
  after : entry.after = some ended
  pc : entry.pc = begun.pc
  cycle : entry.cycle = begun.cycleCount
  running : begun.mode = .running
  mode : ended.mode = entry.mode

end Entry

section

variable {session left : Session} {entry : Entry}

/-- An instruction suspends the machine if it waits for a key. -/
lemma Kind.effect_mode_of_running {state : State} (running : state.mode = .running) (glyphBase byte : Int)
    (word : Int) :
    ((Kind.ofOpcode word).effect glyphBase byte ⟨word⟩ state).mode =
      if Kind.ofOpcode word = .awaitKey then .awaitingKey (⟨word⟩ : Instruction).x else .running := by
  by_cases awaits : Kind.ofOpcode word = .awaitKey
  · rw [if_pos awaits, awaits]
    rfl
  · have other : Kind.ofOpcode word ∉ State.Part.mode.changers :=
      fun member => awaits (List.mem_singleton.1 member)
    rw [if_neg awaits]
    exact (Kind.effect_keeps other).trans running

/-- The entry of a step, wherever it ends. -/
lemma recorded_entryOf {decoding : Option Decoding} {error : Option String} {fault : Option Fault}
    {done : Session}
    (running : session.machine.state.mode = .running) (tracing : session.machine.tracing = true)
    (still : done.machine.tracing = true)
    (mode : done.machine.state.mode = (session.machine.entryOf decoding error fault done.machine).mode) :
    let entry := session.machine.entryOf decoding error fault done.machine
    entry.Recorded session.machine.state.snapshot (done.completed entry).machine.state.snapshot := by
  intro entry
  rw [Session.completed_machine]
  refine ⟨?_, ?_, rfl, rfl, running, mode⟩
  · exact if_pos tracing
  · exact if_pos still

/-- **The entry of a step holds the snapshots around it**, with tracing on. -/
theorem step_recorded (complete : session.machine.Complete) (tracing : session.machine.tracing = true)
    (stepped : Machine.step.run session = .ok (some entry) left) :
    entry.Recorded session.machine.state.snapshot left.machine.state.snapshot := by
  have ended := Machine.step_end session
  rw [stepped] at ended
  cases ended with
  | lost running => exact recorded_entryOf running tracing tracing running
  | ran running word fetched state run =>
      obtain ⟨-, rfl⟩ := Machine.execution_ran complete.shaped complete.listed run
      refine recorded_entryOf running tracing (by simpa using tracing) ?_
      rw [Entry.mode_of_decoded rfl]
      exact Kind.effect_mode_of_running running _ _ word
  | met running word fetched fault state run =>
      obtain ⟨met, rfl⟩ := Machine.execution_met complete.shaped complete.listed run
      refine recorded_entryOf running tracing (by simpa using tracing) ?_
      have other : Kind.ofOpcode word ≠ .awaitKey := by
        rcases Kind.fault?_cases met with ⟨call, -⟩ | ⟨ret, -⟩
        · rw [call]
          exact nofun
        · rw [ret]
          exact nofun
      rw [Entry.mode_of_decoded rfl, if_neg other]
      exact running

end

/-! ## Links -/

/-- An entry with the gap before it. -/
structure Link where
  gap : Gap
  entry : Entry
  deriving DecidableEq, Repr

/-- The links of a run, and the gap behind the last of them. -/
structure Chronicle where
  links : List Link := []
  gap : Gap := {}
  deriving DecidableEq, Repr

namespace Session

/-- The chronicle since the last reset after one more elementary operation. -/
def chronicleAfter (session : Session) (chronicle : Chronicle) : Command → Chronicle
  | .reset => {}
  | .step =>
    match session.entry? with
    | some entry => { links := chronicle.links ++ [⟨chronicle.gap, entry⟩] }
    | none => chronicle
  | command => { chronicle with gap := session.gapAfter chronicle.gap command }

/-- The entries of all steps since the last reset, each with the gap before it. -/
def links (session : Session) (commands : List Command) : List Link :=
  (session.collect chronicleAfter {} (session.unrolled commands)).links

lemma map_entry_links (session : Session) (commands : List Command) :
    (session.links commands).map (·.entry) = session.entries commands := by
  have along (stages : List Command) (session : Session) (chronicle : Chronicle) :
      (session.collect chronicleAfter chronicle stages).links.map (·.entry) =
        session.entriesFrom (chronicle.links.map (·.entry)) stages := by
    induction stages generalizing session chronicle with
    | nil => rfl
    | cons stage rest ih =>
        refine (ih _ _).trans (congrArg (fun entries => entriesFrom _ entries rest) ?_)
        cases stage with
        | step =>
            rw [chronicleAfter, entriesAfter]
            cases session.entry? with
            | none => exact (List.append_nil _).symm
            | some entry => exact List.map_append
        | _ => rfl
  exact along _ _ {}

end Session

/-- How the snapshot in which a step begins comes from the one in which the step before has ended: the
timers have counted the ticks in between, and a register holds the key that ended the wait exactly if the
earlier step was one that waits for a key. -/
def Entry.LeadsTo (earlier : Entry) (gap : Gap) (later : Entry) : Prop :=
  ∃ ended begun, earlier.after = some ended ∧ later.before = some begun ∧
    match earlier.awaited? with
    | none => gap.keys = [] ∧ begun = ended.elapsed gap.ticks
    | some register =>
      ∃ key, gap.keys = [key] ∧ begun = (ended.elapsed gap.ticks).resumed register key

/-- The snapshot in which a step begins is what has become of the one before. -/
lemma Entry.Recorded.leadsTo {earlier later : Entry} {gap : Gap} {first ended begun last : Snapshot}
    (one : earlier.Recorded first ended) (next : later.Recorded begun last) (since : ended.Since gap begun) :
    earlier.LeadsTo gap later := by
  refine ⟨ended, begun, one.after, next.before, ?_⟩
  have mode := one.mode
  have running := next.running
  rw [Entry.mode] at mode
  cases awaited : earlier.awaited? with
  | none =>
      rw [awaited] at mode
      cases since with
      | elapsed unanswered => exact ⟨unanswered, rfl⟩
      | resumed waiting =>
          rw [waiting] at mode
          cases mode
  | some register =>
      rw [awaited] at mode
      cases since with
      | elapsed =>
          have still : ended.mode = .running := running
          rw [still] at mode
          cases mode
      | resumed waiting answered =>
          rw [waiting] at mode
          cases mode
          exact ⟨_, answered, rfl⟩

/-- Consecutive entries fit together, and the last one fits the state. -/
structure Linked (session : Session) (chronicle : Chronicle) : Prop where
  sound : session.machine.Sound
  tracing : session.machine.tracing = true
  recorded : ∀ link ∈ chronicle.links, ∃ begun ended, link.entry.Recorded begun ended
  chain : chronicle.links.IsChain fun earlier later => earlier.entry.LeadsTo later.gap later.entry
  since : ∀ link ∈ chronicle.links.getLast?, ∃ begun ended,
    link.entry.Recorded begun ended ∧ ended.Since chronicle.gap session.machine.state.snapshot

namespace Linked

variable {session left : Session} {chronicle : Chronicle}

lemma start (sound : session.machine.Sound) (tracing : session.machine.tracing = true) :
    Linked session {} where
  sound
  tracing
  recorded _ member := absurd member List.not_mem_nil
  chain := .nil
  since _ last := absurd last (Option.not_mem_none _)

/-- What is no step adds to the gap. -/
lemma aside (linked : Linked session chronicle) (sound : left.machine.Sound)
    (tracing : left.machine.tracing = true) {gap : Gap}
    (since : ∀ ended : Snapshot, ended.Since chronicle.gap session.machine.state.snapshot →
      ended.Since gap left.machine.state.snapshot) :
    Linked left { chronicle with gap } where
  sound
  tracing
  recorded := linked.recorded
  chain := linked.chain
  since := by
    intro link last
    obtain ⟨begun, ended, recorded, become⟩ := linked.since link last
    exact ⟨begun, ended, recorded, since ended become⟩

/-- A step with an entry closes the gap. -/
lemma step {entry : Entry} (linked : Linked session chronicle) (sound : left.machine.Sound)
    (tracing : left.machine.tracing = true)
    (stepped : Machine.step.run session = .ok (some entry) left) :
    Linked left { links := chronicle.links ++ [⟨chronicle.gap, entry⟩] } := by
  have recorded := step_recorded linked.sound.complete linked.tracing stepped
  refine ⟨sound, tracing, ?_, ?_, ?_⟩
  · intro link member
    rcases List.mem_append.1 member with before | last
    · exact linked.recorded link before
    · cases List.mem_singleton.1 last
      exact ⟨_, _, recorded⟩
  · refine List.isChain_append.2 ⟨linked.chain, .singleton _, ?_⟩
    intro link last other first
    cases first
    obtain ⟨begun, ended, before, become⟩ := linked.since link last
    exact before.leadsTo recorded become
  · intro link last
    rw [List.getLast?_concat] at last
    cases last
    have timers := sound.state
    refine ⟨_, _, recorded, ?_⟩
    have fresh : left.machine.state.snapshot.Since {} (left.machine.state.snapshot.elapsed 0) :=
      .elapsed rfl
    rwa [Snapshot.elapsed_zero _ timers.delay_bounds.1 timers.sound_bounds.1] at fresh

/-- **Every elementary operation keeps the entries linked.** -/
theorem perform (linked : Linked session chronicle) {command : Command}
    (elementary : command.isElementary = true) :
    Linked (session.after command.perform) (session.chronicleAfter chronicle command) := by
  have moved := Session.move_after elementary session
  have sound := Session.sound_after linked.sound elementary
  have tracing : (session.after command.perform).machine.tracing = true := by
    rw [tracing_of_move moved, linked.tracing]
  cases command with
  | reset => exact .start sound tracing
  | step =>
      rcases Session.entry?_cases linked.sound.complete with ⟨absent, same⟩ | ⟨entry, stepped, given⟩
      · rw [Session.chronicleAfter, absent, same]
        exact linked
      · rw [Session.chronicleAfter, given]
        exact linked.step sound tracing stepped
  | load _ | loadFile _ | loadFont _ | advanceTimers | syncKeys _ | holdKey _ _ =>
      exact linked.aside sound tracing fun _ since =>
        since_perform since linked.sound.complete elementary nofun nofun
  | tick _ | frame _ _ | run _ _ _ => cases elementary

end Linked

/-- **Recorded snapshots fit together.**  After every run of a machine with tracing on, the trace holds the
last entries of the run, as many as its bound allows.  Each of them shows the snapshots before and after its
step and bears the address and the number of instructions of the first.  Of two consecutive ones, the later
begins where the earlier has ended: the timers have counted the ticks in between, and exactly if the earlier
one waits for a key, its register holds the key that ended the wait, the program counter has moved on and
the machine runs again. -/
theorem snapshots_chain {settings : Settings} {machine : Machine}
    (created : Machine.create settings = .ok machine) (tracing : settings.tracing = true)
    (commands : List Command) :
    let session : Session := { machine }
    let links := session.links commands
    let kept := links.rtake settings.traceBound.toNat
    (session.performAll commands).machine.trace.toList = kept.map (·.entry) ∧
      links.map (·.entry) = session.entries commands ∧
      (∀ link ∈ kept, ∃ begun ended, link.entry.before = some begun ∧ link.entry.after = some ended ∧
        link.entry.pc = begun.pc ∧ link.entry.cycle = begun.cycleCount) ∧
      kept.IsChain fun earlier later => earlier.entry.LeadsTo later.gap later.entry := by
  intro session links kept
  have accounts := Accounts.reached created commands
  have start : Linked session {} := by
    refine .start (Machine.create_sound created) ?_
    obtain ⟨traceBound, font, -, -, rfl⟩ := Machine.create_eq_ok_iff.1 created
    exact tracing
  have linked : Linked (session.performAll commands)
      (session.collect Session.chronicleAfter {} (session.unrolled commands)) := by
    rw [← Session.performAll_unrolled]
    exact collect_keeps Linked
      (fun stage member _ _ linked => linked.perform (Session.isElementary_of_mem_unrolled member)) start
  have entries : links.map (·.entry) = session.entries commands := session.map_entry_links commands
  refine ⟨?_, entries, ?_, linked.chain.drop _⟩
  · rw [accounts.trace, if_pos tracing, ← entries, List.rtake, List.length_map, ← List.map_drop]
    rfl
  · intro link member
    obtain ⟨begun, ended, recorded⟩ := linked.recorded link (List.mem_of_mem_drop member)
    exact ⟨begun, ended, recorded.before, recorded.after, recorded.pc, recorded.cycle⟩

/-- The delay timer is set to 5 and the program waits.  Two ticks, a program that replaces the old one and a
virtual key later it goes on; the trace has room for two entries. -/
theorem snapshots_chain_wait :
    let commands : List Command :=
      [.load [0x6005, 0xF015, 0xF30A], .run 1 4 none, .advanceTimers, .load [0, 0, 0, 0x6101],
        .holdKey 7 true, .tick none]
    ∃ machine,
      Machine.create { random := .sequence (fun _ => 0) 0, tracing := true, traceBound := 2 } =
          .ok machine ∧
        let kept := (Session.links { machine } commands).rtake 2
        kept.map (·.gap) = [{}, { ticks := 2, keys := [7] }] ∧
          kept.map (fun link => link.entry.before.map (·.delayTimer)) = [some 5, some 3] ∧
          kept.map (fun link => link.entry.before.bind (·.registers[3]?)) = [some 0, some 7] ∧
          kept.IsChain fun earlier later => earlier.entry.LeadsTo later.gap later.entry := by
  intro commands
  obtain ⟨machine, created, gaps, timers, registers⟩ : ∃ machine,
      Machine.create { random := .sequence (fun _ => 0) 0, tracing := true, traceBound := 2 } =
          .ok machine ∧
        let kept := (Session.links { machine } commands).rtake 2
        kept.map (·.gap) = [{}, { ticks := 2, keys := [7] }] ∧
          kept.map (fun link => link.entry.before.map (·.delayTimer)) = [some 5, some 3] ∧
          kept.map (fun link => link.entry.before.bind (·.registers[3]?)) = [some 0, some 7] := by
    refine ⟨_, rfl, ?_⟩
    unfold commands
    decide +kernel
  obtain ⟨-, -, -, chain⟩ := snapshots_chain created rfl commands
  exact ⟨machine, created, gaps, timers, registers, chain⟩

end Chip8
