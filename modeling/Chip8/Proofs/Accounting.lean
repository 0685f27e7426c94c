import Chip8.Proofs.Returns
import Mathlib.Data.List.DropRight

/-!
# The books of a machine

A step leaves its mark in four places: the cycle counter, the fault counts, the trace and the journal,
from which the observer is served.  Not every step leaves it in all of them: a word without a meaning is
reported as a fault and still counted as an instruction, other faults are reported only, and without
tracing nothing is recorded.  Measured against the entries that steps answer with, the four places agree
at any time.

* `Session.entries` — the entries of all steps since the last reset, whichever operations took them.  A
  frame ends with the first step that has none, and the steps behind that would have none either.
  `entry?_cases` — the entry of one step; `entries_keeps` — induction over them.
* `Entry.isCounted`, `countP_isCounted` — every entry is an instruction or one of three faults.
* `sinceReset` — what a journal says since the last reset.
* `Aside`, `aside_perform` — other operations leave the books alone.
* `Charged`, `step_charged` — what a step enters into them; `Session.books_perform` — and so what has to be
  shown of anything that is said about a session and its entries.
* **`Accounts`**, `Accounts.perform` — the books are right, and every operation keeps them right.
* **`step_accounting`** — so they are right after every run of a created machine.
-/

namespace Chip8

/-! ## Entries -/

namespace Session

/-- The entry of the next step, if there is one. -/
def entry? (session : Session) : Option Entry :=
  match Machine.step.run session with
  | .ok entry _ => entry
  | .error _ _ => none

/-- The entries since the last reset after one more elementary operation. -/
def entriesAfter (session : Session) (earlier : List Entry) : Command → List Entry
  | .reset => []
  | .step => earlier ++ session.entry?.toList
  | _ => earlier

/-- The same after a sequence of elementary operations. -/
def entriesFrom (session : Session) (earlier : List Entry) : List Command → List Entry
  | [] => earlier
  | command :: rest =>
    (session.after command.perform).entriesFrom (session.entriesAfter earlier command) rest

/-- The entries that steps have answered with since the last reset, be they steps of their own or part
of a tick, a frame or a run. -/
def entries (session : Session) (commands : List Command) : List Entry :=
  session.entriesFrom [] (session.unrolled commands)

/-- A step on a machine that lacks nothing answers with its entry, or the machine is suspended and
stays as it is. -/
lemma entry?_cases {session : Session} (complete : session.machine.Complete) :
    (session.entry? = none ∧ session.after (Command.perform .step) = session) ∨
      ∃ entry, Machine.step.run session = .ok (some entry) (session.after (Command.perform .step)) ∧
        session.entry? = some entry := by
  obtain ⟨answer, left, stepped⟩ := step_returns_of_complete complete
  rw [after_step, after_of_ok stepped, entry?, stepped]
  cases answer with
  | none => exact .inl ⟨rfl, (Machine.step_none stepped).2⟩
  | some entry => exact .inr ⟨entry, rfl, rfl⟩

lemma entriesFrom_eq_collect (session : Session) (earlier : List Entry) (stages : List Command) :
    session.entriesFrom earlier stages = session.collect entriesAfter earlier stages := by
  induction stages generalizing session earlier with
  | nil => rfl
  | cons stage rest ih => exact ih _ _

/-- **What the elementary operations keep of a session and of its entries holds after a run.** -/
theorem entries_keeps (property : Session → List Entry → Prop)
    (each : ∀ session entries (command : Command), command.isElementary = true →
      property session entries →
        property (session.after command.perform) (session.entriesAfter entries command))
    {session : Session} (holds : property session []) (commands : List Command) :
    property (session.performAll commands) (session.entries commands) := by
  rw [entries, entriesFrom_eq_collect, ← performAll_unrolled]
  exact collect_keeps property
    (fun stage member session entries => each session entries stage (isElementary_of_mem_unrolled member))
    holds

end Session

namespace Entry

/-- The kind of fault that a step has met. -/
def faultKind? (entry : Entry) : Option FaultKind := entry.fault.map (·.kind)

/-- Whether a step has carried out its instruction.  A word without a meaning is stepped over, and that
counts. -/
def isCounted (entry : Entry) : Bool :=
  entry.faultKind? = none ∨ entry.faultKind? = some .unknownOpcode

variable {entry : Entry}

lemma isCounted_of_warning {kind : Kind} {word pc : Int} (warned : entry.fault = kind.warning? word pc) :
    entry.isCounted = true := by
  rw [isCounted, faultKind?, warned, Kind.warning?]
  split_ifs <;> rfl

lemma isCounted_of_fault {fault : Fault} (faulted : entry.fault = some fault)
    (known : fault.kind ≠ .unknownOpcode) : entry.isCounted = false := by
  simp [isCounted, faultKind?, faulted, known]

end Entry

/-- Every entry is that of an instruction or that of one of three faults. -/
lemma countP_isCounted (entries : List Entry) :
    entries.countP Entry.isCounted + entries.countP (·.faultKind? = some .badPc) +
      entries.countP (·.faultKind? = some .stackOverflow) +
      entries.countP (·.faultKind? = some .stackUnderflow) = entries.length := by
  induction entries with
  | nil => rfl
  | cons entry rest ih =>
      simp only [List.countP_cons, List.length_cons, Entry.isCounted]
      obtain ⟨told, met⟩ : ∃ told, entry.faultKind? = told := ⟨_, rfl⟩
      simp only [met]
      rcases told with _ | kind
      · simp
        omega
      · cases kind <;> simp <;> omega

/-! ## Journals -/

/-- What a journal says since the last reset. -/
def sinceReset (journal : Journal) : Journal := (journal.toList.rtakeWhile (· ≠ .reset)).toArray

section

variable (journal : Journal) (event : Event)

lemma sinceReset_push (other : event ≠ .reset) :
    sinceReset (journal.push event) = (sinceReset journal).push event := by
  simp [sinceReset, List.rtakeWhile_concat_pos, other]

lemma sinceReset_push_reset : sinceReset (journal.push .reset) = #[] := by
  simp [sinceReset, List.rtakeWhile_concat_neg]

lemma steppedEntries_push :
    steppedEntries (journal.push event) = steppedEntries journal ++ event.steppedEntry?.toList := by
  rw [steppedEntries, Array.toList_push, List.filterMap_append]
  cases event <;> rfl

lemma observedEntries_push :
    observedEntries (journal.push event) = observedEntries journal ++ event.observedEntry?.toList := by
  rw [observedEntries, Array.toList_push, List.filterMap_append]
  cases event <;> rfl

end

/-- Whether an event has nothing to do with resets or completed steps. -/
def Event.isPlain : Event → Bool
  | .reset | .stepped _ | .observed _ => false
  | _ => true

/-- Two journals show the same steps since the last reset. -/
structure Agree (journal after : Journal) : Prop where
  stepped : steppedEntries (sinceReset after) = steppedEntries (sinceReset journal)
  observed : observedEntries (sinceReset after) = observedEntries (sinceReset journal)

namespace Agree

variable {journal after : Journal}

lemma refl : Agree journal journal := ⟨rfl, rfl⟩

lemma push (agree : Agree journal after) {event : Event} (plain : event.isPlain = true) :
    Agree journal (after.push event) := by
  have other : event ≠ .reset := by rintro rfl; cases plain
  have stepped : event.steppedEntry? = none := by cases event <;> first | rfl | cases plain
  have observed : event.observedEntry? = none := by cases event <;> first | rfl | cases plain
  constructor
  · rw [sinceReset_push _ _ other, steppedEntries_push, stepped, agree.stepped]
    exact List.append_nil _
  · rw [sinceReset_push _ _ other, observedEntries_push, observed, agree.observed]
    exact List.append_nil _

end Agree

/-! ## Operations that leave the books alone -/

/-- The settings and the trace are kept, and no step is completed. -/
structure Kept (before after : Session) : Prop where
  tracing : after.machine.tracing = before.machine.tracing
  hasObserver : after.machine.hasObserver = before.machine.hasObserver
  trace : after.machine.trace = before.machine.trace
  journal : Agree before.journal after.journal

/-- Nothing in the books has changed. -/
structure Aside (before after : Session) : Prop extends Kept before after where
  cycles : after.machine.state.cycleCount = before.machine.state.cycleCount
  faults : after.machine.faults = before.machine.faults

section

variable {journal : Journal}

lemma Preserves.journal_emit {event : Event} (plain : event.isPlain = true) :
    Preserves (fun session => Agree journal session.journal) (Machine.emit event) :=
  fun _ agree => agree.push plain

lemma Preserves.journal_change (f : Machine → Machine) :
    Preserves (fun session => Agree journal session.journal) (Machine.change f) :=
  fun _ agree => agree

lemma Preserves.journal_onState {α : Type} (action : Action α) :
    Preserves (fun session => Agree journal session.journal) (Machine.onState action) := by
  intro session agree
  rw [leaves, Machine.onState_run]
  cases action.run session.machine.state with
  | ok value state => exact agree
  | error error state => exact agree

lemma Preserves.journal_load (words : List Int) :
    Preserves (fun session => Agree journal session.journal) (Machine.load words) :=
  (Preserves.accept _).bind fun _ => (journal_onState _).bind fun _ => journal_emit rfl

end

lemma agree_synced (session : Session) (keys : Option HostReport) (latch : Latch) :
    Agree session.journal (session.synced keys latch).journal := by
  rw [Session.synced]
  cases session.machine.state.resolution? latch with
  | none => exact Agree.refl.push rfl
  | some pair => exact (Agree.refl.push rfl).push rfl

lemma agree_syncKeys {session : Session} (sound : session.machine.Sound) (keys : Option HostReport) :
    Agree session.journal (leaves (Machine.syncKeys keys) session).journal := by
  cases taken : session.machine.latch.take keys with
  | error error =>
      rw [leaves_of_error (Machine.syncKeys_run_refused taken)]
      exact .refl
  | ok latch =>
      rw [leaves_of_ok (syncKeys_run_of_complete sound.complete taken)]
      exact agree_synced session keys latch

lemma agree_perform {session : Session} (sound : session.machine.Sound) {command : Command}
    (elementary : command.isElementary = true) (kept : command ≠ .reset) (idle : command ≠ .step) :
    Agree session.journal (session.after command.perform).journal := by
  rw [Session.after_eq_leaves]
  cases command with
  | load words =>
      rw [Command.perform, leaves_reply]
      exact Preserves.journal_load words session .refl
  | loadFile file =>
      rw [Command.perform, leaves_reply]
      exact (Preserves.accept _).bind (fun _ => .journal_load _) session .refl
  | loadFont glyphs =>
      rw [Command.perform, leaves_reply]
      exact (Preserves.accept _).bind (fun _ => (Preserves.journal_onState _).bind fun _ =>
        .journal_change _) session .refl
  | advanceTimers => exact Agree.refl.push rfl
  | syncKeys keys =>
      rw [Command.perform, leaves_reply]
      exact agree_syncKeys sound keys
  | holdKey key pressed =>
      rw [Command.perform, leaves_reply]
      exact Preserves.look.bind (fun _ => (Preserves.accept _).bind fun _ =>
        (Preserves.journal_change _).bind fun _ => .journal_emit rfl) session .refl
  | reset => exact absurd rfl kept
  | step => exact absurd rfl idle
  | tick _ | frame _ _ | run _ _ _ => cases elementary

/-- **Loads, timers and keys leave the books alone.** -/
lemma aside_perform {session : Session} (sound : session.machine.Sound) {command : Command}
    (elementary : command.isElementary = true) (kept : command ≠ .reset) (idle : command ≠ .step) :
    Aside session (session.after command.perform) := by
  have journal := agree_perform sound elementary kept idle
  have moved := Session.move_after elementary session
  generalize after : (session.after command.perform).machine = machine at moved
  cases moved with
  | stored | clocked | held | sensed | resolved =>
      refine ⟨⟨?_, ?_, ?_, journal⟩, ?_, ?_⟩ <;> rw [after] <;> rfl
  | cleared => exact absurd rfl kept
  | idled | executed => exact absurd rfl idle

/-! ## Steps -/

/-- What a step has done by the time its entry is recorded and shown. -/
structure Charged (before : Session) (entry : Entry) (after : Session) : Prop
    extends Kept before after where
  stamp : entry.cycle = before.machine.state.cycleCount
  cycles : after.machine.state.cycleCount =
    before.machine.state.cycleCount + if entry.isCounted then 1 else 0
  faults : after.machine.faults = entry.fault.elim before.machine.faults
    fun fault => before.machine.faults.record fault.kind
  told : entry.error = entry.fault.map Fault.note

section

variable {session left : Session} {entry : Entry}

lemma agree_reported {journal : Journal} (agree : Agree journal session.journal) (fault : Fault) :
    Agree journal (session.reported fault).journal := agree.push rfl

lemma agree_ready (word : Int) : Agree session.journal (session.ready word).journal := by
  have decoded : Agree session.journal
      (session.logged (.decoded session.machine.state.pc (.ofOpcode word))).journal :=
    Agree.refl.push rfl
  have warned (warning : Option Fault) : Agree session.journal
      ((session.logged (.decoded session.machine.state.pc (.ofOpcode word))).warned warning).journal := by
    cases warning with
    | none => exact decoded
    | some fault => exact agree_reported decoded fault
  rw [Session.ready, Session.drawn]
  split_ifs <;> exact warned _

lemma completed_journal (session : Session) (entry : Entry) :
    (session.completed entry).journal =
      if session.machine.hasObserver then
        (session.journal.push (.stepped entry)).push (.observed entry)
      else session.journal.push (.stepped entry) := by
  simp only [Session.completed, Session.logged]
  split_ifs <;> rfl

/-- **A step with an entry charges it and then completes it.** -/
theorem step_charged (sound : session.machine.Sound)
    (stepped : Machine.step.run session = .ok (some entry) left) :
    ∃ done, left = done.completed entry ∧ Charged session entry done := by
  have ended := Machine.step_end session
  rw [stepped] at ended
  cases ended with
  | lost running fault lost =>
      obtain rfl := Machine.fault_of_fetch lost
      refine ⟨_, rfl, ⟨⟨rfl, rfl, rfl, agree_reported .refl _⟩, rfl, ?_, rfl, rfl⟩⟩
      rw [Entry.isCounted_of_fault rfl (by exact nofun)]
      exact (Int.add_zero _).symm
  | ran running word fetched state run =>
      obtain ⟨-, rfl⟩ := Machine.execution_ran sound.state.shaped sound.listed run
      refine ⟨_, rfl, ⟨⟨by simp, by simp, by simp, agree_ready word⟩, rfl, ?_, ?_, rfl⟩⟩
      · rw [Entry.isCounted_of_warning rfl, if_pos rfl]
        exact congrArg (· + 1) (Kind.effect_cycleCount _ _ _ _ _)
      · simp [Machine.entryOf]
  | met running word fetched fault state run =>
      obtain ⟨met, rfl⟩ := Machine.execution_met sound.state.shaped sound.listed run
      have known : fault.kind ≠ .unknownOpcode ∧ fault.report = fault.note := by
        rcases Kind.fault?_cases met with ⟨-, rfl⟩ | ⟨-, rfl⟩ <;> exact ⟨nofun, rfl⟩
      refine ⟨_, rfl,
        ⟨⟨by simp, by simp, by simp, agree_reported (agree_ready word) fault⟩, rfl, ?_, ?_,
          congrArg some known.2⟩⟩
      · rw [Entry.isCounted_of_fault rfl known.1]
        exact (Int.add_zero _).symm
      · simp [Machine.entryOf, Machine.warning?_of_fault? met]

end

/-- **What holds of a session and of its entries** is kept by an elementary operation if a reset keeps it,
if it does not depend on more than the books, and if a step that was charged keeps it when it is
completed. -/
theorem Session.books_perform {property : Session → List Entry → Prop} {session : Session}
    {entries : List Entry} (sound : session.machine.Sound) (holds : property session entries)
    (reset : (session.after Machine.reset).machine.Sound → property (session.after Machine.reset) [])
    (aside : ∀ {left}, left.machine.Sound → Aside session left → property left entries)
    (completed : ∀ {done entry}, (done.completed entry).machine.Sound → Charged session entry done →
      property (done.completed entry) (entries ++ [entry]))
    {command : Command} (elementary : command.isElementary = true) :
    property (session.after command.perform) (session.entriesAfter entries command) := by
  have kept := sound_after sound elementary
  by_cases cleared : command = .reset
  · subst cleared
    exact reset kept
  by_cases idle : command = .step
  · subst idle
    rw [entriesAfter]
    rcases entry?_cases sound.complete with ⟨absent, same⟩ | ⟨entry, stepped, given⟩
    · rw [absent, same]
      simpa using holds
    · obtain ⟨done, after, charged⟩ := step_charged sound stepped
      rw [after] at kept
      rw [given, after]
      exact completed kept charged
  · have same : session.entriesAfter entries command = entries := by
      cases command <;> first | rfl | contradiction
    rw [same]
    exact aside kept (aside_perform sound elementary cleared idle)

/-! ## The last values -/

/-- One more value: what was the end of a list is the end of the longer one. -/
lemma Recent.toList_push_rtake {α : Type} {recent : Recent α} {values : List α}
    (kept : recent.toList = values.rtake recent.bound) (value : α) :
    (recent.push value).toList = (values ++ [value]).rtake recent.bound := by
  have size : recent.size = values.length - (values.length - recent.bound) := by
    rw [← List.length_drop]
    exact congrArg List.length kept
  rw [Recent.toList_push, kept, size, List.rtake, List.rtake, List.length_append,
    List.length_singleton, ← List.drop_append_of_le_length (Nat.sub_le _ _), List.drop_drop]
  congr 1
  omega

lemma Recent.bound_push {α : Type} (recent : Recent α) (value : α) :
    (recent.push value).bound = recent.bound := by
  rw [Recent.push]
  split_ifs <;> rfl

lemma eq_of_extent {negative : Error} {asked : Int} {amount : Nat}
    (bounded : extent negative asked = .ok amount) : amount = asked.toNat := by
  by_cases fits : asked < -indexLimit ∨ indexLimit ≤ asked
  · simp [extent, checkExtent, fits] at bounded
    cases bounded
  · by_cases below : asked < 0
    · simp [extent, checkExtent, fits, below] at bounded
      cases bounded
    · simp [extent, checkExtent, fits, below] at bounded
      cases bounded
      rfl

/-! ## Books that are right -/

/-- The books of a machine are right, given the entries since the last reset. -/
structure Accounts (settings : Settings) (session : Session) (entries : List Entry) : Prop where
  sound : session.machine.Sound
  tracing : session.machine.tracing = settings.tracing
  hasObserver : session.machine.hasObserver = settings.hasObserver
  bound : session.machine.trace.bound = settings.traceBound.toNat
  cycles : session.machine.state.cycleCount = entries.countP Entry.isCounted
  faults : ∀ kind, session.machine.faults.count kind = entries.countP (·.faultKind? = some kind)
  /-- An entry says what its fault was, if it had one. -/
  told : ∀ entry ∈ entries, entry.error = entry.fault.map Fault.note
  /-- An entry bears the number of instructions before it. -/
  stamps : ∀ (position : Nat) (inside : position < entries.length),
    entries[position].cycle = (entries.take position).countP Entry.isCounted
  trace : session.machine.trace.toList =
    if settings.tracing then entries.rtake settings.traceBound.toNat else []
  stepped : steppedEntries (sinceReset session.journal) = entries
  observed : observedEntries (sinceReset session.journal) =
    if settings.hasObserver then entries else []

namespace Accounts

variable {settings : Settings} {session left : Session} {entries : List Entry}

lemma create {machine : Machine} (created : Machine.create settings = .ok machine) :
    Accounts settings { machine } [] := by
  have sound := Machine.create_sound created
  obtain ⟨traceBound, font, bound, -, rfl⟩ := Machine.create_eq_ok_iff.1 created
  exact
    { sound
      tracing := rfl
      hasObserver := rfl
      bound := eq_of_extent bound
      cycles := rfl
      faults := fun _ => rfl
      told := List.forall_mem_nil _
      stamps := fun _ inside => nomatch inside
      trace := by rw [List.rtake_nil, ite_self]; rfl
      stepped := rfl
      observed := by rw [ite_self]; rfl }

lemma aside (accounts : Accounts settings session entries) (aside : Aside session left)
    (sound : left.machine.Sound) : Accounts settings left entries where
  sound
  tracing := aside.tracing.trans accounts.tracing
  hasObserver := aside.hasObserver.trans accounts.hasObserver
  bound := by rw [aside.trace, accounts.bound]
  cycles := aside.cycles.trans accounts.cycles
  faults := by rw [aside.faults]; exact accounts.faults
  told := accounts.told
  stamps := accounts.stamps
  trace := by rw [aside.trace, accounts.trace]
  stepped := aside.journal.stepped.trans accounts.stepped
  observed := aside.journal.observed.trans accounts.observed

/-- A reset starts new books. -/
lemma reset (accounts : Accounts settings session entries) (sound : session.machine.cleared.Sound) :
    Accounts settings (session.after Machine.reset) [] where
  sound
  tracing := accounts.tracing
  hasObserver := accounts.hasObserver
  bound := accounts.bound
  cycles := rfl
  faults := fun _ => rfl
  told := List.forall_mem_nil _
  stamps := fun _ inside => nomatch inside
  trace := by rw [List.rtake_nil, ite_self]; rfl
  stepped := congrArg steppedEntries (sinceReset_push_reset session.journal)
  observed := by
    rw [ite_self]
    exact congrArg observedEntries (sinceReset_push_reset session.journal)

lemma completed {entry : Entry} (accounts : Accounts settings session entries)
    (charged : Charged session entry left) (sound : (left.completed entry).machine.Sound) :
    Accounts settings (left.completed entry) (entries ++ [entry]) where
  sound
  tracing := by
    rw [Session.completed_machine]
    exact charged.tracing.trans accounts.tracing
  hasObserver := by
    rw [Session.completed_machine]
    exact charged.hasObserver.trans accounts.hasObserver
  bound := by
    rw [Session.completed_machine, charged.trace]
    split_ifs
    · exact (Recent.bound_push _ _).trans accounts.bound
    · exact accounts.bound
  cycles := by
    rw [Session.completed_machine]
    dsimp only
    rw [charged.cycles, accounts.cycles, List.countP_append, List.countP_singleton]
    split_ifs <;> simp
  faults := by
    intro kind
    rw [Session.completed_machine]
    dsimp only
    rw [charged.faults, List.countP_append, List.countP_singleton, ← accounts.faults,
      Entry.faultKind?]
    cases entry.fault with
    | none => rfl
    | some fault => simp [FaultCounts.count_record, eq_comm]
  told := by
    intro step member
    rcases List.mem_append.1 member with earlier | last
    · exact accounts.told step earlier
    · rw [List.mem_singleton.1 last]
      exact charged.told
  stamps := by
    intro position inside
    rw [List.length_append, List.length_singleton] at inside
    rcases Nat.lt_succ_iff_lt_or_eq.1 inside with before | rfl
    · rw [List.getElem_append_left before, List.take_append_of_le_length before.le]
      exact accounts.stamps position before
    · rw [List.getElem_concat_length rfl, List.take_left, charged.stamp, accounts.cycles]
  trace := by
    rw [Session.completed_machine, charged.trace, charged.tracing, accounts.tracing]
    have trace := accounts.trace
    split_ifs with tracing
    · rw [if_pos tracing, ← accounts.bound] at trace
      rw [← accounts.bound]
      exact Recent.toList_push_rtake trace entry
    · rw [if_neg tracing] at trace
      exact trace
  stepped := by
    have stepped := charged.journal.stepped.trans accounts.stepped
    rw [completed_journal]
    split_ifs <;> simp [sinceReset_push, steppedEntries_push, stepped, Event.steppedEntry?]
  observed := by
    have observed := charged.journal.observed.trans accounts.observed
    rw [completed_journal, charged.hasObserver, accounts.hasObserver]
    split_ifs at observed ⊢ <;>
      simp [sinceReset_push, observedEntries_push, observed, Event.observedEntry?]

/-- **Every elementary operation keeps the books right.** -/
theorem perform (accounts : Accounts settings session entries) {command : Command}
    (elementary : command.isElementary = true) :
    Accounts settings (session.after command.perform) (session.entriesAfter entries command) :=
  Session.books_perform accounts.sound accounts (fun sound => accounts.reset sound)
    (fun sound aside => accounts.aside aside sound)
    (fun sound charged => accounts.completed charged sound) elementary

/-- The books are right whatever has been done to a machine since it was created. -/
theorem reached {machine : Machine} (created : Machine.create settings = .ok machine)
    (commands : List Command) :
    Accounts settings (Session.performAll { machine } commands)
      (({ machine } : Session).entries commands) :=
  Session.entries_keeps (Accounts settings) (fun _ _ _ elementary accounts => accounts.perform elementary)
    (create created) commands

end Accounts

/-- **The books are right after every run.**  Cycles and faults other than unknown words add up to the
entries since the last reset, and each kind of fault was counted as often as they tell of it.  An entry
has an error text if and only if it has a fault, and it bears the number of instructions executed before
it.  The trace holds the last entries, as many as its bound allows, and the observer was shown all of
them. -/
theorem step_accounting {settings : Settings} {machine : Machine}
    (created : Machine.create settings = .ok machine) (commands : List Command) :
    let session : Session := { machine }
    let entries := session.entries commands
    let reached := session.performAll commands
    let count := reached.machine.faults.count
    reached.machine.state.cycleCount + count .badPc + count .stackOverflow + count .stackUnderflow =
        entries.length ∧
      (∀ kind, count kind = entries.countP fun entry => entry.faultKind? = some kind) ∧
      (∀ entry ∈ entries, entry.error.isSome ↔ entry.fault.isSome) ∧
      (∀ (position : Nat) (inside : position < entries.length),
        entries[position].cycle = (entries.take position).countP Entry.isCounted) ∧
      reached.machine.trace.toList =
        (if settings.tracing then entries.rtake (min entries.length settings.traceBound.toNat) else []) ∧
      observedEntries (sinceReset reached.journal) = (if settings.hasObserver then entries else []) ∧
      steppedEntries (sinceReset reached.journal) = entries := by
  intro session entries reached count
  have accounts : Accounts settings reached entries := .reached created commands
  refine ⟨?_, accounts.faults, fun entry member => ?_, accounts.stamps, ?_, accounts.observed,
    accounts.stepped⟩
  · have balance := countP_isCounted entries
    have cycles := accounts.cycles
    have faults (kind : FaultKind) : count kind = entries.countP (·.faultKind? = some kind) :=
      accounts.faults kind
    rw [cycles, faults, faults, faults, ← balance]
    push_cast
    rfl
  · rw [accounts.told entry member, Option.isSome_map]
  · have whole : entries.rtake (min entries.length settings.traceBound.toNat) =
        entries.rtake settings.traceBound.toNat := by
      rw [List.rtake, List.rtake]
      congr 1
      omega
    rw [whole]
    exact accounts.trace

/-- An unknown word and then returns from nowhere, with room for two entries. -/
theorem step_accounting_bounded :
    ∃ machine, Machine.create
        { random := .sequence (fun _ => 0) 0, glyphs := [], tracing := true, traceBound := 2
          hasObserver := true } = .ok machine ∧
      let commands : List Command := [.load [0x5AB1, 0x00EE], .step, .run 1 3 none]
      let entries := ({ machine } : Session).entries commands
      let reached := Session.performAll { machine } commands
      entries.map (·.cycle) = [0, 1, 1, 1] ∧
        (reached.machine.state.cycleCount = 1 ∧ reached.machine.faults.count .stackUnderflow = 3 ∧
          reached.machine.trace.toList.map (·.cycle) = [1, 1]) ∧
        observedEntries (sinceReset reached.journal) = entries := by
  have created : Machine.create
      { random := .sequence (fun _ => 0) 0, glyphs := [], tracing := true, traceBound := 2
        hasObserver := true } = .ok _ := rfl
  refine ⟨_, created, ?_⟩
  intro commands entries reached
  obtain ⟨-, -, -, -, -, observed, -⟩ := step_accounting created commands
  have cycles : entries.map (·.cycle) = [0, 1, 1, 1] := by
    unfold entries commands
    decide +kernel
  refine ⟨cycles, ?_, observed.trans (if_pos rfl)⟩
  unfold reached commands
  decide +kernel

end Chip8
