import Chip8.Proofs.Returns

/-!
# Ticks with a report that is refused

A tick moves the timers first and looks at the report of the keys second.  So a tick that is refused
for its report has already been a tick of the timers; it has been nothing else, and whoever repeats it
has to leave the timers out.

* `HostReport.refusal?` — what is wrong with a report; `Latch.report_error_iff` — a latch refuses it for
  this and for nothing else.
* `Session.clocked` — the session after a tick of the timers.
* `tick_refused`, `frame_refused`, `run_refused` — a bad report ends each of them there.
* **`refused_report_ticks_timers`** — all that a refused tick leaves behind, and how to go on.
-/

namespace Chip8

/-! ## Reports that are refused -/

/-- The number names no key. -/
def Key.isForeign (key : Int) : Bool := !decide (0 ≤ key ∧ key < keyCount)

lemma Key.isForeign_iff {key : Int} : Key.isForeign key = true ↔ ¬ (0 ≤ key ∧ key < keyCount) := by
  rw [isForeign, Bool.not_eq_true', decide_eq_false_iff_not]

/-- Why a report is refused: a list of states has the wrong length, or a list of changes names a key
that does not exist; of several the first one counts. -/
def HostReport.refusal? : HostReport → Option Error
  | .states pressed =>
    if pressed.length = keyCount then none else some (.keyVectorLength pressed.length)
  | .changes entries => (entries.find? fun entry => Key.isForeign entry.1).map (.invalidKey ·.1)

namespace Latch

lemma validChanges_refused {entries : List (Int × Bool)} {entry : Int × Bool}
    (first : entries.find? (fun entry => Key.isForeign entry.1) = some entry) :
    validChanges entries = .error (.invalidKey entry.1) := by
  induction entries with
  | nil => cases first
  | cons head rest ih =>
      obtain ⟨key, pressed⟩ := head
      by_cases foreign : Key.isForeign key = true
      · obtain rfl : (key, pressed) = entry := by simpa [List.find?_cons, foreign] using first
        have refused : Key.ofInt key = .error (.invalidKey key) :=
          dif_neg (Key.isForeign_iff.1 foreign)
        rw [validChanges, refused]
        rfl
      · have named : Key.ofInt key = .ok ⟨key.toNat, _⟩ :=
          dif_pos (not_not.1 (mt Key.isForeign_iff.2 foreign))
        have later : rest.find? (fun entry => Key.isForeign entry.1) = some entry := by
          simpa [List.find?_cons, foreign] using first
        rw [validChanges, named, ih later]
        rfl

lemma report_refused (latch : Latch) {report : HostReport} {error : Error}
    (refusal : report.refusal? = some error) : latch.report report = .error error := by
  cases report with
  | states pressed =>
      rw [HostReport.refusal?] at refusal
      split at refusal
      · cases refusal
      · next wrong =>
          obtain rfl : Error.keyVectorLength pressed.length = error := Option.some.inj refusal
          exact dif_neg wrong
  | changes entries =>
      obtain ⟨entry, first, rfl⟩ := Option.map_eq_some_iff.1 refusal
      rw [Latch.report, validChanges_refused first]
      rfl

end Latch

/-- What is not refused is accepted. -/
lemma HostReport.refusal?_eq_none {report : HostReport} : report.refusal? = none ↔ report.Accepted := by
  cases report with
  | states pressed => simp [refusal?, Accepted]
  | changes entries => simp [refusal?, Accepted, Key.isForeign]

/-- **A latch refuses a report for what is wrong with it**, whatever is held. -/
theorem Latch.report_error_iff {latch : Latch} {report : HostReport} {error : Error} :
    latch.report report = .error error ↔ report.refusal? = some error := by
  refine ⟨fun refused => ?_, latch.report_refused⟩
  cases refusal : report.refusal? with
  | none =>
      obtain ⟨after, taken⟩ := latch.report_accepted (HostReport.refusal?_eq_none.1 refusal)
      rw [taken] at refused
      cases refused
  | some cause =>
      rw [latch.report_refused refusal] at refused
      rw [Except.error.inj refused]

/-! ## Up to the refusal -/

/-- The session after a tick of the timers. -/
def Session.clocked (session : Session) : Session :=
  { session with
    machine := { session.machine with
      ticks := session.machine.ticks + 1
      state := session.machine.state.clocked } }.logged .ticked

namespace Machine

variable {session : Session} {report : HostReport} {error : Error}

lemma advanceTimers_run : advanceTimers.run session = .ok () session.clocked := rfl

/-- What a refused report does to an operation that starts with the timers and the keys. -/
lemma clock_and_sync_refused (refusal : report.refusal? = some error) {α : Type}
    (rest : Operation α) :
    (do
      advanceTimers
      let _ ← syncKeys (some report)
      rest : Operation α).run session = .error error session.clocked := by
  have refused : session.clocked.machine.latch.take (some report) = .error error :=
    Latch.report_error_iff.2 refusal
  rw [EStateM.run_bind, advanceTimers_run]
  dsimp only
  rw [EStateM.run_bind, syncKeys_run_refused refused]

lemma tick_refused (refusal : report.refusal? = some error) :
    (tick (some report)).run session = .error error session.clocked :=
  clock_and_sync_refused refusal _

lemma frame_refused (refusal : report.refusal? = some error) (steps : Int) :
    (frame (some report) steps).run session = .error error session.clocked :=
  clock_and_sync_refused refusal _

/-- A run is refused in its first frame. -/
lemma run_refused (refusal : report.refusal? = some error) {count : Int} (some_frame : 1 ≤ count)
    (steps : Int) : (run count steps (some report)).run session = .error error session.clocked := by
  obtain ⟨later, frames_eq⟩ : ∃ later, count.toNat = later + 1 := ⟨count.toNat - 1, by omega⟩
  rw [run, frames_eq, frames, EStateM.run_bind, EStateM.run_bind, frame_refused refusal]

end Machine

/-! ## What is left to do -/

/-- **A tick that is refused for its report has ticked the timers and nothing else.**  Ticks, frames and
runs all stop there, with the error that names what is wrong with the report.  Keys that are reported
later find the machine in the midst of the tick: synchronising and stepping completes it. -/
theorem refused_report_ticks_timers (session : Session) {report : HostReport}
    (refused : ¬ report.Accepted) :
    ∃ error left,
      report.refusal? = some error ∧
      (Machine.tick (some report)).run session = .error error left ∧
      (∀ steps, (Machine.frame (some report) steps).run session = .error error left) ∧
      (∀ frames steps, 1 ≤ frames →
        (Machine.run frames steps (some report)).run session = .error error left) ∧
      Machine.advanceTimers.run session = .ok () left ∧
      left.machine =
        { session.machine with
          ticks := session.machine.ticks + 1
          state := { session.machine.state with
            delayTimer := max 0 (session.machine.state.delayTimer - 1)
            soundTimer := max 0 (session.machine.state.soundTimer - 1) } } ∧
      ∀ keys,
        (do
          let _ ← Machine.syncKeys keys
          Machine.step : Operation (Option Entry)).run left = (Machine.tick keys).run session ∧
        ∀ steps,
          (do
            let _ ← Machine.syncKeys keys
            Machine.stepUpTo 0 steps.toNat : Operation Nat).run left =
              (Machine.frame keys steps).run session := by
  obtain ⟨error, refusal⟩ : ∃ error, report.refusal? = some error :=
    Option.ne_none_iff_exists'.1 fun granted => refused (HostReport.refusal?_eq_none.1 granted)
  refine ⟨error, session.clocked, refusal, Machine.tick_refused refusal, Machine.frame_refused refusal,
    fun frames steps some_frame => Machine.run_refused refusal some_frame steps,
    Machine.advanceTimers_run, rfl, fun keys => ⟨rfl, fun steps => rfl⟩⟩

/-- The standard machine with both timers set and a report that names a seventeenth key. -/
theorem refused_report_ticks_timers_seventeenth_key :
    ∃ machine, Machine.create { random := .sequence (fun draw => draw) 0 } = .ok machine ∧
      let state := { machine.state with delayTimer := 5, soundTimer := 0 }
      let report := HostReport.changes [(0x3, true), (0x10, true)]
      ¬ report.Accepted ∧ ∃ left,
        (Machine.run 2 3 (some report)).run { machine := { machine with state } } =
          .error (.invalidKey 0x10) left ∧
        left.machine =
          { machine with ticks := 1, state := { state with delayTimer := 4 } } := by
  refine ⟨_, rfl, ?_⟩
  intro state report
  have refused : ¬ report.Accepted := by
    intro accepted
    have := accepted (0x10, true) (by simp)
    revert this
    decide
  obtain ⟨error, left, refusal, -, -, ran, -, after, -⟩ := refused_report_ticks_timers _ refused
  have named : report.refusal? = some (.invalidKey 0x10) := by decide
  obtain rfl : error = .invalidKey 0x10 := Option.some.inj (refusal.symm.trans named)
  exact ⟨refused, left, ran 2 3 (by decide), after⟩

/-- A refused tick does not leave the machine as it was: the tick counter and the delay timer have
moved. -/
theorem refused_report_moves_timers :
    ∃ machine, Machine.create { random := .sequence (fun draw => draw) 0 } = .ok machine ∧
      let session : Session := { machine := { machine with
        state := { machine.state with delayTimer := 5 } } }
      ∃ left, (Machine.tick (some (.states [true]))).run session =
          .error (.keyVectorLength 1) left ∧
        session.machine.ticks = 0 ∧ session.machine.state.delayTimer = 5 ∧
        left.machine.ticks = 1 ∧ left.machine.state.delayTimer = 4 :=
  ⟨_, rfl, _, Machine.tick_refused rfl, rfl, rfl, rfl, rfl⟩

end Chip8
