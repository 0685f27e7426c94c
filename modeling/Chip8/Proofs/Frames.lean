import Chip8.Proofs.HeldKeys
import Chip8.Proofs.Lockstep

/-!
# Frames and runs, put together from steps

A frame stops at the first step without an entry, and a run tells every frame the same keys.  Neither
matters: a machine that is suspended stays so until somebody looks at the keys, so the steps that a frame
saves would have done nothing; and keys that were told once need not be told again.  Frames are steps one
after the other, and runs are frames one after the other, wherever they are cut.

* `Machine.frameInFull` — a frame that attempts all its steps; `frame_eq`, `frame_one` — frames and ticks.
* `Machine.runTold` — a run in which every frame has a report of its own; `run_eq_runTold`,
  **`runTold_append`** — runs are such runs, and these can be cut anywhere.
* `Likeness.sameMachine`, `SameSettled` — sessions that differ in their journals only.
* `Repeats`, **`runTold_repeats`** — later frames may leave out what the first one was told.
* `Composed`, **`frames_compose`** — frames, ticks and runs as compositions.
-/

namespace Chip8

/-! ## Frames and ticks -/

namespace Machine

/-- A frame that attempts all its steps, however they turn out. -/
def frameInFull (keys : Option HostReport) (steps : Int) : Operation (List (Option Entry)) := do
  advanceTimers
  let _ ← syncKeys keys
  stepAll steps.toNat

lemma frame_eq (keys : Option HostReport) (steps : Int) :
    frame keys steps = do
      let answers ← frameInFull keys steps
      return answers.countP Option.isSome := by
  simp only [frame, frameInFull, stepUpTo_eq, Nat.zero_add, bind_assoc]

/-- A tick is a frame of one step. -/
lemma frame_one (keys : Option HostReport) :
    frame keys 1 = do
      let entry ← tick keys
      return entry.isSome.toNat := by
  have single : stepUpTo 0 1 = do
      let entry ← step
      return entry.isSome.toNat := by
    rw [stepUpTo]
    congr 1
    funext answer
    cases answer <;> rfl
  simp only [frame, tick, Int.toNat_one, single, bind_assoc]

/-! ## Runs frame by frame -/

/-- Frames, each with a report of its own. -/
def framesTold (steps : Int) : List (Option HostReport) → Operation Unit
  | [] => return
  | keys :: later => do
    let _ ← frame keys steps
    framesTold steps later

/-- A run in which every frame has a report of its own; the answer is the trace. -/
def runTold (told : List (Option HostReport)) (steps : Int) : Operation (List Entry) := do
  framesTold steps told
  return (← look).trace.toList

lemma framesTold_replicate (keys : Option HostReport) (steps : Int) (count : Nat) :
    framesTold steps (List.replicate count keys) = frames keys steps count := by
  induction count with
  | zero => rfl
  | succ count ih => rw [List.replicate_succ, framesTold, frames, ih]

lemma framesTold_append (steps : Int) (first second : List (Option HostReport)) :
    framesTold steps (first ++ second) =
      (framesTold steps first >>= fun _ => framesTold steps second) := by
  induction first with
  | nil => rfl
  | cons keys later ih => rw [List.cons_append, framesTold, framesTold, ih, bind_assoc]

/-- A run tells all its frames the same. -/
lemma run_eq_runTold (count steps : Int) (keys : Option HostReport) :
    run count steps keys = runTold (List.replicate count.toNat keys) steps := by
  rw [run, runTold, framesTold_replicate]

/-- **A run can be cut between any two of its frames.** -/
theorem runTold_append (first second : List (Option HostReport)) (steps : Int) :
    runTold (first ++ second) steps =
      (runTold first steps >>= fun _ => runTold second steps) := by
  simp only [runTold, framesTold_append, bind_assoc, pure_bind]
  rfl

lemma run_add {first second : Int} (some_first : 0 ≤ first) (some_second : 0 ≤ second) (steps : Int)
    (keys : Option HostReport) :
    run (first + second) steps keys =
      (run first steps keys >>= fun _ => run second steps keys) := by
  rw [run_eq_runTold, run_eq_runTold, run_eq_runTold, ← runTold_append,
    Int.toNat_add some_first some_second, List.replicate_add]

end Machine

/-! ## Sessions that differ in their journals -/

/-- What two computations in lockstep share, and what the first of them keeps besides. -/
lemma Lockstep.keeping {σ α β : Type} {related : σ → σ → Prop} {agree : α → β → Prop}
    {property : σ → Prop} {first : EStateM Error σ α} {second : EStateM Error σ β}
    (same : Lockstep related agree first second) (kept : Preserves property first) :
    Lockstep (fun state twin => related state twin ∧ property state) agree first second := by
  rintro state twin ⟨alike, holds⟩
  have ended := same state twin alike
  have kept := kept state holds
  rw [leaves] at kept
  generalize first.run state = outcome, second.run twin = outcome' at ended kept ⊢
  cases ended with
  | ok answers states => exact .ok answers ⟨states, kept⟩
  | error states => exact .error ⟨states, kept⟩

/-- Sessions of which only the journals differ. -/
def Likeness.sameMachine : Likeness where
  state := Eq
  recording recording twin := twin = { recording with journal := twin.journal }
  entry := Eq

namespace Likeness

variable {session twin : Session}

lemma sameMachine_iff : sameMachine.Holds session twin ↔ twin.machine = session.machine := by
  constructor
  · rintro ⟨state, recording, around⟩
    obtain ⟨⟨⟩, _⟩ := session
    obtain ⟨⟨⟩, _⟩ := twin
    cases state
    cases recording
    cases around
    rfl
  · intro same
    refine ⟨congrArg Machine.state same.symm, ?_, congrArg Machine.surroundings same⟩
    change twin.recording = { session.recording with journal := twin.journal }
    rw [Session.recording, Session.recording, same]

lemma sameMachine_seen {machine other : Machine} (seen : sameMachine.Seen machine other) :
    other = machine := by
  obtain ⟨session, twin, holds, rfl, rfl⟩ := seen
  exact sameMachine_iff.1 holds

lemma sameMachine_lawful : sameMachine.Lawful := by
  refine .of_same_state ?_ ?_ ?_ ?_
  · intro recording twin event same
    rw [same]
    rfl
  · intro recording twin same
    rw [same]
  · rintro recording twin entry _ same rfl
    rw [same]
    rfl
  · intro before before' after after' start final cycle pc decoding error fault
    rw [sameMachine_seen start, sameMachine_seen final]

end Likeness

/-! ## Reports that are left out -/

section

variable {keys : Option HostReport} {steps : Int}

/-- Where keys have settled, no report says as much as the same report again. -/
lemma Settled.unreported {session : Session} (settled : Settled keys session) : Settled none session :=
  ⟨settled.complete, rfl, settled.mirrored⟩

lemma Settled.preserves_step : Preserves (Settled keys) Machine.step := by
  intro session settled
  have kept := settled.perform (.inr (.inl rfl))
  rwa [Session.after_step, Session.after_eq_leaves] at kept

lemma Settled.preserves_stepUpTo (taken count : Nat) :
    Preserves (Settled keys) (Machine.stepUpTo taken count) := by
  induction count generalizing taken with
  | zero => exact .pure taken
  | succ count ih =>
      refine Settled.preserves_step.bind fun answer => ?_
      cases answer with
      | some entry => exact ih _
      | none => exact .pure taken

/-- The sessions differ in their journals only, and their keys have settled. -/
def SameSettled (keys : Option HostReport) (session twin : Session) : Prop :=
  Likeness.sameMachine.Holds session twin ∧ Settled keys session

/-- A report that is repeated may as well be left out. -/
lemma syncKeys_unreported {other : Option HostReport} (repeats : other = keys ∨ other = none) :
    Lockstep (SameSettled keys) Eq (Machine.syncKeys keys) (Machine.syncKeys other) := by
  rintro session twin ⟨alike, settled⟩
  have same := Likeness.sameMachine_iff.1 alike
  have settled' : Settled other twin := by
    have moved : Settled keys twin :=
      ⟨same ▸ settled.complete, same ▸ settled.repeated, same ▸ settled.mirrored⟩
    rcases repeats with rfl | rfl
    · exact moved
    · exact moved.unreported
  obtain ⟨left, run, kept⟩ := settled.sync
  obtain ⟨left', run', kept'⟩ := settled'.sync
  rw [run, run']
  refine .ok rfl ⟨Likeness.sameMachine_iff.2 ?_, ?_⟩
  · rw [kept, kept', same]
  · exact ⟨kept ▸ settled.complete, kept ▸ settled.repeated, kept ▸ settled.mirrored⟩

lemma frame_unreported {other : Option HostReport} (repeats : other = keys ∨ other = none) (steps : Int) :
    Lockstep (SameSettled keys) Eq (Machine.frame keys steps) (Machine.frame other steps) := by
  have lawful := Likeness.sameMachine_lawful
  have clocked : Preserves (Settled keys) Machine.advanceTimers :=
    fun _ settled => settled.perform (.inl rfl)
  refine (lawful.advanceTimers.keeping clocked).bind_eq fun _ => ?_
  refine (syncKeys_unreported repeats).bind_eq fun _ => ?_
  exact (lawful.stepUpTo _ _).keeping (Settled.preserves_stepUpTo _ _)

lemma framesTold_unreported {told : List (Option HostReport)}
    (repeats : ∀ other ∈ told, other = keys ∨ other = none) (steps : Int) :
    Lockstep (SameSettled keys) Eq (Machine.frames keys steps told.length)
      (Machine.framesTold steps told) := by
  induction told with
  | nil => exact .pure rfl
  | cons other later ih =>
      have here := frame_unreported (repeats other List.mem_cons_self) steps
      exact here.bind_eq fun _ => ih fun next member => repeats next (List.mem_cons_of_mem _ member)

/-! ### Frames of a machine that lacks nothing -/

/-- The first report may be any; later frames repeat it or tell nothing. -/
structure Repeats (keys : Option HostReport) (told : List (Option HostReport)) : Prop where
  first : ∀ other ∈ told.head?, other = keys
  later : ∀ other ∈ told.tail, other = keys ∨ other = none

variable {session : Session} (complete : session.machine.Complete)
  (accepted : ∀ report ∈ keys, report.Accepted)
include complete accepted

/-- After a frame the keys have settled. -/
lemma frame_settles (steps : Int) :
    ∃ count left, (Machine.frame keys steps).run session = .ok count left ∧ Settled keys left := by
  have returns : Returns (Command.frame keys steps).perform session :=
    clockwork_returns complete accepted rfl
  obtain ⟨count, left, ran⟩ := (returns_reply _ _).1 returns
  refine ⟨count, left, ran, ?_⟩
  have clocked : session.clocked.machine.Complete :=
    complete_invariant .advanceTimers _ _ complete .clocked
  have synced := Settled.start clocked accepted
  obtain ⟨resolved, told, run⟩ := syncKeys_returns clocked accepted
  rw [Session.after_of_ok run] at synced
  have kept := Settled.preserves_stepUpTo 0 steps.toNat told synced
  rw [Machine.frame, EStateM.run_bind, Machine.advanceTimers_run] at ran
  dsimp only at ran
  rw [EStateM.run_bind, run] at ran
  rwa [leaves_of_ok ran] at kept

/-- **A run may leave out what its first frame has been told.** -/
theorem runTold_repeats {told : List (Option HostReport)} (repeats : Repeats keys told) (steps : Int) :
    ∃ trace left other, (Machine.run told.length steps keys).run session = .ok trace left ∧
      (Machine.runTold told steps).run session = .ok trace other ∧ other.machine = left.machine := by
  have returns : Returns (Command.run told.length steps keys).perform session :=
    clockwork_returns complete accepted rfl
  obtain ⟨trace, left, ran⟩ := (returns_reply _ _).1 returns
  have alike : Corresponds Likeness.sameMachine.Holds Eq
      ((Machine.frames keys steps told.length).run session)
      ((Machine.framesTold steps told).run session) := by
    cases told with
    | nil => exact .ok rfl (Likeness.sameMachine_iff.2 rfl)
    | cons first later =>
        obtain rfl := repeats.first first rfl
        obtain ⟨count, middle, framed, settled⟩ := frame_settles complete accepted steps
        have rest := framesTold_unreported repeats.later steps middle middle
          ⟨Likeness.sameMachine_iff.2 rfl, settled⟩
        rw [List.length_cons, Machine.frames, Machine.framesTold, EStateM.run_bind, EStateM.run_bind,
          framed]
        dsimp only
        exact rest.imp fun _ _ => And.left
  rw [Machine.run, Int.toNat_natCast, EStateM.run_bind] at ran
  rw [Machine.run, Machine.runTold, EStateM.run_bind, EStateM.run_bind, Int.toNat_natCast]
  generalize (Machine.frames keys steps told.length).run session = outcome,
    (Machine.framesTold steps told).run session = outcome' at alike ran ⊢
  cases alike with
  | @ok _ _ left twin _ states =>
      have same := Likeness.sameMachine_iff.1 states
      refine ⟨left.machine.trace.toList, left, twin, rfl, ?_, same⟩
      rw [← same]
      rfl
  | error _ => cases ran

end

/-! ## Frames, ticks and runs -/

/-- Frames, ticks and runs of a session are put together from timers, keys and steps. -/
structure Composed (session : Session) (keys : Option HostReport) (steps : Int) : Prop where
  /-- A frame advances the timers, brings the keys up to date and attempts all its steps; it counts
  those with an entry. -/
  frame : ∃ answers left, (Machine.frameInFull keys steps).run session = .ok answers left ∧
    (Machine.frame keys steps).run session = .ok (answers.countP Option.isSome) left
  /-- A tick is a frame of one step. -/
  tick : ∃ entry left, (Machine.tick keys).run session = .ok entry left ∧
    (Machine.frame keys 1).run session = .ok entry.isSome.toNat left
  /-- A run is one run after the other. -/
  run : ∀ first second : Int, 0 ≤ first → 0 ≤ second → ∃ trace left,
    (Machine.run (first + second) steps keys).run session = .ok trace left ∧
    (do
      let _ ← Machine.run first steps keys
      Machine.run second steps keys : Operation (List Entry)).run session = .ok trace left
  /-- Frames behind the first one may leave the report out, wherever the run is cut. -/
  told : ∀ first second : List (Option HostReport), Repeats keys (first ++ second) → ∃ trace left other,
    (Machine.run (first.length + second.length) steps keys).run session = .ok trace left ∧
    (do
      let _ ← Machine.runTold first steps
      Machine.runTold second steps : Operation (List Entry)).run session = .ok trace other ∧
    other.machine = left.machine

/-- **Frames are plain compositions of steps, and runs of frames.**  This holds for every machine that
lacks nothing, whatever its state, its trace and its random supply are, for every report that is accepted
or none, and for all numbers of frames and steps. -/
theorem frames_compose (session : Session) (keys : Option HostReport) (steps : Int)
    (complete : session.machine.Complete) (accepted : ∀ report ∈ keys, report.Accepted) :
    Composed session keys steps where
  frame := by
    obtain ⟨count, left, ran, -⟩ := frame_settles complete accepted steps
    rw [Machine.frame_eq] at ran ⊢
    obtain ⟨answers, run, rfl⟩ := run_of_map ran
    exact ⟨answers, left, run, ran⟩
  tick := by
    obtain ⟨count, left, ran, -⟩ := frame_settles complete accepted 1
    rw [Machine.frame_one] at ran ⊢
    obtain ⟨entry, run, rfl⟩ := run_of_map ran
    exact ⟨entry, left, run, ran⟩
  run := by
    intro first second some_first some_second
    have returns : Returns (Command.run (first + second) steps keys).perform session :=
      clockwork_returns complete accepted rfl
    obtain ⟨trace, left, ran⟩ := (returns_reply _ _).1 returns
    refine ⟨trace, left, ran, ?_⟩
    rwa [Machine.run_add some_first some_second] at ran
  told := by
    intro first second repeats
    rw [← Machine.runTold_append, ← Nat.cast_add, ← List.length_append]
    exact runTold_repeats complete accepted repeats steps

/-- Key 5 is held, and the second step of the first frame waits for a key in `V3`.  Three frames of three
steps, of which the later ones are told nothing, are cut behind the second one. -/
theorem frames_compose_waiting :
    ∃ session, Composed session (some (.changes [(5, true)])) 3 ∧
      ∃ trace left other,
        (Machine.run 3 3 (some (.changes [(5, true)]))).run session = .ok trace left ∧
        (do
          let _ ← Machine.runTold [some (.changes [(5, true)]), none] 3
          Machine.runTold [none] 3 : Operation (List Entry)).run session = .ok trace other ∧
        other.machine = left.machine ∧ left.machine.ticks = 3 ∧ left.machine.state.cycleCount = 2 ∧
        left.machine.state.mode = .awaitingKey 3 := by
  have accepted : ∀ report ∈ some (HostReport.changes [(5, true)]), report.Accepted := by
    rintro report ⟨⟩ entry member
    rw [List.mem_singleton.1 member]
    decide
  obtain ⟨session, complete, ticks, cycles, waiting⟩ : ∃ session : Session,
      session.machine.Complete ∧
      let left := session.after (Machine.run 3 3 (some (.changes [(5, true)])))
      left.machine.ticks = 3 ∧ left.machine.state.cycleCount = 2 ∧
        left.machine.state.mode = .awaitingKey 3 := by
    refine ⟨
      { machine := { Machine.ofSettings { random := .sequence (fun _ => 0) 0 } 0 .standard with
          state := { memory := (Memory.zeroed memorySize).writeBlock 0x200 [0x63, 1, 0xF3, 0x0A] } } },
      ⟨⟨by simp [Memory.zeroed], rfl, rfl⟩, Kind.mem_all, nofun⟩, ?_⟩
    decide +kernel
  have composed := frames_compose session _ 3 complete accepted
  obtain ⟨trace, left, other, ran, told, same⟩ :=
    composed.told [some (.changes [(5, true)]), none] [none] ⟨by simp, by simp⟩
  have ran : (Machine.run 3 3 (some (.changes [(5, true)]))).run session = .ok trace left := ran
  obtain rfl := Session.after_of_ok ran
  exact ⟨session, composed, trace, _, other, ran, told, same, ticks, cycles, waiting⟩

end Chip8
