import Chip8.Proofs.Accounting
import Chip8.Proofs.Keypad
import Chip8.Proofs.Refusal

/-!
# The timers as ticks and settings tell them

A timer is set by its own instruction and counted down by the host's clock, and nothing else touches it:
not the number of instructions that are executed in between, nor faults, nor a wait for a key.  So its
value is that of the last setting less the ticks since then, and zero once they have used it up.

* `Timing` — what can happen to the timers; `Session.timings` — what has happened since the last reset.
* `Timer.lastSet`, `Timer.advancesSince` — the last setting of a timer, and the ticks after it.
* `Kind.effect_timer`, `step_timers` — a step sets a timer or leaves it alone, and its entry tells which.
* `Timed`, `Timed.perform` — the timings tell the timers, and every operation keeps it so.
* **`timers_count_ticks`** — both timers and the tick counter after every run.
-/

namespace Chip8

/-! ## Timers and what happens to them -/

/-- The two timers. -/
inductive Timer where
  | delay
  | sound
  deriving DecidableEq, Repr

/-- The value of a timer. -/
def Timer.value (state : State) : Timer → Int
  | delay => state.delayTimer
  | sound => state.soundTimer

lemma Timer.value_counted (timer : Timer) (state : State) :
    timer.value state.counted = timer.value state := by
  cases timer <;> rfl

/-- The kind of instruction that sets a timer. -/
def Timer.setter : Timer → Kind
  | delay => .setDelay
  | sound => .setSound

/-- What happens to the timers. -/
inductive Timing where
  /-- Both were counted down. -/
  | advanced
  /-- An instruction has set one of them. -/
  | set (timer : Timer) (value : Int)
  deriving DecidableEq, Repr

/-- The value that a timer is set to, if it is. -/
def Timing.sets? (timer : Timer) : Timing → Option Int
  | advanced => none
  | set other value => if other = timer then some value else none

/-- A timer is not set. -/
def Timing.spares (timer : Timer) (timing : Timing) : Bool := (timing.sets? timer).isNone

namespace Timer

variable (timer : Timer) (timings : List Timing)

/-- The value that a timer was set to last; a cleared machine begins with zero. -/
def lastSet : Int := (latest? (Timing.sets? timer) timings).getD 0

/-- How often the timers were counted down since a timer was set, or since the beginning. -/
def advancesSince : Nat := (timings.rtakeWhile (Timing.spares timer)).count .advanced

lemma lastSet_concat (timing : Timing) :
    timer.lastSet (timings ++ [timing]) = (timing.sets? timer).getD (timer.lastSet timings) := by
  rw [lastSet, latest?_concat, Option.getD_or]
  rfl

lemma advancesSince_concat_advanced :
    timer.advancesSince (timings ++ [.advanced]) = timer.advancesSince timings + 1 := by
  have spares : Timing.advanced.spares timer = true := rfl
  rw [advancesSince, List.rtakeWhile_concat_pos _ _ _ spares, List.count_append,
    List.count_singleton_self]
  rfl

/-- A setting of this timer begins a new count, and one of the other timer is not counted. -/
lemma advancesSince_concat_set (other : Timer) (value : Int) :
    timer.advancesSince (timings ++ [.set other value]) =
      if other = timer then 0 else timer.advancesSince timings := by
  by_cases same : other = timer
  · have sets : ¬ (Timing.set other value).spares timer = true := by
      simp [Timing.spares, Timing.sets?, same]
    rw [advancesSince, List.rtakeWhile_concat_neg _ _ _ sets, if_pos same]
    rfl
  · have spares : (Timing.set other value).spares timer = true := by
      simp [Timing.spares, Timing.sets?, same]
    rw [advancesSince, List.rtakeWhile_concat_pos _ _ _ spares, if_neg same, List.count_append]
    rfl

end Timer

/-! ## Steps -/

/-- What a step has done to the timers, by its entry and the state in which it began. -/
def Entry.timing? (before : State) (entry : Entry) : Option Timing :=
  entry.decoding.bind fun decoding =>
    match decoding.kind with
    | .setDelay => some (.set .delay (before.reg decoding.instruction.x))
    | .setSound => some (.set .sound (before.reg decoding.instruction.x))
    | _ => none

lemma Entry.timing?_getD {entry : Entry} {word : Int}
    (decoded : entry.decoding = some (.ofOpcode word)) (before : State) (timer : Timer) (value : Int) :
    ((entry.timing? before).bind (Timing.sets? timer)).getD value =
      if Kind.ofOpcode word = timer.setter then before.reg (⟨word⟩ : Instruction).x else value := by
  rw [timing?, decoded, Option.bind_some, Decoding.ofOpcode]
  cases timer <;> cases Kind.ofOpcode word <;> rfl

/-- A timer is set to a byte. -/
lemma Entry.timing?_eq_some {entry : Entry} {before : State} (sound : before.Sound) {timing : Timing}
    (told : entry.timing? before = some timing) :
    ∃ timer value, timing = .set timer value ∧ 0 ≤ value := by
  have byte (register : Nat) := (sound.reg_bounds register).1
  obtain ⟨decoding, -, told⟩ := Option.bind_eq_some_iff.1 told
  split at told
  · cases told
    exact ⟨_, _, rfl, byte _⟩
  · cases told
    exact ⟨_, _, rfl, byte _⟩
  · cases told

/-- An instruction sets the timer that it is for. -/
lemma Kind.effect_timer (glyphBase byte : Int) (ins : Instruction) (state : State) (kind : Kind)
    (timer : Timer) :
    timer.value (kind.effect glyphBase byte ins state) =
      if kind = timer.setter then state.reg ins.x else timer.value state := by
  by_cases sets : kind = timer.setter
  · subst sets
    rw [if_pos rfl]
    cases timer <;> rfl
  · rw [if_neg sets]
    cases timer with
    | delay =>
        have other : kind ∉ State.Part.delayTimer.changers := fun among => sets (List.mem_singleton.1 among)
        exact effect_keeps other
    | sound =>
        have other : kind ∉ State.Part.soundTimer.changers := fun among => sets (List.mem_singleton.1 among)
        exact effect_keeps other

/-- An instruction that meets a fault sets no timer. -/
lemma Kind.ne_setter_of_fault {kind : Kind} {state : State} {fault : Fault}
    (met : kind.fault? state = some fault) (timer : Timer) : kind ≠ timer.setter := by
  rcases fault?_cases met with ⟨rfl, -⟩ | ⟨rfl, -⟩ <;> cases timer <;> exact nofun

section

variable {session left : Session} {entry : Entry}

/-- **A step sets a timer or leaves it alone**, and its entry tells which. -/
theorem step_timers (sound : session.machine.Sound)
    (stepped : Machine.step.run session = .ok (some entry) left) (timer : Timer) :
    timer.value left.machine.state =
      ((entry.timing? session.machine.state).bind (Timing.sets? timer)).getD
        (timer.value session.machine.state) := by
  have ended := Machine.step_end session
  rw [stepped] at ended
  cases ended with
  | lost running fault lost =>
      rw [Session.completed_machine]
      rfl
  | ran running word fetched state run =>
      obtain ⟨-, rfl⟩ := Machine.execution_ran sound.state.shaped sound.listed run
      rw [Session.completed_machine, Entry.timing?_getD rfl, ← Kind.effect_timer]
      exact Timer.value_counted timer _
  | met running word fetched fault state run =>
      obtain ⟨met, rfl⟩ := Machine.execution_met sound.state.shaped sound.listed run
      rw [Session.completed_machine, Entry.timing?_getD rfl, if_neg (Kind.ne_setter_of_fault met timer)]
      rfl

end

/-! ## Operations -/

section

variable {before after : Machine} {command : Command}

/-- Resets and ticks alone touch the tick counter. -/
lemma ticks_of_move (move : Move before command after) (kept : command ≠ .reset)
    (other : command ≠ .advanceTimers) : after.ticks = before.ticks := by
  cases move with
  | cleared => exact absurd rfl kept
  | clocked => exact absurd rfl other
  | _ => rfl

/-- Resets, ticks and steps alone touch the timers. -/
lemma timers_of_move (move : Move before command after) (kept : command ≠ .reset)
    (other : command ≠ .advanceTimers) (idle : command ≠ .step) (timer : Timer) :
    timer.value after.state = timer.value before.state := by
  cases move with
  | cleared => exact absurd rfl kept
  | clocked => exact absurd rfl other
  | idled | executed => exact absurd rfl idle
  | stored | held | sensed | resolved => cases timer <;> rfl

end

/-! ## Runs -/

namespace Session

/-- The timings since the last reset after one more elementary operation. -/
def timingsAfter (session : Session) (earlier : List Timing) : Command → List Timing
  | .reset => []
  | .advanceTimers => earlier ++ [.advanced]
  | .step => earlier ++ (session.entry?.bind (Entry.timing? session.machine.state)).toList
  | _ => earlier

/-- What has happened to the timers since the last reset, in order: every tick of the clock, be it one
of its own or part of a tick, a frame or a run, and every setting by an instruction. -/
def timings (session : Session) (commands : List Command) : List Timing :=
  session.collect timingsAfter [] (session.unrolled commands)

end Session

/-- The timings tell the timers and the tick counter. -/
structure Timed (session : Session) (timings : List Timing) : Prop where
  sound : session.machine.Sound
  value : ∀ timer : Timer, timer.value session.machine.state =
    max 0 (timer.lastSet timings - timer.advancesSince timings)
  ticks : session.machine.ticks = timings.count .advanced

namespace Timed

variable {session left : Session} {timings : List Timing}

/-- Both timers at zero and nothing has happened. -/
lemma start (sound : session.machine.Sound)
    (stopped : ∀ timer : Timer, timer.value session.machine.state = 0)
    (ticks : session.machine.ticks = 0) : Timed session [] where
  sound
  value := by
    intro timer
    rw [stopped]
    rfl
  ticks

/-- What leaves the timers alone adds nothing. -/
lemma aside (timed : Timed session timings) (sound : left.machine.Sound)
    (kept : ∀ timer : Timer, timer.value left.machine.state = timer.value session.machine.state)
    (ticks : left.machine.ticks = session.machine.ticks) : Timed left timings where
  sound
  value := fun timer => (kept timer).trans (timed.value timer)
  ticks := ticks.trans timed.ticks

/-- A tick counts. -/
lemma advanced (timed : Timed session timings) (sound : session.clocked.machine.Sound) :
    Timed session.clocked (timings ++ [.advanced]) where
  sound
  value := by
    intro timer
    have counted : timer.value session.clocked.machine.state =
        max 0 (timer.value session.machine.state - 1) := by
      cases timer <;> rfl
    have before := timed.value timer
    rw [counted, before, Timer.lastSet_concat, Timer.advancesSince_concat_advanced]
    change _ = max 0 (timer.lastSet timings - _)
    omega
  ticks := by
    rw [List.count_append, List.count_singleton_self, ← timed.ticks]
    rfl

/-- A step sets the timer that its entry says, if it says one. -/
lemma step {entry : Entry} (timed : Timed session timings) (sound : left.machine.Sound)
    (stepped : Machine.step.run session = .ok (some entry) left)
    (ticks : left.machine.ticks = session.machine.ticks) :
    Timed left (timings ++ (entry.timing? session.machine.state).toList) := by
  have values := step_timers timed.sound stepped
  cases told : entry.timing? session.machine.state with
  | none =>
      rw [told] at values
      rw [Option.toList_none, List.append_nil]
      exact timed.aside sound values ticks
  | some timing =>
      obtain ⟨other, value, rfl, range⟩ := Entry.timing?_eq_some timed.sound.state told
      rw [told] at values
      refine ⟨sound, fun timer => ?_, ?_⟩
      · rw [values, Option.bind_some, Option.toList_some, Timer.lastSet_concat,
          Timer.advancesSince_concat_set, Timing.sets?, timed.value timer]
        split_ifs with same
        · rw [Option.getD_some, Option.getD_some]
          omega
        · rfl
      · rw [ticks, timed.ticks, Option.toList_some, List.count_append]
        rfl

/-- **Every elementary operation keeps the timings telling the timers.** -/
theorem perform (timed : Timed session timings) {command : Command}
    (elementary : command.isElementary = true) :
    Timed (session.after command.perform) (session.timingsAfter timings command) := by
  have moved := Session.move_after elementary session
  have sound := Session.sound_after timed.sound elementary
  cases command with
  | reset => exact .start sound (fun timer => by cases timer <;> rfl) rfl
  | advanceTimers => exact timed.advanced sound
  | step =>
      have ticks := ticks_of_move moved nofun nofun
      rcases Session.entry?_cases timed.sound.complete with ⟨absent, same⟩ | ⟨entry, stepped, given⟩
      · rw [Session.timingsAfter, absent, same, Option.bind_none, Option.toList_none, List.append_nil]
        exact timed
      · rw [Session.timingsAfter, given, Option.bind_some]
        exact timed.step sound stepped ticks
  | load _ | loadFile _ | loadFont _ | syncKeys _ | holdKey _ _ =>
      exact timed.aside sound (timers_of_move moved nofun nofun nofun) (ticks_of_move moved nofun nofun)
  | tick _ | frame _ _ | run _ _ _ => cases elementary

end Timed

/-- **The timers are clocked by ticks and by nothing else.**  After every run, with all its instructions,
faults and waits, a timer holds what the last instruction that set it found in its register, less the
ticks since then, and never less than zero; the tick counter holds the number of all ticks.  Everything
is counted from the last reset on, or from the beginning. -/
theorem timers_count_ticks {settings : Settings} {machine : Machine}
    (created : Machine.create settings = .ok machine) (commands : List Command) :
    let session : Session := { machine }
    let timings := session.timings commands
    let reached := (session.performAll commands).machine
    reached.state.delayTimer = max 0 (Timer.delay.lastSet timings - Timer.delay.advancesSince timings) ∧
      reached.state.soundTimer = max 0 (Timer.sound.lastSet timings - Timer.sound.advancesSince timings) ∧
      reached.ticks = timings.count .advanced := by
  intro session timings reached
  have start : Timed session [] := by
    have sound : session.machine.Sound := Machine.create_sound created
    obtain ⟨traceBound, font, -, -, rfl⟩ := Machine.create_eq_ok_iff.1 created
    exact .start sound (fun timer => by cases timer <;> rfl) rfl
  have timed : Timed (session.performAll commands) timings := by
    rw [← Session.performAll_unrolled]
    exact collect_keeps Timed
      (fun stage member _ _ timed => timed.perform (Session.isElementary_of_mem_unrolled member)) start
  exact ⟨timed.value .delay, timed.value .sound, timed.ticks⟩

/-- The delay timer is set to 5 in the first frame, which has ticked before, and two ticks follow; what
is executed in between does not matter. -/
theorem timers_count_ticks_set :
    ∃ machine, Machine.create { random := .sequence (fun _ => 0) 0 } = .ok machine ∧
      let commands : List Command := [.load [0x6005, 0xF015, 0x1204], .run 1 9 none, .tick none,
        .advanceTimers]
      let reached := (Session.performAll { machine } commands).machine
      Session.timings { machine } commands = [.advanced, .set .delay 5, .advanced, .advanced] ∧
        reached.state.delayTimer = 3 ∧ reached.state.soundTimer = 0 ∧ reached.ticks = 3 := by
  let commands : List Command := [.load [0x6005, 0xF015, 0x1204], .run 1 9 none, .tick none,
    .advanceTimers]
  obtain ⟨machine, created, told⟩ : ∃ machine,
      Machine.create { random := .sequence (fun _ => 0) 0 } = .ok machine ∧
        Session.timings { machine } commands = [.advanced, .set .delay 5, .advanced, .advanced] := by
    refine ⟨_, rfl, ?_⟩
    unfold commands
    decide +kernel
  obtain ⟨delay, sound, ticks⟩ := timers_count_ticks created commands
  rw [told] at delay sound ticks
  exact ⟨machine, created, told, delay, sound, ticks⟩

end Chip8
