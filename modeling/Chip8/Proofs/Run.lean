import Chip8.Proofs.Move

/-!
# Runs as sequences of elementary operations

Ticks, frames and runs are conveniences: whatever they do, a host could have done with the timers, the
keys and single steps.  A property of whole runs therefore needs to be checked on the elementary
operations only, and "at every moment of a run" can be said: the moments are those between two of them.

* `Command.stages` — the elementary operations that an operation consists of; `Command.report` — the
  keys that all of them are told of.
* `Machine.stepAll`, **`stepUpTo_eq`** — steps that are all attempted; stopping early makes no difference.
* **`silent_perform`** — an operation *is* its stages, carried out up to the first refusal.
* `Session.unrolled` — the elementary operations of a whole sequence, refusals taken into account;
  **`performAll_unrolled`** — they lead to the same session.
* `Session.collect`, **`collect_keeps`** — what is gathered along a run, and what can be said of it.
* `Invariant` — a property that no move of an operation can break; **`performAll_invariant`**,
  `unrolled_invariant` — what the elementary operations keep holds after a run and all through it.
* **`perform_returns`** — an operation returns if its stages do.

A frame stops at the first step without an entry, and its stages do not.  There is no difference, since
a suspended machine does nothing.
-/

namespace Chip8

namespace Command

/-- The stages of one frame. -/
def frameStages (keys : Option HostReport) (steps : Int) : List Command :=
  .advanceTimers :: .syncKeys keys :: List.replicate steps.toNat .step

/-- The elementary operations that an operation consists of, in order. -/
def stages : Command → List Command
  | tick keys => [.advanceTimers, .syncKeys keys, .step]
  | frame keys steps => frameStages keys steps
  | run frames steps keys => (List.replicate frames.toNat (frameStages keys steps)).flatten
  | command => [command]

/-- What an operation reports of the host's keys. -/
def report : Command → Option HostReport
  | syncKeys keys | tick keys | frame keys _ | run _ _ keys => keys
  | _ => none

/-- An operation consists of itself, or of timers, keys and steps. -/
lemma mem_stages {command stage : Command} (member : stage ∈ command.stages) :
    stage = command ∨ stage = .advanceTimers ∨ stage = .step ∨ stage = .syncKeys command.report := by
  have frame (keys : Option HostReport) (steps : Int) (member : stage ∈ frameStages keys steps) :
      stage = .advanceTimers ∨ stage = .step ∨ stage = .syncKeys keys := by
    simp only [frameStages, List.mem_cons, List.mem_replicate] at member
    rcases member with clock | sync | ⟨-, step⟩
    · exact .inl clock
    · exact .inr (.inr sync)
    · exact .inr (.inl step)
  cases command with
  | tick keys =>
      simp only [stages, List.mem_cons, List.not_mem_nil, or_false] at member
      rcases member with clock | sync | step
      · exact .inr (.inl clock)
      · exact .inr (.inr (.inr sync))
      · exact .inr (.inr (.inl step))
  | frame keys steps => exact .inr (frame keys steps member)
  | run frames steps keys =>
      obtain ⟨stages, repeated, inside⟩ := List.mem_flatten.1 member
      rw [List.eq_of_mem_replicate repeated] at inside
      exact .inr (frame keys steps inside)
  | _ => exact .inl (List.mem_singleton.1 member)

lemma isElementary_of_mem {command stage : Command} (member : stage ∈ command.stages) :
    stage.isElementary = true := by
  rcases mem_stages member with rfl | rfl | rfl | rfl
  · cases stage with
    | tick _ | frame _ _ => simp [stages, frameStages, List.mem_replicate] at member
    | run _ _ _ => simp [stages, frameStages, List.mem_flatten, List.mem_replicate] at member
    | _ => rfl
  · rfl
  · rfl
  · rfl

/-- Nothing but a reset resets. -/
lemma eq_reset_of_mem {command : Command} (member : .reset ∈ command.stages) : command = .reset := by
  rcases mem_stages member with rfl | clock | step | sync
  · rfl
  · cases clock
  · cases step
  · cases sync

/-- Nothing but a load loads. -/
lemma isLoad_of_mem {command stage : Command} (member : stage ∈ command.stages)
    (loads : stage.isLoad = true) : command.isLoad = true := by
  rcases mem_stages member with rfl | rfl | rfl | rfl
  · exact loads
  · cases loads
  · cases loads
  · cases loads

end Command

/-! ## An operation is its stages -/

/-- An operation whose answer is not looked at. -/
def silent {α : Type} (operation : Operation α) : Operation Unit := do
  let _ ← operation
  return

/-- Operations one after the other, up to the first refusal. -/
def follow (commands : List Command) : Operation Unit :=
  commands.forM fun command => silent command.perform

lemma silent_bind {α β : Type} (operation : Operation α) (next : α → Operation β) :
    silent (operation >>= next) = operation >>= fun answer => silent (next answer) := by
  simp only [silent, bind_assoc]

lemma silent_pure {α : Type} (answer : α) : silent (pure answer) = pure () := by
  simp only [silent, pure_bind]

/-- Nothing is lost if only the rest of the sequence counts. -/
lemma silent_then {α β : Type} (operation : Operation α) (next : Operation β) :
    (silent operation >>= fun _ => next) = operation >>= fun _ => next := by
  simp only [silent, bind_assoc, pure_bind]

lemma follow_nil : follow [] = pure () := rfl

lemma follow_cons (command : Command) (rest : List Command) :
    follow (command :: rest) = command.perform >>= fun _ => follow rest := by
  rw [← silent_then]
  rfl

lemma follow_append (first second : List Command) :
    follow (first ++ second) = follow first >>= fun _ => follow second := by
  induction first with
  | nil => simp only [List.nil_append, follow_nil, pure_bind]
  | cons command rest ih => rw [List.cons_append, follow_cons, follow_cons, ih, bind_assoc]

/-! ### Frames -/

namespace Machine

/-- A step without an entry is one of a suspended machine. -/
lemma step_none {session left : Session} (stepped : step.run session = .ok none left) :
    session.machine.state.mode.isWaiting = true ∧ left = session := by
  have ended := step_end session
  rw [stepped] at ended
  cases ended with
  | suspended waiting => exact ⟨waiting, rfl⟩

/-- So many steps, whether they have entries or not; the answers in order. -/
def stepAll : Nat → Operation (List (Option Entry))
  | 0 => return []
  | count + 1 => do
    let answer ← step
    let later ← stepAll count
    return answer :: later

/-- A suspended machine answers no step. -/
lemma stepAll_waiting {session : Session} (waiting : session.machine.state.mode.isWaiting = true)
    (count : Nat) : (stepAll count).run session = .ok (List.replicate count none) session := by
  induction count with
  | zero => rfl
  | succ count ih =>
      rw [stepAll, EStateM.run_bind, step_run_waiting waiting]
      dsimp only
      rw [EStateM.run_bind, ih]
      rfl

/-- **Stopping at the first step without an entry makes no difference.** -/
theorem stepUpTo_eq (taken count : Nat) :
    stepUpTo taken count = do
      let answers ← stepAll count
      return taken + answers.countP Option.isSome := by
  induction count generalizing taken with
  | zero => rfl
  | succ count ih =>
      rw [stepUpTo, stepAll, bind_assoc]
      funext session
      change EStateM.run _ session = EStateM.run _ session
      rw [EStateM.run_bind, EStateM.run_bind]
      cases stepped : step.run session with
      | error error left => rfl
      | ok answer left =>
          cases answer with
          | some entry =>
              simp only [ih, bind_assoc, pure_bind, List.countP_cons, Option.isSome_some, ↓reduceIte,
                Nat.add_assoc, Nat.add_comm 1]
          | none =>
              obtain ⟨waiting, rfl⟩ := step_none stepped
              simp only [bind_assoc, pure_bind]
              rw [EStateM.run_bind, stepAll_waiting waiting]
              simp [List.countP_replicate]

end Machine

/-- The steps of a frame end with the first one that has no entry; those after it would do nothing. -/
lemma silent_stepUpTo (taken count : Nat) :
    silent (Machine.stepUpTo taken count) = follow (List.replicate count .step) := by
  have attempted : silent (Machine.stepAll count) = follow (List.replicate count .step) := by
    induction count with
    | zero => rfl
    | succ count ih =>
        rw [Machine.stepAll, List.replicate_succ, follow_cons, ← ih]
        simp only [Command.perform, silent, bind_assoc, pure_bind]
  rw [Machine.stepUpTo_eq, silent_bind, ← attempted]
  rfl

lemma silent_frame (keys : Option HostReport) (steps : Int) :
    silent (Machine.frame keys steps) = follow (Command.frameStages keys steps) := by
  simp only [Machine.frame, silent_bind, silent_stepUpTo, Command.frameStages, follow_cons,
    Command.perform, bind_assoc, pure_bind]

lemma silent_frames (keys : Option HostReport) (steps : Int) (count : Nat) :
    silent (Machine.frames keys steps count) =
      follow (List.replicate count (Command.frameStages keys steps)).flatten := by
  induction count with
  | zero => rfl
  | succ count ih =>
      rw [Machine.frames, silent_bind, List.replicate_succ, List.flatten_cons, follow_append,
        ← silent_frame, silent_then]
      simp only [ih]

/-- **An operation is its stages**, carried out up to the first refusal. -/
theorem silent_perform (command : Command) : silent command.perform = follow command.stages := by
  have alone (command : Command) : silent command.perform = follow [command] := by
    rw [follow_cons, follow_nil]
    rfl
  cases command with
  | tick keys =>
      simp only [Command.perform, Command.stages, Machine.tick, silent_bind, silent_pure, follow_cons,
        follow_nil, bind_assoc, pure_bind]
  | frame keys steps =>
      rw [Command.stages, ← silent_frame]
      simp only [Command.perform, silent, bind_assoc, pure_bind]
  | run frames steps keys =>
      rw [Command.stages, ← silent_frames]
      simp only [Command.perform, Machine.run, silent, bind_assoc, pure_bind]
      rfl
  | _ => exact alone _

/-! ## Runs -/

namespace Session

/-- The commands that are carried out if the first refusal ends the sequence; the refused one is the
last of them. -/
def carried (session : Session) : List Command → List Command
  | [] => []
  | command :: rest =>
    match command.perform.run session with
    | .ok _ next => command :: next.carried rest
    | .error _ _ => [command]

/-- The elementary operations that a sequence of operations amounts to. -/
def unrolled (session : Session) : List Command → List Command
  | [] => []
  | command :: rest =>
    session.carried command.stages ++ (session.after command.perform).unrolled rest

/-- What an operation answers, or why it was refused. -/
def reply (session : Session) (command : Command) : Except Error Reply :=
  match command.perform.run session with
  | .ok reply _ => .ok reply
  | .error error _ => .error error

/-- What a sequence of operations answers, each of which may have been refused. -/
def replies (session : Session) : List Command → List (Except Error Reply)
  | [] => []
  | command :: rest => session.reply command :: (session.after command.perform).replies rest

variable {session : Session}

lemma after_eq_leaves {α : Type} (operation : Operation α) :
    session.after operation = leaves operation session := by
  rw [after, leaves]
  cases operation.run session with
  | ok answer left => rfl
  | error error left => rfl

/-- An elementary operation is a move of the machine. -/
lemma move_after {command : Command} (elementary : command.isElementary = true) (session : Session) :
    Move session.machine command (session.after command.perform).machine := by
  rw [after_eq_leaves]
  exact move_perform elementary session

lemma after_of_ok {α : Type} {operation : Operation α} {answer : α} {left : Session}
    (run : operation.run session = .ok answer left) : session.after operation = left := by
  rw [after_eq_leaves, leaves_of_ok run]

lemma after_of_error {α : Type} {operation : Operation α} {error : Error} {left : Session}
    (run : operation.run session = .error error left) : session.after operation = left := by
  rw [after_eq_leaves, leaves_of_error run]

lemma after_reply {α : Type} (operation : Operation α) (reply : α → Reply) :
    session.after (operation >>= fun answer => return reply answer) = session.after operation := by
  rw [after_eq_leaves, after_eq_leaves, leaves_reply]

lemma after_step : session.after (Command.perform .step) = session.after Machine.step := after_reply _ _

lemma after_syncKeys (keys : Option HostReport) :
    session.after (Command.perform (.syncKeys keys)) = session.after (Machine.syncKeys keys) :=
  after_reply _ _

lemma after_silent {α : Type} (operation : Operation α) :
    session.after (silent operation) = session.after operation := by
  rw [after, after, silent, EStateM.run_bind]
  cases operation.run session with
  | ok answer left => rfl
  | error error left => rfl

lemma performAll_nil : session.performAll [] = session := rfl

lemma performAll_cons (command : Command) (rest : List Command) :
    session.performAll (command :: rest) = (session.after command.perform).performAll rest := rfl

lemma performAll_append (first second : List Command) :
    session.performAll (first ++ second) = (session.performAll first).performAll second :=
  List.foldl_append

lemma after_follow (commands : List Command) :
    session.after (follow commands) = session.performAll (session.carried commands) := by
  induction commands generalizing session with
  | nil => rfl
  | cons command rest ih =>
      rw [follow_cons, after, EStateM.run_bind, carried]
      cases performed : command.perform.run session with
      | ok reply next =>
          have after : session.after command.perform = next := by rw [Session.after, performed]
          rw [performAll_cons, after, ← ih]
          rfl
      | error error left =>
          rw [performAll_cons, performAll_nil, Session.after, performed]

lemma after_perform (command : Command) :
    session.after command.perform = session.performAll (session.carried command.stages) := by
  rw [← after_silent, silent_perform, after_follow]

/-- **Nothing but elementary operations ever happens.** -/
theorem performAll_unrolled (commands : List Command) :
    session.performAll (session.unrolled commands) = session.performAll commands := by
  induction commands generalizing session with
  | nil => rfl
  | cons command rest ih =>
      rw [unrolled, performAll_append, ← after_perform, ih, performAll_cons]

lemma unrolled_append (first second : List Command) :
    session.unrolled (first ++ second) =
      session.unrolled first ++ (session.performAll first).unrolled second := by
  induction first generalizing session with
  | nil => rfl
  | cons command rest ih =>
      rw [List.cons_append, unrolled, unrolled, ih, performAll_cons, List.append_assoc]

lemma carried_prefix (session : Session) (commands : List Command) :
    session.carried commands <+: commands := by
  induction commands generalizing session with
  | nil => exact List.prefix_refl _
  | cons command rest ih =>
      rw [carried]
      cases command.perform.run session with
      | ok reply next => exact (List.prefix_cons_inj command).2 (ih next)
      | error error left => exact List.prefix_append [command] rest

lemma mem_carried {commands : List Command} {stage : Command} (member : stage ∈ session.carried commands) :
    stage ∈ commands :=
  (session.carried_prefix commands).subset member

lemma mem_unrolled {commands : List Command} {stage : Command}
    (member : stage ∈ session.unrolled commands) : ∃ command ∈ commands, stage ∈ command.stages := by
  induction commands generalizing session with
  | nil => cases member
  | cons command rest ih =>
      rcases List.mem_append.1 member with now | later
      · exact ⟨command, List.mem_cons_self, mem_carried now⟩
      · obtain ⟨other, among, inside⟩ := ih later
        exact ⟨other, List.mem_cons_of_mem _ among, inside⟩

lemma isElementary_of_mem_unrolled {commands : List Command} {stage : Command}
    (member : stage ∈ session.unrolled commands) : stage.isElementary = true := by
  obtain ⟨command, -, inside⟩ := mem_unrolled member
  exact Command.isElementary_of_mem inside

/-- Elementary operations are not taken apart. -/
lemma unrolled_of_elementary {commands : List Command}
    (elementary : ∀ command ∈ commands, command.isElementary = true) :
    session.unrolled commands = commands := by
  induction commands generalizing session with
  | nil => rfl
  | cons command rest ih =>
      have alone : session.carried command.stages = [command] := by
        have stages : command.stages = [command] := by
          cases command with
          | tick _ | frame _ _ | run _ _ _ => cases elementary _ List.mem_cons_self
          | _ => rfl
        rw [stages, carried]
        cases command.perform.run session <;> rfl
      rw [unrolled, alone, ih fun other later => elementary other (List.mem_cons_of_mem _ later)]
      rfl

end Session

/-! ## Along a run -/

section

variable {α : Type} {session : Session}

/-- What is gathered along a sequence of operations, from each of them and the session in which it
begins. -/
def Session.collect (gather : Session → α → Command → α) (session : Session) (found : α) :
    List Command → α
  | [] => found
  | command :: rest =>
    (session.after command.perform).collect gather (gather session found command) rest

/-- What is gathered along the second part of a sequence is added to what the first part gave. -/
lemma collect_append (gather : Session → α → Command → α) (found : α) (first second : List Command) :
    session.collect gather found (first ++ second) =
      (session.performAll first).collect gather (session.collect gather found first) second := by
  induction first generalizing session found with
  | nil => rfl
  | cons command rest ih => exact ih _

/-- **What every operation keeps of a session and of what was gathered holds after a run.** -/
theorem collect_keeps (property : Session → α → Prop) {gather : Session → α → Command → α}
    {commands : List Command}
    (each : ∀ command ∈ commands, ∀ session found, property session found →
      property (session.after command.perform) (gather session found command))
    {found : α} (holds : property session found) :
    property (session.performAll commands) (session.collect gather found commands) := by
  induction commands generalizing session found with
  | nil => exact holds
  | cons command rest ih =>
      exact ih (fun other later => each other (List.mem_cons_of_mem _ later))
        (each command List.mem_cons_self _ _ holds)

/-- The same where nothing is gathered. -/
lemma performAll_keeps (property : Session → Prop) {commands : List Command}
    (each : ∀ command ∈ commands, ∀ session : Session, property session →
      property (session.after command.perform))
    (holds : property session) : property (session.performAll commands) :=
  @collect_keeps Unit session (fun session _ => property session) (fun _ _ _ => ()) commands
    (fun command member session _ => each command member session) () holds

end

/-! ## Properties that runs keep -/

/-- A property of the machine that an operation cannot break. -/
def Invariant (property : Machine → Prop) (command : Command) : Prop :=
  ∀ before after, property before → Move before command after → property after

section

variable {property : Machine → Prop} {session : Session}

lemma elementary_invariant {stages : List Command}
    (elementary : ∀ stage ∈ stages, stage.isElementary = true)
    (each : ∀ stage ∈ stages, Invariant property stage) (holds : property session.machine) :
    property (session.performAll stages).machine := by
  refine performAll_keeps (fun session => property session.machine)
    (fun stage member session before => ?_) holds
  have moved := Session.move_after (elementary stage member) session
  exact each stage member _ _ before moved

/-- **What the elementary operations keep holds all through a run.** -/
theorem unrolled_invariant {commands passed : List Command}
    (each : ∀ command ∈ commands, ∀ stage ∈ command.stages, Invariant property stage)
    (holds : property session.machine) (moment : passed <+: session.unrolled commands) :
    property (session.performAll passed).machine := by
  refine elementary_invariant
    (fun stage member => Session.isElementary_of_mem_unrolled (moment.subset member))
    (fun stage member => ?_) holds
  obtain ⟨command, among, inside⟩ := Session.mem_unrolled (moment.subset member)
  exact each command among stage inside

/-- **What the elementary operations keep holds after a run.** -/
theorem performAll_invariant {commands : List Command}
    (each : ∀ command ∈ commands, ∀ stage ∈ command.stages, Invariant property stage)
    (holds : property session.machine) : property (session.performAll commands).machine := by
  rw [← Session.performAll_unrolled]
  exact unrolled_invariant each holds (List.prefix_refl _)

/-! ## Runs that are never refused -/

/-- An operation is not refused. -/
def Returns {α : Type} (operation : Operation α) (session : Session) : Prop :=
  ∃ answer left, operation.run session = .ok answer left

/-- What is computed from an answer was computed from one. -/
lemma run_of_map {α β : Type} {operation : Operation α} {compute : α → β} {value : β}
    {session left : Session}
    (ran : (operation >>= fun answer => return compute answer).run session = .ok value left) :
    ∃ answer, operation.run session = .ok answer left ∧ compute answer = value := by
  rw [EStateM.run_bind] at ran
  cases run : operation.run session with
  | ok answer after =>
      rw [run] at ran
      cases ran
      exact ⟨answer, rfl, rfl⟩
  | error error after =>
      rw [run] at ran
      cases ran

lemma follow_returns {stages : List Command}
    (elementary : ∀ stage ∈ stages, stage.isElementary = true)
    (each : ∀ stage ∈ stages, Invariant property stage)
    (returns : ∀ stage ∈ stages, ∀ session : Session, property session.machine →
      Returns stage.perform session)
    (holds : property session.machine) : Returns (follow stages) session := by
  induction stages generalizing session with
  | nil => exact ⟨(), session, rfl⟩
  | cons stage rest ih =>
      obtain ⟨reply, next, performed⟩ := returns stage List.mem_cons_self session holds
      have moved := move_perform (elementary stage List.mem_cons_self) session
      rw [leaves_of_ok performed] at moved
      obtain ⟨answer, left, followed⟩ := ih
        (fun other later => elementary other (List.mem_cons_of_mem _ later))
        (fun other later => each other (List.mem_cons_of_mem _ later))
        (fun other later => returns other (List.mem_cons_of_mem _ later))
        (each stage List.mem_cons_self _ _ holds moved)
      refine ⟨answer, left, ?_⟩
      rw [follow_cons, EStateM.run_bind, performed]
      exact followed

/-- **An operation returns if its stages do**, whatever state the earlier ones leave. -/
theorem perform_returns {command : Command}
    (each : ∀ stage ∈ command.stages, Invariant property stage)
    (returns : ∀ stage ∈ command.stages, ∀ session : Session, property session.machine →
      Returns stage.perform session)
    (holds : property session.machine) : Returns command.perform session := by
  obtain ⟨answer, left, followed⟩ :=
    follow_returns (fun _ member => Command.isElementary_of_mem member) each returns holds
  rw [← silent_perform, silent, EStateM.run_bind] at followed
  cases performed : command.perform.run session with
  | ok reply next => exact ⟨reply, next, performed⟩
  | error error next =>
      rw [performed] at followed
      cases followed

end
end Chip8
