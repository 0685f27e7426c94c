import Chip8.Proofs.Accounting
import Chip8.Proofs.Footprint

/-!
# The call stack as the entries tell it

An entry says where a word was fetched, what it was and which fault it met, and nothing about the call
stack.  Still the stack can be replayed: a call that met no fault has pushed the address of its own
word, a return has popped one, and no other step has touched the stack.  What a call pushes is the low
twelve bits of the program counter, and what its entry records is the program counter; they are the same
since the call could be fetched.

* `Entry.isCall`, `Entry.isReturn` — the entries that count; `Entry.replay` — the stack after one more.
* `Kind.effect_calls`, `step_calls` — what a step does to the stack, by its kind and by its entry.
* `Replayed`, `Replayed.perform` — the entries tell the stack, and every operation keeps it so.
* **`stack_replayed`** — so they do after every run, and the depth is calls less returns all the time.
-/

namespace Chip8

/-! ## Entries of calls and returns -/

namespace Entry

/-- A call that met no fault. -/
def isCall (entry : Entry) : Bool := entry.kind? = some .call ∧ entry.fault = none

/-- A return that met no fault. -/
def isReturn (entry : Entry) : Bool := entry.kind? = some .ret ∧ entry.fault = none

/-- The stack after one more step, the outermost call first.  A call adds its own address at the end, and
a return drops the last one. -/
def replay (stack : List Int) (entry : Entry) : List Int :=
  if entry.isCall then stack ++ [entry.pc]
  else if entry.isReturn then stack.dropLast
  else stack

variable {entry : Entry}

lemma isReturn_of_isCall (call : entry.isCall = true) : entry.isReturn = false := by
  simp only [isCall, decide_eq_true_eq] at call
  simp [isReturn, call.1]

lemma isCall_of_isReturn (ret : entry.isReturn = true) : entry.isCall = false := by
  simp only [isReturn, decide_eq_true_eq] at ret
  simp [isCall, ret.1]

lemma isCall_of_fault {fault : Fault} (faulted : entry.fault = some fault) : entry.isCall = false := by
  simp [isCall, faulted]

lemma isReturn_of_fault {fault : Fault} (faulted : entry.fault = some fault) :
    entry.isReturn = false := by
  simp [isReturn, faulted]

/-- A warning about a word without a meaning is none about calls. -/
lemma isCall_of_warning {kind : Kind} {word pc : Int} (decoded : entry.kind? = some kind)
    (warned : entry.fault = kind.warning? word pc) : entry.isCall = decide (kind = .call) := by
  by_cases call : kind = .call
  · simp [isCall, decoded, warned, call, Kind.warning?]
  · simp [isCall, decoded, call]

lemma isReturn_of_warning {kind : Kind} {word pc : Int} (decoded : entry.kind? = some kind)
    (warned : entry.fault = kind.warning? word pc) : entry.isReturn = decide (kind = .ret) := by
  by_cases ret : kind = .ret
  · simp [isReturn, decoded, warned, ret, Kind.warning?]
  · simp [isReturn, decoded, ret]

lemma replay_call (stack : List Int) (call : entry.isCall = true) :
    entry.replay stack = stack ++ [entry.pc] := if_pos call

lemma replay_return (stack : List Int) (ret : entry.isReturn = true) :
    entry.replay stack = stack.dropLast := by
  rw [replay, isCall_of_isReturn ret, if_neg Bool.false_ne_true, if_pos ret]

lemma replay_other (stack : List Int) (call : entry.isCall = false) (ret : entry.isReturn = false) :
    entry.replay stack = stack := by
  rw [replay, call, ret, if_neg Bool.false_ne_true, if_neg Bool.false_ne_true]

end Entry

/-! ## Steps -/

/-- A call that could be fetched pushes its own address, a return pops one, and nothing else touches the
stack. -/
lemma Kind.effect_calls {state : State} {kind : Kind} (met : kind.fault? state = none)
    (place : 0 ≤ state.pc ∧ state.pc + 1 < memorySize) (glyphBase byte : Int) (ins : Instruction) :
    (kind = .call ∧ (kind.effect glyphBase byte ins state).stack = state.pc :: state.stack) ∨
      (kind = .ret ∧
        ∃ address, state.stack = address :: (kind.effect glyphBase byte ins state).stack) ∨
      (kind ≠ .call ∧ kind ≠ .ret ∧ (kind.effect glyphBase byte ins state).stack = state.stack) := by
  by_cases call : kind = .call
  · subst call
    -- the mask does nothing to an address inside memory
    have mask : state.pc % memorySize = state.pc := Int.emod_eq_of_lt place.1 (by omega)
    refine .inl ⟨rfl, ?_⟩
    change state.pc % memorySize :: state.stack = _
    rw [mask]
  by_cases ret : kind = .ret
  · subst ret
    refine .inr (.inl ⟨rfl, ?_⟩)
    change ∃ address, _ = address :: state.stack.tail
    cases top : state.stack with
    | nil => simp [fault?, top] at met
    | cons address rest => exact ⟨address, rfl⟩
  · have straight : kind ∉ State.Part.stack.changers :=
      fun changes => (List.mem_pair.1 changes).elim call ret
    exact .inr (.inr ⟨call, ret, effect_keeps straight⟩)

section

variable {session left : Session} {entry : Entry}

/-- **A step calls, returns or leaves the stack alone**, and its entry tells which. -/
theorem step_calls (sound : session.machine.Sound)
    (stepped : Machine.step.run session = .ok (some entry) left) :
    (entry.isCall = true ∧
        left.machine.state.stack = entry.pc :: session.machine.state.stack) ∨
      (entry.isReturn = true ∧
        ∃ address, session.machine.state.stack = address :: left.machine.state.stack) ∨
      (entry.isCall = false ∧ entry.isReturn = false ∧
        left.machine.state.stack = session.machine.state.stack) := by
  have ended := Machine.step_end session
  rw [stepped] at ended
  cases ended with
  | lost running fault lost =>
      refine .inr (.inr ⟨Entry.isCall_of_fault rfl, Entry.isReturn_of_fault rfl, ?_⟩)
      rw [Session.completed_machine]
      rfl
  | ran running word fetched state run =>
      obtain ⟨met, rfl⟩ := Machine.execution_ran sound.state.shaped sound.listed run
      rw [Session.completed_machine, Entry.isCall_of_warning rfl rfl, Entry.isReturn_of_warning rfl rfl]
      simp only [decide_eq_true_eq, decide_eq_false_iff_not]
      exact Kind.effect_calls met (Machine.fetch_range fetched).1 _ _ _
  | met running word fetched fault state run =>
      obtain ⟨-, rfl⟩ := Machine.execution_met sound.state.shaped sound.listed run
      refine .inr (.inr ⟨Entry.isCall_of_fault rfl, Entry.isReturn_of_fault rfl, ?_⟩)
      rw [Session.completed_machine]
      rfl

end

/-! ## Runs -/

/-- The entries since the last reset tell the stack, and have told it at any time. -/
structure Replayed (session : Session) (entries : List Entry) : Prop where
  sound : session.machine.Sound
  stack : entries.foldl Entry.replay [] = session.machine.state.stack.reverse
  depth : ∀ first, first <+: entries →
    (first.foldl Entry.replay []).length + first.countP Entry.isReturn = first.countP Entry.isCall ∧
      (first.foldl Entry.replay []).length ≤ stackCapacity

namespace Replayed

variable {session left : Session} {entries : List Entry}

/-- An empty stack and no entries. -/
lemma start (sound : session.machine.Sound) (empty : session.machine.state.stack = []) :
    Replayed session [] where
  sound
  stack := by rw [empty]; rfl
  depth := by
    intro first before
    rw [List.prefix_nil.1 before]
    decide

/-- What leaves the stack alone adds nothing. -/
lemma aside (replayed : Replayed session entries) (sound : left.machine.Sound)
    (kept : left.machine.state.stack = session.machine.state.stack) : Replayed left entries where
  sound
  stack := by rw [kept]; exact replayed.stack
  depth := replayed.depth

/-- A step adds its entry. -/
lemma step {entry : Entry} (replayed : Replayed session entries) (sound : left.machine.Sound)
    (stepped : Machine.step.run session = .ok (some entry) left) :
    Replayed left (entries ++ [entry]) := by
  have before := (replayed.depth entries (List.prefix_refl _)).1
  have calls := step_calls replayed.sound stepped
  have stack : (entries ++ [entry]).foldl Entry.replay [] = left.machine.state.stack.reverse := by
    rw [List.foldl_append, replayed.stack]
    change entry.replay _ = _
    rcases calls with ⟨call, pushed⟩ | ⟨ret, address, popped⟩ | ⟨call, ret, same⟩
    · rw [Entry.replay_call _ call, pushed, List.reverse_cons]
    · rw [Entry.replay_return _ ret, popped, List.reverse_cons, List.dropLast_concat]
    · rw [Entry.replay_other _ call ret, same]
  refine ⟨sound, stack, fun first moment => ?_⟩
  rcases List.prefix_concat_iff.1 moment with rfl | earlier
  · rw [stack, List.length_reverse, List.countP_append, List.countP_append, List.countP_singleton,
      List.countP_singleton]
    rw [replayed.stack, List.length_reverse] at before
    refine ⟨?_, sound.state.stack_length⟩
    rcases calls with ⟨call, pushed⟩ | ⟨ret, address, popped⟩ | ⟨call, ret, same⟩
    · rw [call, Entry.isReturn_of_isCall call, pushed, List.length_cons]
      simp only [Bool.false_eq_true, ↓reduceIte]
      omega
    · rw [ret, Entry.isCall_of_isReturn ret]
      rw [popped, List.length_cons] at before
      simp only [Bool.false_eq_true, ↓reduceIte]
      omega
    · rw [call, ret, same]
      simpa using before
  · exact replayed.depth first earlier

/-- **Every elementary operation keeps the entries telling the stack.** -/
theorem perform (replayed : Replayed session entries) {command : Command}
    (elementary : command.isElementary = true) :
    Replayed (session.after command.perform) (session.entriesAfter entries command) := by
  have moved := Session.move_after elementary session
  have sound := Session.sound_after replayed.sound elementary
  by_cases idle : command = .step
  · subst idle
    rcases Session.entry?_cases replayed.sound.complete with ⟨absent, same⟩ | ⟨entry, stepped, given⟩
    · rw [Session.entriesAfter, absent, same, Option.toList_none, List.append_nil]
      exact replayed
    · rw [Session.entriesAfter, given]
      exact replayed.step sound stepped
  · generalize machine : (session.after command.perform).machine = after at moved
    cases moved with
    | stored loads =>
        have same : session.entriesAfter entries command = entries := by
          cases command <;> first | rfl | cases loads
        rw [same]
        exact replayed.aside sound (congrArg (·.state.stack) machine)
    | cleared => exact .start sound (congrArg (·.state.stack) machine)
    | clocked | held | sensed | resolved =>
        exact replayed.aside sound (congrArg (·.state.stack) machine)
    | idled | executed => exact absurd rfl idle

end Replayed

/-- **The entries since the last reset tell the call stack.**  Replaying them in order gives exactly the
addresses on the stack; and after each of them the depth is the number of calls less the number of
returns, which is never negative and never exceeds 48. -/
theorem stack_replayed {settings : Settings} {machine : Machine}
    (created : Machine.create settings = .ok machine) (commands : List Command) :
    let session : Session := { machine }
    let entries := session.entries commands
    let stack := (session.performAll commands).machine.state.stack
    entries.foldl Entry.replay [] = stack.reverse ∧
      (stack.length : Int) = entries.countP Entry.isCall - entries.countP Entry.isReturn ∧
      ∀ first, first <+: entries →
        let depth := (first.foldl Entry.replay []).length
        (depth : Int) = first.countP Entry.isCall - first.countP Entry.isReturn ∧ depth ≤ 48 := by
  intro session entries stack
  have sound : session.machine.Sound := Machine.create_sound created
  have empty : session.machine.state.stack = [] := by
    obtain ⟨traceBound, font, -, -, same⟩ := Machine.create_eq_ok_iff.1 created
    change machine.state.stack = []
    rw [same]
    rfl
  have replayed : Replayed (session.performAll commands) entries :=
    Session.entries_keeps Replayed (fun _ _ _ elementary replayed => replayed.perform elementary)
      (.start sound empty) commands
  have told : entries.foldl Entry.replay [] = stack.reverse := replayed.stack
  refine ⟨told, ?_, fun first moment => ?_⟩
  · have whole := (replayed.depth entries (List.prefix_refl _)).1
    rw [told, List.length_reverse] at whole
    omega
  · obtain ⟨balance, room⟩ := replayed.depth first moment
    exact ⟨by omega, room⟩

/-- A subroutine that calls another one, which returns: one address is left. -/
theorem stack_replayed_nested :
    ∃ machine, Machine.create { random := .sequence (fun _ => 0) 0 } = .ok machine ∧
      let commands : List Command := [.load [0x2202, 0x2204, 0x00EE], .run 1 3 none]
      let entries := ({ machine } : Session).entries commands
      (entries.map (fun entry => (entry.pc, entry.isCall, entry.isReturn)) =
          [(0x200, true, false), (0x202, true, false), (0x204, false, true)] ∧
        entries.foldl Entry.replay [] = [0x200]) ∧
      (Session.performAll { machine } commands).machine.state.stack = [0x200] := by
  have created : Machine.create { random := .sequence (fun _ => 0) 0 } = .ok _ := rfl
  refine ⟨_, created, ?_⟩
  intro commands entries
  have replay : entries.map (fun entry => (entry.pc, entry.isCall, entry.isReturn)) =
        [(0x200, true, false), (0x202, true, false), (0x204, false, true)] ∧
      entries.foldl Entry.replay [] = [0x200] := by
    unfold entries commands
    decide +kernel
  refine ⟨replay, List.reverse_injective ?_⟩
  exact (stack_replayed created commands).1.symm.trans replay.2

end Chip8
