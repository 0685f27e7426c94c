import Mathlib.Data.List.Infix
import Chip8.Proofs.Run

/-!
# Calls and returns

The stack is a list with the innermost call first, so "what lies below the current frame" is a suffix.
An operation changes the stack by at most one address, and whatever it pops it pops from the top; as
long as the depth does not fall below a frame, everything under it stays.

Nothing here depends on sizes: a register or a cell that is missing ends an instruction early, and the
stack is as it was.

* `InstructionSet.preserves_stack` — calls and returns alone touch the stack; `move_stack` — what an
  operation does to it.
* `suffix_of_deep` — what lies below a frame is kept as long as the frame is.
* `Session.next?` — the kind of instruction that comes next.
* **`call_return`** — a return from the frame of a call leads behind the call, with the stack of before.
-/

namespace Chip8

/-! ## Instructions and the stack -/

section

variable (stack : List Int)

/-- Calls and returns alone touch the stack. -/
lemma InstructionSet.preserves_stack (set : InstructionSet) {kind : Kind}
    (straight : kind ≠ .call ∧ kind ≠ .ret) (byte : Int) (ins : Instruction) :
    Preserves (fun state : State => state.stack = stack) (set.execute byte kind ins) :=
  set.preserves_execute (State.blind_view fun kept _ => kept = stack)
    (fun turns => absurd turns (not_or.2 straight)) byte ins

end

/-- A stack that is as it was, or has one address more or one less. -/
def StackMove (before after : List Int) : Prop :=
  after = before ∨ (∃ address, after = address :: before) ∨ ∃ address, before = address :: after

section

variable {set : InstructionSet} {state : State} {byte : Int} {ins : Instruction}

lemma execute_call (listed : Kind.call ∈ set.kinds) (room : state.stack.length < stackCapacity) :
    (set.execute byte .call ins).run state =
      .ok () (Kind.call.effect set.glyphBase byte ins state).counted := by
  rw [InstructionSet.execute_run_of_perform listed (Kind.perform_run_call _ _ _), Kind.fault?,
    if_neg (Nat.not_le.2 room)]

lemma execute_ret (listed : Kind.ret ∈ set.kinds) (depth : state.stack ≠ []) :
    (set.execute byte .ret ins).run state =
      .ok () (Kind.ret.effect set.glyphBase byte ins state).counted := by
  rw [InstructionSet.execute_run_of_perform listed (Kind.perform_run_ret _ _ _), Kind.fault?,
    if_neg depth]

/-- A call pushes, unless the stack is full; a return pops, unless it is empty; nothing else does
either. -/
lemma execute_stack (set : InstructionSet) (state : State) (byte : Int) (kind : Kind)
    (ins : Instruction) :
    StackMove state.stack (leaves (set.execute byte kind ins) state).stack := by
  by_cases listed : kind ∈ set.kinds
  · by_cases call : kind = .call
    · subst call
      by_cases full : stackCapacity ≤ state.stack.length
      · have refused : (set.execute byte .call ins).run state =
            .error (.fault (.stackOverflow (state.pc % memorySize) state.pc)) state := by
          rw [InstructionSet.execute_run_of_perform listed (Kind.perform_run_call _ _ _), Kind.fault?,
            if_pos full]
        rw [leaves_of_error refused]
        exact .inl rfl
      · rw [leaves_of_ok (execute_call listed (Nat.not_le.1 full))]
        exact .inr (.inl ⟨_, rfl⟩)
    · by_cases ret : kind = .ret
      · subst ret
        cases stack : state.stack with
        | nil =>
            have refused : (set.execute byte .ret ins).run state =
                .error (.fault (.stackUnderflow state.pc)) state := by
              rw [InstructionSet.execute_run_of_perform listed (Kind.perform_run_ret _ _ _),
                Kind.fault?, if_pos stack]
            rw [leaves_of_error refused, stack]
            exact .inl rfl
        | cons address rest =>
            have depth : state.stack ≠ [] := by
              rw [stack]
              exact List.cons_ne_nil _ _
            rw [leaves_of_ok (execute_ret listed depth)]
            refine .inr (.inr ⟨address, ?_⟩)
            change address :: rest = address :: state.stack.tail
            rw [stack, List.tail_cons]
      · left
        exact set.preserves_stack state.stack ⟨call, ret⟩ byte ins state rfl
  · rw [leaves_of_error (InstructionSet.execute_run_unlisted listed byte ins state)]
    exact .inl rfl

end

/-! ## Operations and the stack -/

/-- Only a step moves the stack, and a reset clears it. -/
lemma move_stack {before after : Machine} {command : Command} (move : Move before command after)
    (kept : command ≠ .reset) : StackMove before.state.stack after.state.stack := by
  cases move with
  | cleared => exact absurd rfl kept
  | executed => exact execute_stack _ _ _ _ _
  | _ => exact .inl rfl

/-- What lies below a frame is kept as long as the depth does not fall below the frame. -/
lemma suffix_move {base before after : List Int} (moved : StackMove before after)
    (frame : base <:+ before) (deep : base.length ≤ after.length) : base <:+ after := by
  rcases moved with rfl | ⟨address, rfl⟩ | ⟨address, rfl⟩
  · exact frame
  · exact frame.trans (List.suffix_cons _ _)
  · rcases List.suffix_cons_iff.1 frame with whole | inside
    · rw [whole, List.length_cons] at deep
      omega
    · exact inside

/-- **A frame survives a run** in which the depth never falls below it. -/
theorem suffix_of_deep {base : List Int} {stages : List Command}
    (elementary : ∀ stage ∈ stages, stage.isElementary = true) (kept : .reset ∉ stages)
    {session : Session} (frame : base <:+ session.machine.state.stack)
    (deep : ∀ passed, passed <+: stages →
      base.length ≤ (session.performAll passed).machine.state.stack.length) :
    base <:+ (session.performAll stages).machine.state.stack := by
  induction stages generalizing session with
  | nil => exact frame
  | cons stage rest ih =>
      have moved := Session.move_after (elementary stage List.mem_cons_self) session
      have other : stage ≠ .reset := by
        rintro rfl
        exact kept List.mem_cons_self
      have first := deep [stage] (List.prefix_append [stage] rest)
      refine ih (fun other later => elementary other (List.mem_cons_of_mem _ later))
        (fun later => kept (List.mem_cons_of_mem _ later))
        (suffix_move (move_stack moved other) frame first) fun passed moment => ?_
      exact deep (stage :: passed) ((List.prefix_cons_inj stage).2 moment)

/-! ## Calls and their returns -/

/-- The kind of instruction that the next step decodes. -/
def Session.next? (session : Session) : Option Kind :=
  match Machine.step.run session with
  | .ok (some entry) _ => entry.decoding.map (·.kind)
  | _ => none

section

variable {session : Session}

/-- An instruction that is decoded was fetched, and it is executed. -/
lemma step_of_next {kind : Kind} (next : session.next? = some kind) :
    ∃ word, fetch session.machine.state.memory session.machine.state.pc = .ok word ∧
      Kind.ofOpcode word = kind ∧ kind ∈ session.machine.instructions.kinds ∧
      (session.after Machine.step).machine.state =
        leaves (session.machine.execution word) session.machine.state := by
  have listed (word : Int) (run : ∀ label, (session.machine.execution word).run
      session.machine.state ≠ .error (.unknownKind label) session.machine.state) :
      Kind.ofOpcode word ∈ session.machine.instructions.kinds := by
    by_contra unlisted
    exact run _ (InstructionSet.execute_run_unlisted unlisted _ _ _)
  have ended := Machine.step_end session
  rw [Session.next?] at next
  rw [Session.after]
  generalize Machine.step.run session = result at ended next ⊢
  cases ended with
  | suspended | lost | missing | refused => cases next
  | ran running word fetched state run =>
      cases next
      refine ⟨word, fetched, rfl, listed word fun label refused => ?_, ?_⟩
      · rw [run] at refused
        cases refused
      · dsimp only
        rw [leaves_of_ok run, Session.completed_machine]
        rfl
  | met running word fetched fault state run =>
      cases next
      refine ⟨word, fetched, rfl, listed word fun label refused => ?_, ?_⟩
      · rw [run] at refused
        cases refused
      · dsimp only
        rw [leaves_of_error run, Session.completed_machine]
        rfl

/-- A call that finds room leaves its own address on top of the stack. -/
lemma step_call (call : session.next? = some .call)
    (room : session.machine.state.stack.length < stackCapacity) :
    (session.after Machine.step).machine.state.stack =
      session.machine.state.pc :: session.machine.state.stack := by
  obtain ⟨word, fetched, kind, listed, state⟩ := step_of_next call
  have place := (Machine.fetch_range fetched).1
  -- nothing is lost to the mask, since the call itself could be fetched
  have mask : session.machine.state.pc % memorySize = session.machine.state.pc :=
    Int.emod_eq_of_lt place.1 (by omega)
  rw [state, Machine.execution, kind, leaves_of_ok (execute_call listed room)]
  change session.machine.state.pc % memorySize :: session.machine.state.stack = _
  rw [mask]

/-- A return leads behind the address on top of the stack. -/
lemma step_ret {address : Int} {rest : List Int} (ret : session.next? = some .ret)
    (top : session.machine.state.stack = address :: rest) :
    (session.after Machine.step).machine.state.pc = address + 2 ∧
      (session.after Machine.step).machine.state.stack = rest := by
  obtain ⟨word, fetched, kind, listed, state⟩ := step_of_next ret
  have depth : session.machine.state.stack ≠ [] := by
    rw [top]
    exact List.cons_ne_nil _ _
  rw [state, Machine.execution, kind, leaves_of_ok (execute_ret listed depth)]
  change session.machine.state.stack.headD 0 + 2 = address + 2 ∧
    session.machine.state.stack.tail = rest
  rw [top]
  exact ⟨rfl, rfl⟩

/-- **A return from the frame of a call leads behind the call.**  Between the two there may be anything
but a reset: nested calls and calls without room, loads, suspensions, programs that rewrite themselves,
as long as the depth never falls below that of the frame.  The step that returns may follow the
operations or be one in the midst of them. -/
theorem call_return (call : session.next? = some .call)
    (room : session.machine.state.stack.length < stackCapacity)
    {commands passed : List Command} (kept : .reset ∉ commands)
    (moment : passed <+: (session.after Machine.step).unrolled commands)
    (deep : ∀ earlier, earlier <+: passed → session.machine.state.stack.length <
      ((session.after Machine.step).performAll earlier).machine.state.stack.length)
    (level : ((session.after Machine.step).performAll passed).machine.state.stack.length =
      session.machine.state.stack.length + 1)
    (ret : ((session.after Machine.step).performAll passed).next? = some .ret) :
    let back := ((session.after Machine.step).performAll passed).after Machine.step
    back.machine.state.pc = session.machine.state.pc + 2 ∧
      back.machine.state.stack = session.machine.state.stack := by
  have pushed := step_call call room
  have calm : .reset ∉ passed := by
    intro member
    obtain ⟨command, among, inside⟩ := Session.mem_unrolled (moment.subset member)
    rw [Command.eq_reset_of_mem inside] at among
    exact kept among
  have frame : (session.after Machine.step).machine.state.stack <:+
      ((session.after Machine.step).performAll passed).machine.state.stack := by
    refine suffix_of_deep
      (fun stage member => Session.isElementary_of_mem_unrolled (moment.subset member)) calm
      (List.suffix_refl _) fun earlier before => ?_
    rw [pushed, List.length_cons]
    exact deep earlier before
  have top : (session.after Machine.step).machine.state.stack =
      ((session.after Machine.step).performAll passed).machine.state.stack := by
    refine frame.eq_of_length ?_
    rw [level, pushed, List.length_cons]
  exact step_ret ret (top.symm.trans pushed)

end

/-- A subroutine that clears the screen and returns, in a program that jumps to itself afterwards. -/
theorem call_return_clear :
    ∃ machine, Machine.create { random := .sequence (fun _ => 0) 0 } = .ok machine ∧
      let session := Session.performAll { machine } [.load [0x2204, 0x1202, 0x00E0, 0x00EE]]
      session.next? = some .call ∧
      ((session.after Machine.step).performAll [.step]).next? = some .ret ∧
      let back := ((session.after Machine.step).performAll [.step]).after Machine.step
      back.machine.state.pc = session.machine.state.pc + 2 ∧
        back.machine.state.stack = session.machine.state.stack := by
  have created : Machine.create { random := .sequence (fun _ => 0) 0 } = .ok _ := rfl
  refine ⟨_, created, ?_⟩
  intro session
  -- one evaluation for all of them, since it begins with a load into the whole memory
  obtain ⟨call, room, moment, deep, level, ret⟩ : session.next? = some .call ∧
      session.machine.state.stack.length < stackCapacity ∧
      [.step] <+: (session.after Machine.step).unrolled [.step] ∧
      (∀ earlier ∈ [.step].inits, session.machine.state.stack.length <
        ((session.after Machine.step).performAll earlier).machine.state.stack.length) ∧
      ((session.after Machine.step).performAll [.step]).machine.state.stack.length =
        session.machine.state.stack.length + 1 ∧
      ((session.after Machine.step).performAll [.step]).next? = some .ret := by
    unfold session
    decide +kernel
  refine ⟨call, ret, ?_⟩
  exact call_return call room (by decide) moment
    (fun earlier before => deep earlier ((List.mem_inits _ _).2 before)) level ret

end Chip8
