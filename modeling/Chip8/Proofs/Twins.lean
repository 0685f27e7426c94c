import Chip8.InstructionSet
import Mathlib.Tactic.Common

/-!
# Instructions on two states

What an instruction does depends on parts of the state, and it is best seen by carrying it out on two
states that differ in some other part: both end alike.  The sound timer is the part that no instruction
looks at, so two states may differ in it.  How else they are related is left open.

* `Corresponds`, **`Lockstep`** — two computations end alike; `Lockstep.bind` and its companions follow the
  way in which computations are put together.
* `State.Twins` — a relation between states that differ in the sound timer at most, and that updates keep.
* `Twins.registerAt`, `Twins.writeByte`, ... — the actions of the state are in lockstep on such states.
* **`Twins.perform`**, `Twins.execute` — and so are instructions.
-/

namespace Chip8

/-! ## Computations in lockstep -/

section

variable {σ α β γ δ : Type}

/-- Two outcomes correspond: there are answers that agree, or the same refusal, and what is left behind
is related. -/
inductive Corresponds (related : σ → σ → Prop) (agree : α → β → Prop) :
    EStateM.Result Error σ α → EStateM.Result Error σ β → Prop
  | ok {answer : α} {other : β} {left twin : σ} (answers : agree answer other)
      (states : related left twin) : Corresponds related agree (.ok answer left) (.ok other twin)
  | error {error : Error} {left twin : σ} (states : related left twin) :
      Corresponds related agree (.error error left) (.error error twin)

/-- Two computations that start in related states end alike. -/
def Lockstep (related : σ → σ → Prop) (agree : α → β → Prop) (first : EStateM Error σ α)
    (second : EStateM Error σ β) : Prop :=
  ∀ state twin, related state twin → Corresponds related agree (first.run state) (second.run twin)

namespace Corresponds

variable {related : σ → σ → Prop} {agree : α → β → Prop}

lemma imp {wider : σ → σ → Prop} {outcome : EStateM.Result Error σ α} {other : EStateM.Result Error σ β}
    (ended : Corresponds related agree outcome other)
    (implied : ∀ left twin, related left twin → wider left twin) :
    Corresponds wider agree outcome other := by
  cases ended with
  | ok answers states => exact .ok answers (implied _ _ states)
  | error states => exact .error (implied _ _ states)

/-- What follows two computations that end alike. -/
lemma bind {agree' : γ → δ → Prop} {first : EStateM Error σ α} {second : EStateM Error σ β}
    {next : α → EStateM Error σ γ} {next' : β → EStateM Error σ δ} {state twin : σ}
    (begun : Corresponds related agree (first.run state) (second.run twin))
    (rest : ∀ answer other left later, first.run state = .ok answer left → agree answer other →
      related left later → Corresponds related agree' ((next answer).run left) ((next' other).run later)) :
    Corresponds related agree' ((first >>= next).run state) ((second >>= next').run twin) := by
  rw [EStateM.run_bind, EStateM.run_bind]
  generalize first.run state = outcome, second.run twin = outcome' at begun rest ⊢
  cases begun with
  | ok answers states => exact rest _ _ _ _ rfl answers states
  | error states => exact .error states

end Corresponds

namespace Lockstep

variable {related : σ → σ → Prop} {agree : α → β → Prop}

lemma pure {answer : α} {other : β} (answers : agree answer other) :
    Lockstep related agree (Pure.pure answer) (Pure.pure other) :=
  fun _ _ states => .ok answers states

lemma throw (error : Error) :
    Lockstep related agree (MonadExcept.throw error) (MonadExcept.throw error) :=
  fun _ _ states => .error states

lemma bind {agree' : γ → δ → Prop} {first : EStateM Error σ α} {second : EStateM Error σ β}
    {next : α → EStateM Error σ γ} {next' : β → EStateM Error σ δ}
    (begun : Lockstep related agree first second)
    (rest : ∀ answer other, agree answer other → Lockstep related agree' (next answer) (next' other)) :
    Lockstep related agree' (first >>= next) (second >>= next') :=
  fun state twin states => (begun state twin states).bind fun _ _ _ _ _ answers states =>
    rest _ _ answers _ _ states

/-- Where the answers are the same. -/
lemma bind_eq {agree' : γ → δ → Prop} {first second : EStateM Error σ α}
    {next : α → EStateM Error σ γ} {next' : α → EStateM Error σ δ}
    (begun : Lockstep related Eq first second)
    (rest : ∀ answer, Lockstep related agree' (next answer) (next' answer)) :
    Lockstep related agree' (first >>= next) (second >>= next') :=
  begun.bind fun answer _ same => same ▸ rest answer

lemma ite {condition : Prop} [Decidable condition] {first first' : EStateM Error σ α}
    {second second' : EStateM Error σ β} (yes : Lockstep related agree first second)
    (no : Lockstep related agree first' second') :
    Lockstep related agree (if condition then first else first')
      (if condition then second else second') := by
  split
  · exact yes
  · exact no

lemma forM {body : α → EStateM Error σ PUnit}
    (each : ∀ value, Lockstep related Eq (body value) (body value)) (values : List α) :
    Lockstep related Eq (values.forM body) (values.forM body) := by
  induction values with
  | nil => exact .pure rfl
  | cons value rest ih => exact (each value).bind_eq fun _ => ih

lemma mapM {body : α → EStateM Error σ β}
    (each : ∀ value, Lockstep related Eq (body value) (body value)) (values : List α) :
    Lockstep related Eq (values.mapM body) (values.mapM body) := by
  induction values with
  | nil => exact .pure rfl
  | cons value rest ih =>
      rw [List.mapM_cons]
      exact (each value).bind_eq fun _ => ih.bind_eq fun _ => .pure rfl

/-- A computation is in lockstep with itself. -/
lemma refl (computation : EStateM Error σ α) : Lockstep Eq Eq computation computation := by
  rintro state _ rfl
  cases computation.run state with
  | ok answer left => exact .ok rfl rfl
  | error error left => exact .error rfl

end Lockstep
end

/-! ## Actions of the state -/

/-- Related states differ in the sound timer at most, and the same update keeps them related.  What a new
stack does is left open. -/
structure State.Twins (related : State → State → Prop) : Prop where
  same : ∀ {state twin}, related state twin → ∃ soundTimer, twin = { state with soundTimer }
  registers : ∀ {state twin} registers, related state twin →
    related { state with registers } { twin with registers }
  memory : ∀ {state twin} memory, related state twin → related { state with memory } { twin with memory }
  index : ∀ {state twin} index, related state twin → related { state with index } { twin with index }
  pc : ∀ {state twin} pc, related state twin → related { state with pc } { twin with pc }
  mode : ∀ {state twin} mode, related state twin → related { state with mode } { twin with mode }
  delayTimer : ∀ {state twin} delayTimer, related state twin →
    related { state with delayTimer } { twin with delayTimer }
  soundTimer : ∀ {state twin} soundTimer, related state twin →
    related { state with soundTimer } { twin with soundTimer }
  cycleCount : ∀ {state twin} cycleCount, related state twin →
    related { state with cycleCount } { twin with cycleCount }
  cleared : ∀ {state twin}, related state twin →
    related { state with screen := state.screen.clear } { twin with screen := state.screen.clear }
  drawn : ∀ {state twin} x y rows, related state twin →
    related { state with screen := (state.screen.drawSprite x y rows).2 }
      { twin with screen := (state.screen.drawSprite x y rows).2 }

namespace State.Twins

variable {related : State → State → Prop} (twins : State.Twins related)
include twins

/-- What follows a look at the state does not depend on the sound timer. -/
lemma get_then {α : Type} {next : State → Action α}
    (each : ∀ state, Lockstep related Eq (next state) (next state))
    (same : ∀ state soundTimer, next { state with soundTimer } = next state) :
    Lockstep related Eq (MonadState.get >>= next) (MonadState.get >>= next) := by
  intro state twin states
  have ended := each state state twin states
  obtain ⟨soundTimer, rfl⟩ := twins.same states
  rw [EStateM.run_bind, EStateM.run_bind, EStateM.run_get, EStateM.run_get]
  dsimp only
  rw [same state soundTimer]
  exact ended

lemma update {f : State → State}
    (keeps : ∀ state soundTimer, related state { state with soundTimer } →
      related (f state) (f { state with soundTimer })) :
    Lockstep related Eq (modify f : Action Unit) (modify f) := by
  intro state twin states
  obtain ⟨soundTimer, rfl⟩ := twins.same states
  exact .ok rfl (keeps state soundTimer states)

/-! ### Registers and memory -/

lemma registerAt (position : Nat) :
    Lockstep related Eq (State.registerAt position) (State.registerAt position) := by
  refine twins.get_then (fun state => ?_) fun _ _ => rfl
  cases state.registers[position]? with
  | some value => exact .pure rfl
  | none => exact .throw _

lemma replaceRegister (position : Nat) (value : Int) :
    Lockstep related Eq (State.replaceRegister position value) (State.replaceRegister position value) :=
  twins.get_then
    (fun _ => .ite (twins.update fun _ _ states => twins.registers _ states) (.throw _)) fun _ _ => rfl

lemma setRegister (register value : Int) :
    Lockstep related Eq (State.setRegister register value) (State.setRegister register value) :=
  .ite (twins.replaceRegister _ _) (.throw _)

lemma setFlag (condition : Bool) :
    Lockstep related Eq (State.setFlag condition) (State.setFlag condition) :=
  twins.replaceRegister _ _

lemma keyNamedBy (register : Nat) :
    Lockstep related Eq (State.keyNamedBy register) (State.keyNamedBy register) := by
  refine (twins.registerAt register).bind_eq fun value => twins.get_then (fun state => ?_) fun _ _ => rfl
  cases state.keypad[(value % 16).toNat]? with
  | some pressed => exact .pure rfl
  | none => exact .throw _

lemma readByte (address : Int) :
    Lockstep related Eq (State.readByte address) (State.readByte address) := by
  refine twins.get_then (fun state => ?_) fun _ _ => rfl
  cases state.memory.read? address with
  | some byte => exact .pure rfl
  | none => exact .throw _

lemma readBlock (address : Int) (count : Nat) :
    Lockstep related Eq (State.readBlock address count) (State.readBlock address count) :=
  .mapM (fun _ => twins.readByte _) _

lemma writeByte (address value : Int) :
    Lockstep related Eq (State.writeByte address value) (State.writeByte address value) :=
  twins.get_then
    (fun _ => .ite (twins.update fun _ _ states => twins.memory _ states) (.throw _)) fun _ _ => rfl

lemma writeBlock (address : Int) (data : List Int) :
    Lockstep related Eq (State.writeBlock address data) (State.writeBlock address data) := by
  induction data generalizing address with
  | nil => exact .pure rfl
  | cons value rest ih => exact (twins.writeByte address value).bind_eq fun _ => ih _

/-! ### Program counter, index and mode -/

lemma advance (amount : Int) : Lockstep related Eq (State.advance amount) (State.advance amount) :=
  twins.update fun _ _ states => twins.pc _ states

lemma jumpTo (address : Int) : Lockstep related Eq (State.jumpTo address) (State.jumpTo address) :=
  twins.update fun _ _ states => twins.pc _ states

lemma setIndex (address : Int) :
    Lockstep related Eq (State.setIndex address) (State.setIndex address) :=
  twins.update fun _ _ states => twins.index _ states

lemma resume : Lockstep related Eq State.resume State.resume :=
  twins.update fun _ _ states => twins.mode _ states

/-! ### The stack -/

section

variable (stacked : ∀ {state twin} stack, related state twin →
  related { state with stack } { twin with stack })
include stacked

lemma push (address : Int) : Lockstep related Eq (State.push address) (State.push address) :=
  twins.get_then (fun _ => .ite (.throw _) (twins.update fun _ _ states => stacked _ states))
    fun _ _ => rfl

lemma pop : Lockstep related Eq State.pop State.pop := by
  refine twins.get_then (fun state => ?_) fun _ _ => rfl
  cases state.stack with
  | nil => exact .throw _
  | cons address rest =>
      exact Lockstep.bind_eq (twins.update fun _ _ states => stacked _ states) fun _ => .pure rfl

end

/-! ## Instructions -/

lemma storeWithFlag (ins : Instruction) (result : Int) (flag : Bool) :
    Lockstep related Eq (State.storeWithFlag ins result flag) (State.storeWithFlag ins result flag) :=
  (twins.setRegister _ _).bind_eq fun _ => (twins.setFlag _).bind_eq fun _ => twins.advance _

lemma drawSprite (ins : Instruction) :
    Lockstep related Eq (State.drawSprite ins) (State.drawSprite ins) := by
  refine twins.get_then (fun state => (twins.readBlock _ _).bind_eq fun rows =>
    (twins.registerAt _).bind_eq fun vx => (twins.registerAt _).bind_eq fun vy => ?_) fun _ _ => rfl
  have rest (collision : Bool) := (twins.setFlag collision).bind_eq fun _ => twins.advance 2
  -- the new screen is made from the screen that it replaces
  intro state twin states
  obtain ⟨soundTimer, rfl⟩ := twins.same states
  exact rest _ _ _ (twins.drawn vx vy rows states)

/-- **An instruction does the same on related states**, and the stack matters to calls and returns
alone. -/
theorem perform (kind : Kind)
    (stacked : kind = .call ∨ kind = .ret → ∀ {state twin} stack, related state twin →
      related { state with stack } { twin with stack })
    (glyphBase byte : Int) (ins : Instruction) :
    Lockstep related Eq (kind.perform glyphBase byte ins) (kind.perform glyphBase byte ins) := by
  have read (register : Nat) := twins.registerAt register
  have set (register value : Int) := twins.setRegister register value
  have write (address value : Int) := twins.writeByte address value
  have jump (address : Int) := twins.jumpTo address
  have advance (amount : Int) := twins.advance amount
  have point (address : Int) := twins.setIndex address
  have flagged (result : Int) (flag : Bool) := twins.storeWithFlag ins result flag
  cases kind with
  | clear => exact Lockstep.bind_eq (twins.update fun _ _ states => twins.cleared states) fun _ => advance _
  | ret => exact (twins.pop (stacked (.inr rfl))).bind_eq fun _ => jump _
  | jump => exact jump _
  | call =>
      exact twins.get_then (fun _ => (twins.push (stacked (.inl rfl)) _).bind_eq fun _ => jump _)
        fun _ _ => rfl
  | skipEqByte | skipNeByte => exact (read _).bind_eq fun _ => advance _
  | skipEqReg | skipNeReg => exact (read _).bind_eq fun _ => (read _).bind_eq fun _ => advance _
  | skipPressed | skipReleased => exact (twins.keyNamedBy _).bind_eq fun _ => advance _
  | setByte | random => exact (set _ _).bind_eq fun _ => advance _
  | addByte => exact (read _).bind_eq fun _ => (set _ _).bind_eq fun _ => advance _
  | copy | or | and | xor =>
      exact (read _).bind_eq fun _ => (read _).bind_eq fun _ => (set _ _).bind_eq fun _ => advance _
  | add | subtract | subtractFrom =>
      exact (read _).bind_eq fun _ => (read _).bind_eq fun _ => flagged _ _
  | shiftRight | shiftLeft => exact (read _).bind_eq fun _ => flagged _ _
  | setIndex => exact (point _).bind_eq fun _ => advance _
  | jumpOffset => exact (read _).bind_eq fun _ => jump _
  | draw => exact twins.drawSprite ins
  | readDelay =>
      exact twins.get_then (fun _ => (set _ _).bind_eq fun _ => advance _) fun _ _ => rfl
  | awaitKey => exact twins.update fun _ _ states => twins.mode _ states
  | setDelay =>
      exact (read _).bind_eq fun _ =>
        Lockstep.bind_eq (twins.update fun _ _ states => twins.delayTimer _ states) fun _ => advance _
  | setSound =>
      exact (read _).bind_eq fun _ =>
        Lockstep.bind_eq (twins.update fun _ _ states => twins.soundTimer _ states) fun _ => advance _
  | addIndex =>
      exact (read _).bind_eq fun _ =>
        twins.get_then (fun _ => (point _).bind_eq fun _ => advance _) fun _ _ => rfl
  | pointGlyph => exact (read _).bind_eq fun _ => (point _).bind_eq fun _ => advance _
  | storeDigits =>
      exact (read _).bind_eq fun _ => twins.get_then
        (fun _ => (write _ _).bind_eq fun _ => (write _ _).bind_eq fun _ => (write _ _).bind_eq fun _ =>
          advance _) fun _ _ => rfl
  | storeRegisters =>
      refine Lockstep.bind_eq (.forM (fun register => ?_) _) fun _ => advance _
      exact (read _).bind_eq fun _ => twins.get_then (fun _ => write _ _) fun _ _ => rfl
  | loadRegisters =>
      refine Lockstep.bind_eq (.forM (fun register => ?_) _) fun _ => advance _
      exact twins.get_then (fun _ => (twins.readByte _).bind_eq fun _ => set _ _) fun _ _ => rfl
  | invalid => exact advance _

/-- The same for an instruction that is counted, whether the set knows it or not. -/
theorem execute (set : InstructionSet) {kind : Kind}
    (stacked : kind = .call ∨ kind = .ret → ∀ {state twin} stack, related state twin →
      related { state with stack } { twin with stack })
    (byte : Int) (ins : Instruction) :
    Lockstep related Eq (set.execute byte kind ins) (set.execute byte kind ins) := by
  rw [set.execute_eq]
  exact .ite (Lockstep.bind_eq (twins.perform kind stacked _ _ _) fun _ =>
    twins.update fun _ _ states => twins.cycleCount _ states) (.throw _)

end State.Twins
end Chip8
