import Chip8.InstructionSet
import Mathlib.Tactic.Common

/-!
# What computations are refused for

A computation that is put together from others is refused for nothing that its parts are not refused for.  So
the causes of a refusal can be collected block by block, on every state, whatever is missing from it.

Instructions have few causes.  The operands of a word name registers that exist, so what is left are faults of
the program and cells that a host has taken away.

* **`RefusesOnly`** — a computation is refused for some causes only; `RefusesOnly.bind` and its companions
  follow the way in which computations are put together.
* `RefusesOnly.registerAt`, `RefusesOnly.writeByte`, ... — the actions of the state.
* **`Kind.perform_refusesOnly`** — an instruction is refused for a fault or for a missing cell.
-/

namespace Chip8

section

variable {σ α β : Type} {cause : Error → Prop}

/-- Whatever a computation is refused for is among the causes. -/
def RefusesOnly (cause : Error → Prop) (computation : EStateM Error σ α) : Prop :=
  ∀ state error left, computation.run state = .error error left → cause error

namespace RefusesOnly

lemma of_ok {computation : EStateM Error σ α}
    (returns : ∀ state, ∃ value left, computation.run state = .ok value left) :
    RefusesOnly cause computation := by
  intro state error left refused
  obtain ⟨value, after, run⟩ := returns state
  rw [run] at refused
  cases refused

lemma pure (value : α) : RefusesOnly cause (Pure.pure value : EStateM Error σ α) :=
  of_ok fun state => ⟨value, state, rfl⟩

lemma throw {error : Error} (among : cause error) :
    RefusesOnly cause (MonadExcept.throw error : EStateM Error σ α) := by
  rintro state _ left ⟨⟩
  exact among

lemma bind {computation : EStateM Error σ α} {next : α → EStateM Error σ β}
    (first : RefusesOnly cause computation) (second : ∀ value, RefusesOnly cause (next value)) :
    RefusesOnly cause (computation >>= next) := by
  intro state error left refused
  rw [EStateM.run_bind] at refused
  cases run : computation.run state with
  | ok value middle =>
      rw [run] at refused
      exact second value middle error left refused
  | error other middle =>
      rw [run] at refused
      cases refused
      exact first state _ _ run

lemma ite {condition : Prop} [Decidable condition] {first second : EStateM Error σ α}
    (yes : condition → RefusesOnly cause first) (no : ¬ condition → RefusesOnly cause second) :
    RefusesOnly cause (if condition then first else second) := by
  split
  · next holds => exact yes holds
  · next fails => exact no fails

/-- Reads and updates are not refused at all. -/
lemma get_then {next : σ → EStateM Error σ α} (rest : ∀ state, RefusesOnly cause (next state)) :
    RefusesOnly cause (MonadState.get >>= next) :=
  bind (of_ok fun state => ⟨state, state, rfl⟩) rest

lemma update (f : σ → σ) : RefusesOnly cause (modify f : EStateM Error σ PUnit) :=
  of_ok fun state => ⟨(), f state, rfl⟩

lemma forM {body : α → EStateM Error σ PUnit} {values : List α}
    (each : ∀ value ∈ values, RefusesOnly cause (body value)) : RefusesOnly cause (values.forM body) := by
  induction values with
  | nil => exact .pure _
  | cons value rest ih =>
      have first := each value List.mem_cons_self
      exact first.bind fun _ => ih fun other later => each other (List.mem_cons_of_mem _ later)

lemma mapM {body : α → EStateM Error σ β} (each : ∀ value, RefusesOnly cause (body value))
    (values : List α) : RefusesOnly cause (values.mapM body) := by
  induction values with
  | nil => exact .pure _
  | cons value rest ih =>
      rw [List.mapM_cons]
      exact (each value).bind fun _ => ih.bind fun _ => .pure _

end RefusesOnly
end

/-! ## Actions of the state -/

namespace RefusesOnly

variable {cause : Error → Prop}

section

variable (missing : cause .outOfBounds)
include missing

lemma registerAt (position : Nat) : RefusesOnly cause (State.registerAt position) := by
  refine get_then fun state => ?_
  cases state.registers[position]? with
  | some value => exact .pure _
  | none => exact .throw missing

lemma replaceRegister (position : Nat) (value : Int) :
    RefusesOnly cause (State.replaceRegister position value) :=
  get_then fun _ => .ite (fun _ => update _) fun _ => .throw missing

lemma setRegister {register : Int}
    (foreign : ¬ (0 ≤ register ∧ register < 16) → cause (.invalidRegister register)) (value : Int) :
    RefusesOnly cause (State.setRegister register value) :=
  .ite (fun _ => replaceRegister missing _ _) fun outside => .throw (foreign outside)

/-- A register that a digit names is there to be set. -/
lemma setRegister_of_lt {register : Nat} (named : register < 16) (value : Int) :
    RefusesOnly cause (State.setRegister register value) :=
  setRegister missing (fun outside => absurd (by omega) outside) value

lemma keyNamedBy (register : Nat) : RefusesOnly cause (State.keyNamedBy register) := by
  refine (registerAt missing register).bind fun value => get_then fun state => ?_
  cases state.keypad[(value % 16).toNat]? with
  | some pressed => exact .pure _
  | none => exact .throw missing

lemma readByte (address : Int) : RefusesOnly cause (State.readByte address) := by
  refine get_then fun state => ?_
  cases state.memory.read? address with
  | some byte => exact .pure _
  | none => exact .throw missing

lemma readBlock (address : Int) (count : Nat) : RefusesOnly cause (State.readBlock address count) :=
  .mapM (fun _ => readByte missing _) _

lemma writeByte (address value : Int) : RefusesOnly cause (State.writeByte address value) :=
  get_then fun _ => .ite (fun _ => update _) fun _ => .throw missing

lemma writeBlock (address : Int) (data : List Int) : RefusesOnly cause (State.writeBlock address data) := by
  induction data generalizing address with
  | nil => exact .pure _
  | cons value rest ih => exact (writeByte missing address value).bind fun _ => ih _

end

section

variable (faulty : ∀ fault, cause (.fault fault))
include faulty

lemma push (address : Int) : RefusesOnly cause (State.push address) :=
  get_then fun _ => .ite (fun _ => .throw (faulty _)) fun _ => update _

lemma pop : RefusesOnly cause State.pop := by
  refine get_then fun state => ?_
  cases state.stack with
  | nil => exact .throw (faulty _)
  | cons address rest => exact (update _).bind fun _ => .pure _

end
end RefusesOnly

/-! ## Instructions -/

namespace Kind

variable {cause : Error → Prop} (missing : cause .outOfBounds) (faulty : ∀ fault, cause (.fault fault))
include missing faulty

/-- **An instruction is refused for a fault or for a missing cell** and for nothing else, on every state and
with all operands. -/
theorem perform_refusesOnly (kind : Kind) (glyphBase byte : Int) (ins : Instruction) :
    RefusesOnly cause (kind.perform glyphBase byte ins) := by
  have read (register : Nat) := RefusesOnly.registerAt missing register
  have set (value : Int) := RefusesOnly.setRegister_of_lt missing ins.x_lt value
  have flag (condition : Bool) : RefusesOnly cause (State.setFlag condition) :=
    .replaceRegister missing _ _
  have write (address value : Int) := RefusesOnly.writeByte missing address value
  have advance (amount : Int) : RefusesOnly cause (State.advance amount) := .update _
  have jump (address : Int) : RefusesOnly cause (State.jumpTo address) := .update _
  have point (address : Int) : RefusesOnly cause (State.setIndex address) := .update _
  have flagged (result : Int) (flagged : Bool) :
      RefusesOnly cause (State.storeWithFlag ins result flagged) :=
    (set _).bind fun _ => (flag _).bind fun _ => advance _
  cases kind with
  | clear => exact (RefusesOnly.update _).bind fun _ => advance _
  | ret => exact (RefusesOnly.pop faulty).bind fun _ => jump _
  | jump => exact jump _
  | call => exact .get_then fun _ => (RefusesOnly.push faulty _).bind fun _ => jump _
  | skipEqByte | skipNeByte => exact (read _).bind fun _ => advance _
  | skipEqReg | skipNeReg => exact (read _).bind fun _ => (read _).bind fun _ => advance _
  | skipPressed | skipReleased => exact (RefusesOnly.keyNamedBy missing _).bind fun _ => advance _
  | setByte | random => exact (set _).bind fun _ => advance _
  | addByte => exact (read _).bind fun _ => (set _).bind fun _ => advance _
  | copy | or | and | xor =>
      exact (read _).bind fun _ => (read _).bind fun _ => (set _).bind fun _ => advance _
  | add | subtract | subtractFrom => exact (read _).bind fun _ => (read _).bind fun _ => flagged _ _
  | shiftRight | shiftLeft => exact (read _).bind fun _ => flagged _ _
  | setIndex => exact (point _).bind fun _ => advance _
  | jumpOffset => exact (read _).bind fun _ => jump _
  | draw =>
      exact .get_then fun _ => (RefusesOnly.readBlock missing _ _).bind fun _ => (read _).bind fun _ =>
        (read _).bind fun _ => .get_then fun _ => (RefusesOnly.update _).bind fun _ =>
          (flag _).bind fun _ => advance _
  | readDelay => exact .get_then fun _ => (set _).bind fun _ => advance _
  | awaitKey => exact .update _
  | setDelay | setSound =>
      exact (read _).bind fun _ => (RefusesOnly.update _).bind fun _ => advance _
  | addIndex => exact (read _).bind fun _ => .get_then fun _ => (point _).bind fun _ => advance _
  | pointGlyph => exact (read _).bind fun _ => (point _).bind fun _ => advance _
  | storeDigits =>
      exact (read _).bind fun _ => .get_then fun _ => (write _ _).bind fun _ =>
        (write _ _).bind fun _ => (write _ _).bind fun _ => advance _
  | storeRegisters =>
      refine (RefusesOnly.forM fun register _ => ?_).bind fun _ => advance _
      exact (read _).bind fun _ => .get_then fun _ => write _ _
  | loadRegisters =>
      refine (RefusesOnly.forM fun register among => ?_).bind fun _ => advance _
      -- the registers up to one that exists
      have named : register < 16 := by
        have := ins.x_lt
        have := List.mem_range.1 among
        omega
      exact .get_then fun _ => (RefusesOnly.readByte missing _).bind fun value =>
        .setRegister_of_lt missing named value
  | invalid => exact advance _

end Kind

end Chip8
