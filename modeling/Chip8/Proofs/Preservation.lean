import Chip8.Machine.Lemmas
import Chip8.Proofs.Twins

/-!
# Properties that computations keep

A computation that is refused half-way keeps what it had done.  So "the property still holds
afterwards" has to be shown of refusals too, and it can be, block by block: a sequence keeps what its
parts keep, wherever it stops.

* `leaves` — the state that a computation leaves behind, refused or not.
* **`Preserves`** — the property survives the computation; `Preserves.bind` follows the way in which
  computations are put together, and `Preserves.of_lockstep` takes it from two of them side by side.
* `State.Blind`, **`InstructionSet.preserves_execute`** — the same for instructions, once for all properties
  of the screen and of the stack.
-/

namespace Chip8

section

variable {σ α β : Type}

/-- The state that a computation leaves behind, refused or not. -/
def leaves (computation : EStateM Error σ α) (state : σ) : σ :=
  match computation.run state with
  | .ok _ left => left
  | .error _ left => left

lemma leaves_of_ok {computation : EStateM Error σ α} {state left : σ} {value : α}
    (run : computation.run state = .ok value left) : leaves computation state = left := by
  rw [leaves, run]

lemma leaves_of_error {computation : EStateM Error σ α} {state left : σ} {error : Error}
    (run : computation.run state = .error error left) : leaves computation state = left := by
  rw [leaves, run]

/-- A property survives a computation, refused or not. -/
def Preserves (property : σ → Prop) (computation : EStateM Error σ α) : Prop :=
  ∀ state, property state → property (leaves computation state)

namespace Preserves

variable {property : σ → Prop}

lemma pure (value : α) : Preserves property (Pure.pure value : EStateM Error σ α) :=
  fun _ holds => holds

lemma throw (error : Error) : Preserves property (MonadExcept.throw error : EStateM Error σ α) :=
  fun _ holds => holds

lemma bind {computation : EStateM Error σ α} {next : α → EStateM Error σ β}
    (first : Preserves property computation) (second : ∀ value, Preserves property (next value)) :
    Preserves property (computation >>= next) := by
  intro state holds
  have middle := first state holds
  rw [leaves, EStateM.run_bind]
  rw [leaves] at middle
  cases run : computation.run state with
  | ok value left =>
      rw [run] at middle
      exact second value left middle
  | error error left =>
      rw [run] at middle
      exact middle

lemma ite {condition : Prop} [Decidable condition] {first second : EStateM Error σ α}
    (yes : condition → Preserves property first) (no : ¬ condition → Preserves property second) :
    Preserves property (if condition then first else second) := by
  split
  · next holds => exact yes holds
  · next fails => exact no fails

/-- What computations in lockstep with themselves leave related is kept. -/
lemma of_lockstep {computation : EStateM Error σ α}
    (same : Lockstep (fun state twin => twin = state ∧ property state) Eq computation computation) :
    Preserves property computation := by
  intro state holds
  have ended := same state state ⟨rfl, holds⟩
  rw [leaves]
  generalize computation.run state = outcome at ended ⊢
  cases outcome with
  | ok value left =>
      cases ended with
      | ok _ states => exact states.2
  | error error left =>
      cases ended with
      | error states => exact states.2

end Preserves
end

/-! ## Instructions -/

/-- Of all that an instruction can change, the property looks at the screen and the stack only, and
clearing and drawing keep it. -/
structure State.Blind (property : State → Prop) : Prop where
  registers : ∀ state registers, property state → property { state with registers }
  memory : ∀ state memory, property state → property { state with memory }
  index : ∀ state index, property state → property { state with index }
  pc : ∀ state pc, property state → property { state with pc }
  mode : ∀ state mode, property state → property { state with mode }
  delayTimer : ∀ state delayTimer, property state → property { state with delayTimer }
  soundTimer : ∀ state soundTimer, property state → property { state with soundTimer }
  cycleCount : ∀ state cycleCount, property state → property { state with cycleCount }
  cleared : ∀ state, property state → property { state with screen := state.screen.clear }
  drawn : ∀ state x y rows, property state →
    property { state with screen := (state.screen.drawSprite x y rows).2 }

/-- What is said of the stack and of the keypad is blind to everything else. -/
lemma State.blind_view (view : List Int → Array Bool → Prop) :
    State.Blind fun state => view state.stack state.keypad where
  registers := fun _ _ holds => holds
  memory := fun _ _ holds => holds
  index := fun _ _ holds => holds
  pc := fun _ _ holds => holds
  mode := fun _ _ holds => holds
  delayTimer := fun _ _ holds => holds
  soundTimer := fun _ _ holds => holds
  cycleCount := fun _ _ holds => holds
  cleared := fun _ holds => holds
  drawn := fun _ _ _ _ holds => holds

section

variable {property : State → Prop} (blind : State.Blind property)
include blind

/-- Equal states with the property are twins. -/
lemma State.Blind.twins : State.Twins fun state twin => twin = state ∧ property state := by
  have kept {f : State → State} (keeps : ∀ state, property state → property (f state))
      {state twin : State} (states : twin = state ∧ property state) :
      f twin = f state ∧ property (f state) := ⟨congrArg f states.1, keeps state states.2⟩
  constructor
  case same =>
      rintro _ state ⟨rfl, -⟩
      exact ⟨state.soundTimer, rfl⟩
  case cleared =>
      rintro _ state ⟨rfl, holds⟩
      exact ⟨rfl, blind.cleared state holds⟩
  case drawn =>
      rintro _ state x y rows ⟨rfl, holds⟩
      exact ⟨rfl, blind.drawn state x y rows holds⟩
  case registers => exact fun registers => kept fun state => blind.registers state registers
  case memory => exact fun memory => kept fun state => blind.memory state memory
  case index => exact fun index => kept fun state => blind.index state index
  case pc => exact fun pc => kept fun state => blind.pc state pc
  case mode => exact fun mode => kept fun state => blind.mode state mode
  case delayTimer => exact fun delayTimer => kept fun state => blind.delayTimer state delayTimer
  case soundTimer => exact fun soundTimer => kept fun state => blind.soundTimer state soundTimer
  case cycleCount => exact fun cycleCount => kept fun state => blind.cycleCount state cycleCount

/-- **An instruction keeps what is blind to all but screen and stack**, and the stack matters to calls
and returns alone. -/
lemma InstructionSet.preserves_execute (set : InstructionSet) {kind : Kind}
    (calls : kind = .call ∨ kind = .ret →
      ∀ state stack, property state → property { state with stack })
    (byte : Int) (ins : Instruction) : Preserves property (set.execute byte kind ins) := by
  refine .of_lockstep (blind.twins.execute set ?_ byte ins)
  rintro call _ state stack ⟨rfl, holds⟩
  exact ⟨rfl, calls call state stack holds⟩

end
end Chip8
