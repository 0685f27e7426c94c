import Chip8.Proofs.Bounds
import Chip8.Proofs.Footprint

/-!
# Arithmetic on registers

The instructions of family 8, and the addition of a byte, read `Vx` and `Vy`, compute, and store a byte in
`Vx`.  Five of them also tell what did not fit: they set the flag to a carry, to the absence of a borrow, or
to the bit that a shift pushes out.  Result and flag together are then exact, which is an equation over the
integers, and every equation has just one solution in a byte and a bit.

`x`, `y` and the flag register may coincide in any way.  Both operands are read before anything is written,
and the flag is written last; so aliasing never spoils an operand, and the flag hides the result if the
result goes to the flag register.

* `Kind.LeadsTo` — carrying an instruction out has an outcome, in a set and in a step.
* `State.Rewritten` — all that a state has become, if only registers were written.
* `Kind.Exact`, `Kind.Exact.unique` — the equations and their solutions; `Kind.outcome_exact` — what is
  computed is a solution.
* `Kind.plain?` — the results of the instructions that leave the flag alone.
* **`arithmetic_is_exact`** — the registers after every such instruction.
-/

namespace Chip8

/-! ## Carrying an instruction out -/

/-- Carrying an instruction out is not refused, meets no fault, and leads to a state with a property: by
every set that has its kind, and in every step that fetches a word of its kind. -/
structure Kind.LeadsTo (kind : Kind) (ins : Instruction) (state : State) (property : State → Prop) :
    Prop where
  executed : ∀ (set : InstructionSet) (byte : Int), kind ∈ set.kinds →
    ∃ after, (set.execute byte kind ins).run state = .ok () after ∧ property after
  stepped : ∀ session : Session, session.machine.state = state →
    (∀ kind, kind ∈ session.machine.instructions.kinds) → state.mode = .running →
      fetch state.memory state.pc = .ok ins.opcode → kind.Form ins →
        ∃ entry left, Machine.step.run session = .ok (some entry) left ∧ entry.fault = none ∧
          property left.machine.state

variable {state : State} {ins : Instruction} {kind : Kind}

/-- Only calls, returns and words without a meaning can make a step tell of a fault; of all other kinds it
is enough to know the effect. -/
lemma Kind.leadsTo_of_effect (shaped : state.Shaped) (quiet : kind ∉ [Kind.call, .ret, .invalid])
    {property : State → Prop}
    (holds : ∀ glyphBase byte, property (kind.effect glyphBase byte ins state).counted) :
    kind.LeadsTo ins state property := by
  simp only [List.mem_cons, List.not_mem_nil, or_false, not_or] at quiet
  have harmless : kind.fault? state = none := by
    cases met : kind.fault? state with
    | none => rfl
    | some fault => rcases fault?_cases met with ⟨call, -⟩ | ⟨ret, -⟩ <;> simp_all
  constructor
  case executed =>
      intro set byte listed
      have run := InstructionSet.execute_run listed shaped byte ins
      rw [harmless] at run
      exact ⟨_, run, holds _ _⟩
  case stepped =>
      rintro session rfl complete running fetched form
      obtain ⟨entry, left, stepped, -, fault, machine⟩ :=
        Machine.step_executes shaped complete running fetched
      have known : Kind.ofOpcode ins.opcode = kind := Kind.ofOpcode_eq_iff.2 form
      have next := Machine.nextState_fetched running fetched
      rw [known, harmless] at next
      refine ⟨entry, left, stepped, ?_, ?_⟩
      · simp [fault, Machine.faultOf, known, harmless, warning?, quiet.2.2]
      · rw [machine]
        show property session.machine.nextState
        rw [next]
        exact holds _ _

/-! ## States in which registers were written -/

/-- A state behind an instruction that did nothing but write to registers, with what they hold now. -/
structure State.Rewritten (before : State) (contents : Nat → Option Int) (after : State) : Prop where
  registers : ∀ register, after.registers[register]? = contents register
  /-- Nothing else is touched. -/
  rest : after = { before with
    registers := after.registers, pc := before.pc + 2, cycleCount := before.cycleCount + 1 }

namespace State

lemma rewritten_put (shaped : state.Shaped) (value : Int) :
    state.Rewritten
      (fun register => if register = ins.x then some value else state.registers[register]?)
      (state.put ins.x value).past.counted where
  registers := by
    have inside : ins.x < state.registers.size := shaped.registers_size ▸ ins.x_lt
    intro register
    split_ifs with same
    · subst same
      exact Array.getElem?_setIfInBounds_self_of_lt inside
    · exact Kind.put_register same value
  rest := rfl

/-- The flag is written after the result, perhaps over it. -/
lemma rewritten_put_flag (shaped : state.Shaped) (value : Int) (condition : Bool) :
    state.Rewritten
      (fun register => if register = flagRegister then some (if condition then 1 else 0)
        else if register = ins.x then some value else state.registers[register]?)
      ((state.put ins.x value).flag condition).past.counted where
  registers := by
    have size := ((shaped_put ins.x value).2 shaped).registers_size
    intro register
    by_cases last : register = flagRegister
    · subst last
      rw [if_pos rfl]
      exact Array.getElem?_setIfInBounds_self_of_lt (by rw [size]; decide)
    · rw [if_neg last]
      exact (Kind.put_register last _).trans ((rewritten_put shaped value).registers register)
  rest := rfl

end State

/-! ## Results and flags -/

namespace Kind

/-- The instructions that set the flag to what their result lacks. -/
def flagged : List Kind := [.add, .subtract, .subtractFrom, .shiftRight, .shiftLeft]

/-- The equation that ties the operands of a flagged instruction to its result and its flag. -/
def Balances (a b result flag : Int) : Kind → Prop
  | add => result + 256 * flag = a + b
  | subtract => result + b = a + 256 * (1 - flag)
  | subtractFrom => result + a = b + 256 * (1 - flag)
  | shiftRight => 2 * result + flag = a
  | shiftLeft => result + 256 * flag = 2 * a
  | _ => False

/-- A byte and a bit that solve the equation of a flagged instruction. -/
structure Exact (kind : Kind) (a b result flag : Int) : Prop where
  byte : 0 ≤ result ∧ result ≤ 255
  bit : flag = 0 ∨ flag = 1
  balances : kind.Balances a b result flag

variable {a b : Int}

/-- **No equation has two solutions.** -/
lemma Exact.unique {result flag other bit : Int} (first : kind.Exact a b result flag)
    (second : kind.Exact a b other bit) : other = result ∧ bit = flag := by
  obtain ⟨_, _, left⟩ := first
  obtain ⟨_, _, right⟩ := second
  cases kind with
  | add | subtract | subtractFrom | shiftRight | shiftLeft =>
      simp only [Balances] at left right
      omega
  | _ => exact left.elim

/-- What a flagged instruction writes: its result, cut to a byte, and whether it raises the flag. -/
def outcome (a b : Int) : Kind → Int × Bool
  | add => ((a + b) % 256, 255 < a + b)
  | subtract => ((a - b) % 256, b ≤ a)
  | subtractFrom => ((b - a) % 256, a ≤ b)
  | shiftRight => (a / 2 % 256, a % 2 == 1)
  | shiftLeft => (2 * a % 256, a / 128 % 2 == 1)
  | _ => (0, false)

lemma effect_flagged (listed : kind ∈ flagged) (glyphBase byte : Int) :
    let outcome := kind.outcome (state.reg ins.x) (state.reg ins.y)
    kind.effect glyphBase byte ins state =
      ((state.put ins.x outcome.1).flag outcome.2).past := by
  cases kind with
  | add | subtract | subtractFrom | shiftRight | shiftLeft => rfl
  | _ => simp [flagged] at listed

/-- **What is written for bytes solves the equation.** -/
lemma outcome_exact (listed : kind ∈ flagged) (ha : 0 ≤ a ∧ a ≤ 255) (hb : 0 ≤ b ∧ b ≤ 255) :
    kind.Exact a b (kind.outcome a b).1 (if (kind.outcome a b).2 then 1 else 0) := by
  constructor
  case byte => cases kind <;> simp only [outcome] <;> omega
  case bit => split_ifs <;> simp
  case balances =>
      cases kind with
      | add | subtract | subtractFrom | shiftRight | shiftLeft =>
          simp only [Balances, outcome, decide_eq_true_eq, beq_iff_eq]
          split_ifs <;> omega
      | _ => simp [flagged] at listed

/-- The results of the instructions that leave the flag alone, of which one takes a byte of its word. -/
def plain? (a b : Int) (nn : Nat) : Kind → Option Int
  | copy => some b
  | or => some (a.toNat ||| b.toNat : Nat)
  | and => some (a.toNat &&& b.toNat : Nat)
  | xor => some (a.toNat ^^^ b.toNat : Nat)
  | addByte => some ((a + nn) % 256)
  | _ => none

lemma plain?_bounds (ha : 0 ≤ a ∧ a ≤ 255) (hb : 0 ≤ b ∧ b ≤ 255) {nn : Nat} {value : Int}
    (known : kind.plain? a b nn = some value) : 0 ≤ value ∧ value ≤ 255 := by
  have left : a.toNat < 2 ^ 8 := by omega
  have right : b.toNat < 2 ^ 8 := by omega
  have either := Nat.or_lt_two_pow left right
  have both := Nat.and_lt_two_pow a.toNat right
  have one := Nat.xor_lt_two_pow left right
  cases kind with
  | copy | or | and | xor | addByte =>
      obtain rfl := Option.some.inj known
      omega
  | _ => cases known

/-- Registers are bytes already, and so are these results; cutting them changes nothing. -/
lemma effect_plain (formed : state.WellFormed) {value : Int}
    (known : kind.plain? (state.reg ins.x) (state.reg ins.y) ins.nn = some value)
    (glyphBase byte : Int) :
    kind.effect glyphBase byte ins state = (state.put ins.x value).past := by
  have low (register : Nat) : State.lowByte (state.reg register) = (state.reg register).toNat := by
    have bounds := formed.reg_bounds register
    rw [State.lowByte, Int.emod_eq_of_lt bounds.1 (by omega)]
  have bounds := plain?_bounds (formed.reg_bounds ins.x) (formed.reg_bounds ins.y) known
  have cut : value % 256 = value := Int.emod_eq_of_lt bounds.1 (by omega)
  cases kind with
  | copy | or | and | xor =>
      obtain rfl := Option.some.inj known
      simp only [effect, low, cut]
  | addByte =>
      obtain rfl := Option.some.inj known
      rfl
  | _ => cases known

end Kind

/-! ## The registers afterwards -/

/-- **Arithmetic is exact, and aliasing does no harm.**  On a well-formed state, whatever registers the
operands are, a flagged instruction leaves the only byte and the only bit that solve its equation: the bit
in the flag register, and the byte in `Vx` unless that is the flag register.  The other instructions leave
their result in `Vx`.  No further register changes, and nothing else but the program counter and the count
of instructions. -/
theorem arithmetic_is_exact (formed : state.WellFormed) (ins : Instruction) :
    let a := state.reg ins.x
    let b := state.reg ins.y
    (∀ kind ∈ Kind.flagged, ∃ result flag, kind.Exact a b result flag ∧
      (∀ other bit, kind.Exact a b other bit → other = result ∧ bit = flag) ∧
      kind.LeadsTo ins state (state.Rewritten fun register =>
        if register = flagRegister then some flag
        else if register = ins.x then some result else state.registers[register]?)) ∧
    ∀ kind value, Kind.plain? a b ins.nn kind = some value →
      kind.LeadsTo ins state (state.Rewritten fun register =>
        if register = ins.x then some value else state.registers[register]?) := by
  intro a b
  have ha : 0 ≤ a ∧ a ≤ 255 := formed.reg_bounds ins.x
  have hb : 0 ≤ b ∧ b ≤ 255 := formed.reg_bounds ins.y
  constructor
  · intro kind listed
    have exact := Kind.outcome_exact listed ha hb
    have quiet : ∀ kind ∈ Kind.flagged, kind ∉ [Kind.call, .ret, .invalid] := by decide
    refine ⟨_, _, exact, fun other bit => exact.unique, ?_⟩
    refine Kind.leadsTo_of_effect formed.shaped (quiet kind listed) fun glyphBase byte => ?_
    rw [Kind.effect_flagged listed]
    exact State.rewritten_put_flag formed.shaped _ _
  · intro kind value known
    have quiet : kind ∉ [Kind.call, .ret, .invalid] := by
      intro member
      fin_cases member <;> cases known
    refine Kind.leadsTo_of_effect formed.shaped quiet fun glyphBase byte => ?_
    rw [Kind.effect_plain formed known]
    exact State.rewritten_put formed.shaped value

/-- With 200 in the flag register and 100 in `V3`: a step that fetches `8F34` adds them into the flag
register, where the carry replaces the sum; `83F5` subtracts the flag register from `V3` and then sets it,
for a borrow, to zero. -/
theorem arithmetic_is_exact_aliased :
    ∃ (session : Session) (entry : Entry) (added : Session) (subtracted : State),
      let before := session.machine.state
      before.reg 0xF = 200 ∧ before.reg 3 = 100 ∧ fetch before.memory before.pc = .ok 0x8F34 ∧
        Machine.step.run session = .ok (some entry) added ∧ entry.fault = none ∧
        added.machine.state.registers[0xF]? = some 1 ∧ added.machine.state.registers[3]? = some 100 ∧
        (InstructionSet.standard.execute 0 .subtract ⟨0x83F5⟩).run before = .ok () subtracted ∧
        subtracted.registers[3]? = some 156 ∧ subtracted.registers[0xF]? = some 0 := by
  obtain ⟨memory, written⟩ : ∃ memory,
      memory = (Memory.zeroed memorySize).writeBlock 6 [0x8F, 0x34] := ⟨_, rfl⟩
  have size : memory.size = memorySize := by simp [written, Memory.zeroed]
  have fetched : fetch memory 6 = .ok 0x8F34 := by
    rw [written]
    decide +kernel
  let registers : Array Int := #[0, 0, 0, 100, 0, 0, 0, 0, 0, 0, 0, 0, 0, 0, 0, 200]
  have bytes : ∀ value ∈ registers, 0 ≤ value ∧ value ≤ 255 := by decide
  let state : State := { memory, registers, pc := 6 }
  have formed : state.WellFormed :=
    { State.Sound.cleared with memory_size := size, registers_size := rfl, register_bounds := bytes }
  let session : Session :=
    { machine := { Machine.ofSettings { random := .sequence (fun _ => 0) 0 } 0 .standard with state } }
  obtain ⟨sum, carry, ⟨range, bit, balances⟩, -, leads⟩ :=
    (arithmetic_is_exact formed ⟨0x8F34⟩).1 .add (by decide)
  obtain ⟨entry, added, stepped, faultless, adds⟩ :=
    leads.stepped session rfl Kind.mem_all rfl fetched (by decide)
  obtain ⟨difference, rest, ⟨range', bit', balances'⟩, -, leads'⟩ :=
    (arithmetic_is_exact formed ⟨0x83F5⟩).1 .subtract (by decide)
  obtain ⟨subtracted, executed, subtracts⟩ := leads'.executed .standard 0 (by decide)
  change sum + 256 * carry = 200 + 100 at balances
  change difference + 200 = 100 + 256 * (1 - rest) at balances'
  obtain rfl : carry = 1 := by omega
  obtain ⟨rfl, rfl⟩ : difference = 156 ∧ rest = 0 := by omega
  exact ⟨session, entry, added, subtracted, rfl, rfl, fetched, stepped, faultless,
    adds.registers 0xF, adds.registers 3, executed, subtracts.registers 3, subtracts.registers 0xF⟩

end Chip8
