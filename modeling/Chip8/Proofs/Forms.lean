import Chip8.Instruction.Word
import Mathlib.Tactic.Common
import Mathlib.Tactic.FinCases
import Mathlib.Tactic.IntervalCases

/-!
# The forms of instruction words

Reference cards write an instruction as four hexadecimal digits, some of them fixed and the others
standing for operands: `8XY4`, `FX33`.  The table of patterns says the same with masks and takes the
first row that covers a word.

* `Kind.Form` — the words of a kind by their digits.  What is left for `Kind.invalid` is spelled out,
  too.
* `lowWord_and_mask` — what a mask leaves of a word: the first digit and some of the low bits.
* `patterns_apart` — no two rows cover the same word, so nothing depends on their order.
* **`Kind.ofOpcode_eq_iff`** — a word is of a kind exactly if it has the form of the kind.

Two rows of masks and values overlap only if they agree on the bits that both fix.  That is a question
about numbers in the table and is decided there; no word is looked at.
-/

namespace Chip8

/-! ## Forms -/

/-- The words of a kind, digit by digit. -/
def Kind.Form (ins : Instruction) : Kind → Prop
  | clear => ins.family = 0x0 ∧ ins.nnn = 0x0E0
  | ret => ins.family = 0x0 ∧ ins.nnn = 0x0EE
  | jump => ins.family = 0x1
  | call => ins.family = 0x2
  | skipEqByte => ins.family = 0x3
  | skipNeByte => ins.family = 0x4
  | skipEqReg => ins.family = 0x5 ∧ ins.n = 0x0
  | setByte => ins.family = 0x6
  | addByte => ins.family = 0x7
  | copy => ins.family = 0x8 ∧ ins.n = 0x0
  | or => ins.family = 0x8 ∧ ins.n = 0x1
  | and => ins.family = 0x8 ∧ ins.n = 0x2
  | xor => ins.family = 0x8 ∧ ins.n = 0x3
  | add => ins.family = 0x8 ∧ ins.n = 0x4
  | subtract => ins.family = 0x8 ∧ ins.n = 0x5
  | shiftRight => ins.family = 0x8 ∧ ins.n = 0x6
  | subtractFrom => ins.family = 0x8 ∧ ins.n = 0x7
  | shiftLeft => ins.family = 0x8 ∧ ins.n = 0xE
  | skipNeReg => ins.family = 0x9 ∧ ins.n = 0x0
  | setIndex => ins.family = 0xA
  | jumpOffset => ins.family = 0xB
  | random => ins.family = 0xC
  | draw => ins.family = 0xD
  | skipPressed => ins.family = 0xE ∧ ins.nn = 0x9E
  | skipReleased => ins.family = 0xE ∧ ins.nn = 0xA1
  | readDelay => ins.family = 0xF ∧ ins.nn = 0x07
  | awaitKey => ins.family = 0xF ∧ ins.nn = 0x0A
  | setDelay => ins.family = 0xF ∧ ins.nn = 0x15
  | setSound => ins.family = 0xF ∧ ins.nn = 0x18
  | addIndex => ins.family = 0xF ∧ ins.nn = 0x1E
  | pointGlyph => ins.family = 0xF ∧ ins.nn = 0x29
  | storeDigits => ins.family = 0xF ∧ ins.nn = 0x33
  | storeRegisters => ins.family = 0xF ∧ ins.nn = 0x55
  | loadRegisters => ins.family = 0xF ∧ ins.nn = 0x65
  | invalid =>
    ins.family = 0x0 ∧ ins.nnn ≠ 0x0E0 ∧ ins.nnn ≠ 0x0EE ∨
    (ins.family = 0x5 ∨ ins.family = 0x9) ∧ ins.n ≠ 0x0 ∨
    ins.family = 0x8 ∧ (0x8 ≤ ins.n ∧ ins.n ≤ 0xD ∨ ins.n = 0xF) ∨
    ins.family = 0xE ∧ ins.nn ≠ 0x9E ∧ ins.nn ≠ 0xA1 ∨
    ins.family = 0xF ∧ ins.nn ∉ [0x07, 0x0A, 0x15, 0x18, 0x1E, 0x29, 0x33, 0x55, 0x65]

/-- No word has the form of an instruction and that of a word without a meaning. -/
lemma Kind.not_form_of_invalid {ins : Instruction} (form : Kind.invalid.Form ins) {kind : Kind}
    (documented : kind ≠ .invalid) : ¬ kind.Form ins := by
  intro other
  simp only [Form, List.mem_cons, List.not_mem_nil, or_false, not_or] at form
  cases kind with
  | invalid => exact documented rfl
  | _ =>
      simp only [Form] at other
      omega

/-- A word without the form of an instruction has no meaning. -/
lemma Kind.form_invalid {ins : Instruction}
    (unmatched : ∀ kind : Kind, kind ≠ .invalid → ¬ kind.Form ins) : Kind.invalid.Form ins := by
  have listed : ∀ kind ∈ Kind.all, kind ≠ .invalid → ¬ kind.Form ins := fun kind _ => unmatched kind
  have family : ins.family < 16 := by
    unfold Instruction.family
    omega
  have low := ins.n_lt
  simp [Kind.all, Form] at listed
  simp only [Form]
  generalize ins.family = digit at *
  -- for each first digit only the kinds of that family are left
  interval_cases digit <;> simp_all
  omega

/-! ## Masks -/

/-- Every mask of the table keeps the first digit and some low bits, four, eight or twelve if any. -/
lemma lowWord_and_mask (opcode : Int) {bits : Nat} (few : bits ≤ 12) :
    lowWord opcode &&& (0xF000 + (2 ^ bits - 1)) =
      4096 * (⟨opcode⟩ : Instruction).family + lowWord opcode % 2 ^ bits := by
  have small : 2 ^ bits ≤ 2 ^ 12 := Nat.pow_le_pow_right (by decide) few
  have positive : 0 < 2 ^ bits := Nat.two_pow_pos bits
  have high : (0xF000 + (2 ^ bits - 1)) / 2 ^ 12 = 2 ^ 4 - 1 := by omega
  have low : (0xF000 + (2 ^ bits - 1)) % 2 ^ 12 = 2 ^ bits - 1 := by omega
  have family : lowWord opcode / 2 ^ 12 % 2 ^ 4 = (⟨opcode⟩ : Instruction).family := by
    simp only [lowWord, Instruction.family]
    omega
  calc lowWord opcode &&& (0xF000 + (2 ^ bits - 1))
      = 2 ^ 12 * ((lowWord opcode &&& (0xF000 + (2 ^ bits - 1))) / 2 ^ 12) +
          (lowWord opcode &&& (0xF000 + (2 ^ bits - 1))) % 2 ^ 12 := (Nat.div_add_mod _ _).symm
    _ = 2 ^ 12 * (lowWord opcode / 2 ^ 12 % 2 ^ 4) + lowWord opcode % 2 ^ 12 % 2 ^ bits := by
        rw [Nat.and_div_two_pow, Nat.and_mod_two_pow, high, low, Nat.and_two_pow_sub_one_eq_mod,
          Nat.and_two_pow_sub_one_eq_mod]
    _ = 4096 * (⟨opcode⟩ : Instruction).family + lowWord opcode % 2 ^ bits := by
        rw [family, Nat.mod_mod_of_dvd _ (Nat.pow_dvd_pow 2 few)]
        rfl

/-! ## Rows of the table -/

/-- A row covers the words that have the form of its kind. -/
lemma Pattern.covers_iff_form {pattern : Pattern} (listed : pattern ∈ patterns) (opcode : Int) :
    pattern.covers opcode = true ↔ pattern.kind.Form ⟨opcode⟩ := by
  set ins : Instruction := ⟨opcode⟩ with word
  have family : lowWord opcode &&& 0xF000 = 4096 * ins.family := by
    simpa [Nat.mod_one] using lowWord_and_mask opcode (Nat.zero_le 12)
  have n : lowWord opcode &&& 0xF00F = 4096 * ins.family + ins.n := by
    rw [show (0xF00F : Nat) = 0xF000 + (2 ^ 4 - 1) by decide, lowWord_and_mask opcode (by decide)]
    simp only [word, lowWord, Instruction.n]
    omega
  have nn : lowWord opcode &&& 0xF0FF = 4096 * ins.family + ins.nn := by
    rw [show (0xF0FF : Nat) = 0xF000 + (2 ^ 8 - 1) by decide, lowWord_and_mask opcode (by decide)]
    simp only [word, lowWord, Instruction.nn]
    omega
  have nnn : lowWord opcode &&& 0xFFFF = 4096 * ins.family + ins.nnn := by
    rw [show (0xFFFF : Nat) = 0xF000 + (2 ^ 12 - 1) by decide, lowWord_and_mask opcode (by decide)]
    simp only [word, lowWord, Instruction.nnn]
    omega
  have hn := ins.n_lt
  have hnn := ins.nn_lt
  have hnnn := ins.nnn_lt
  fin_cases listed <;>
    simp only [Pattern.covers, beq_iff_eq, family, n, nn, nnn, Kind.Form] <;> omega

/-- **Rows are apart**: no word is covered by two of them. -/
theorem patterns_apart {first second : Pattern} (left : first ∈ patterns) (right : second ∈ patterns)
    {opcode : Int} (here : first.covers opcode = true) (there : second.covers opcode = true) :
    first = second := by
  -- rows that agree on the bits that both fix are the same row
  have decided : ∀ first ∈ patterns, ∀ second ∈ patterns,
      first.value &&& second.mask = second.value &&& first.mask → first = second := by
    decide +kernel
  simp only [Pattern.covers, beq_iff_eq] at here there
  refine decided first left second right ?_
  rw [← here, ← there, Nat.and_assoc, Nat.and_assoc, Nat.and_comm first.mask]

/-- Every documented kind has a row. -/
lemma Kind.exists_pattern {kind : Kind} (documented : kind ≠ .invalid) :
    ∃ pattern ∈ patterns, pattern.kind = kind := by
  have rows : ∀ kind ∈ Kind.all, kind ≠ .invalid → ∃ pattern ∈ patterns, pattern.kind = kind := by
    decide +kernel
  exact rows kind kind.mem_all documented

/-! ## The kind of a word -/

/-- A word has the form of the kind that the table gives it. -/
lemma Kind.form_ofOpcode (opcode : Int) : (Kind.ofOpcode opcode).Form ⟨opcode⟩ := by
  rw [ofOpcode, classify]
  cases found : patterns.find? (·.covers opcode) with
  | some pattern =>
      have listed : pattern ∈ patterns := List.mem_of_find?_eq_some found
      have covered := List.find?_some found
      exact (Pattern.covers_iff_form listed opcode).1 covered
  | none =>
      refine form_invalid fun kind documented form => ?_
      obtain ⟨pattern, listed, rfl⟩ := exists_pattern documented
      exact List.find?_eq_none.1 found pattern listed ((Pattern.covers_iff_form listed opcode).2 form)

/-- **A word is of a kind exactly if it has the form of the kind.** -/
theorem Kind.ofOpcode_eq_iff {kind : Kind} {opcode : Int} :
    Kind.ofOpcode opcode = kind ↔ kind.Form ⟨opcode⟩ := by
  have own := form_ofOpcode opcode
  constructor
  · rintro rfl
    exact own
  · intro form
    by_cases meaningless : Kind.ofOpcode opcode = .invalid
    · rw [meaningless] at own ⊢
      by_contra documented
      exact not_form_of_invalid own (Ne.symm documented) form
    · have documented : kind ≠ .invalid := by
        rintro rfl
        exact not_form_of_invalid form meaningless own
      obtain ⟨first, left, here⟩ := exists_pattern meaningless
      obtain ⟨second, right, rfl⟩ := exists_pattern documented
      rw [← here] at own ⊢
      rw [patterns_apart left right ((Pattern.covers_iff_form left opcode).2 own)
        ((Pattern.covers_iff_form right opcode).2 form)]

instance (ins : Instruction) (kind : Kind) : Decidable (kind.Form ins) :=
  decidable_of_iff (Kind.ofOpcode ins.opcode = kind) Kind.ofOpcode_eq_iff

end Chip8
