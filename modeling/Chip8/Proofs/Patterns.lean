import Chip8.Instruction.Decoding
import Chip8.Proofs.Forms
import Mathlib.Data.Int.Bitwise
import Mathlib.Data.List.Find

/-!
# The table of patterns is unambiguous

The table is read from the top and the first row that covers a word decides, as if the order of the rows
mattered.  It does not: a word is covered by one row at most.

A row looks at the sixteen low bits of an integer.  Reference cards mask the integer itself, which has all
the bits of its two's complement, and a negative one has no end of them.  No mask of the table reaches above
the low word, so it comes to the same.

* `testBit_lowWord`, **`Pattern.covers_iff_land`** — the low word has the low bits of the integer, and a row
  covers an integer exactly if masking it leaves the row's value.
* `Pattern.covers_own` — a row covers its own value, with whatever bits outside its mask.
* `Kind.ofOpcode_of_covers`, `Kind.classify_perm` — a row that covers a word decides, in any order.
* **`patterns_unambiguous`** — all of it, for every integer.
-/

namespace Chip8

/-! ## Bits of the low word -/

/-- The low word of an integer has its sixteen low bits and no others. -/
lemma testBit_lowWord (opcode : Int) (bit : Nat) :
    (lowWord opcode).testBit bit = (decide (bit < 16) && opcode.testBit bit) := by
  cases opcode with
  | ofNat natural =>
      have word : lowWord natural = natural % 2 ^ 16 := by
        simp only [lowWord]
        omega
      rw [Int.ofNat_eq_natCast, word, Nat.testBit_mod_two_pow]
      rfl
  | negSucc natural =>
      -- the bits of a negative integer are those of its complement, turned round
      have word : lowWord (Int.negSucc natural) = 2 ^ 16 - (natural % 2 ^ 16 + 1) := by
        simp only [lowWord]
        omega
      have small : natural % 2 ^ 16 < 2 ^ 16 := Nat.mod_lt _ (Nat.two_pow_pos 16)
      rw [word, Nat.testBit_two_pow_sub_succ small, Nat.testBit_mod_two_pow]
      cases decide (bit < 16) <;> rfl

/-- A short mask has no bits above the low word. -/
lemma testBit_of_short {mask bit : Nat} (short : mask < 2 ^ 16) (high : ¬ bit < 16) :
    mask.testBit bit = false :=
  Nat.testBit_lt_two_pow (lt_of_lt_of_le short (Nat.pow_le_pow_right (by decide) (not_lt.1 high)))

/-- A mask of sixteen bits leaves the same of an integer and of its low word. -/
lemma land_eq_lowWord_and (opcode : Int) {mask : Nat} (short : mask < 2 ^ 16) :
    Int.land opcode mask = (lowWord opcode &&& mask : Nat) := by
  obtain ⟨masked, natural⟩ : ∃ masked : Nat, Int.land opcode mask = masked := by
    cases opcode <;> exact ⟨_, rfl⟩
  rw [natural]
  refine congrArg _ (Nat.eq_of_testBit_eq fun bit => ?_)
  have bits : masked.testBit bit = (opcode.testBit bit && mask.testBit bit) := by
    have same := Int.testBit_land opcode mask bit
    rwa [natural] at same
  rw [bits, Nat.testBit_and, testBit_lowWord]
  by_cases low : bit < 16
  · simp [low]
  · simp [testBit_of_short short low]

/-! ## Rows -/

namespace Pattern

variable {pattern : Pattern}

/-- Masks have sixteen bits. -/
lemma mask_lt (listed : pattern ∈ patterns) : pattern.mask < 2 ^ 16 := by
  have all : ∀ pattern ∈ patterns, pattern.mask < 2 ^ 16 := by decide
  exact all pattern listed

/-- **A row covers an integer exactly if masking the integer leaves the value of the row.** -/
theorem covers_iff_land (listed : pattern ∈ patterns) (opcode : Int) :
    pattern.covers opcode = true ↔ Int.land opcode pattern.mask = pattern.value := by
  rw [covers, beq_iff_eq, land_eq_lowWord_and opcode (mask_lt listed), Nat.cast_inj]

/-- The value of a row has no bits outside its mask. -/
lemma value_and_mask (listed : pattern ∈ patterns) : pattern.value &&& pattern.mask = pattern.value := by
  have all : ∀ pattern ∈ patterns, pattern.value &&& pattern.mask = pattern.value := by decide
  exact all pattern listed

/-- **A row covers its own value**, and the bits outside the mask may be those of any integer. -/
theorem covers_own (listed : pattern ∈ patterns) (free : Int) :
    pattern.covers (Int.lor pattern.value (Int.ldiff free pattern.mask)) = true := by
  rw [covers, beq_iff_eq]
  refine (Nat.eq_of_testBit_eq fun bit => ?_).trans (value_and_mask listed)
  rw [Nat.testBit_and, Nat.testBit_and, testBit_lowWord, Int.testBit_lor, Int.testBit_ldiff]
  change (_ && (pattern.value.testBit bit || free.testBit bit && !pattern.mask.testBit bit) && _) = _
  by_cases low : bit < 16
  · cases pattern.mask.testBit bit <;> simp [low]
  · simp [testBit_of_short (mask_lt listed) low]

end Pattern

/-- No two rows cover the same integer. -/
lemma patterns_pairwise (opcode : Int) :
    patterns.Pairwise fun first second =>
      ¬ (first.covers opcode = true ∧ second.covers opcode = true) := by
  have distinct : patterns.Nodup := by decide
  refine distinct.imp_of_mem fun left right different both => ?_
  exact different (patterns_apart left right both.1 both.2)

/-! ## Kinds -/

/-- **A row that covers an integer decides its kind**, whatever stands in front of it. -/
theorem Kind.ofOpcode_of_covers {pattern : Pattern} (listed : pattern ∈ patterns) {opcode : Int}
    (covered : pattern.covers opcode = true) : Kind.ofOpcode opcode = pattern.kind :=
  Kind.ofOpcode_eq_iff.2 ((Pattern.covers_iff_form listed opcode).1 covered)

/-- An integer that no row covers has no meaning. -/
lemma Kind.ofOpcode_eq_invalid {opcode : Int}
    (uncovered : ∀ pattern ∈ patterns, pattern.covers opcode = false) :
    Kind.ofOpcode opcode = .invalid := by
  have uncovered : patterns.find? (·.covers opcode) = none :=
    List.find?_eq_none.2 fun pattern listed => by simp [uncovered pattern listed]
  rw [ofOpcode, classify, uncovered]

/-- Bits above the low word do not matter. -/
lemma Kind.ofOpcode_congr {opcode other : Int} (same : other % 65536 = opcode % 65536) :
    Kind.ofOpcode other = Kind.ofOpcode opcode := by
  have word : lowWord other = lowWord opcode := by rw [lowWord, same, lowWord]
  have covered : (fun pattern : Pattern => pattern.covers other) = (·.covers opcode) := by
    funext pattern
    rw [Pattern.covers, word, Pattern.covers]
  rw [ofOpcode, classify, covered, ofOpcode, classify]

/-- **The order of the rows does not matter.** -/
theorem Kind.classify_perm {table : List Pattern} (perm : table.Perm patterns) (opcode : Int) :
    Kind.classify table opcode = Kind.ofOpcode opcode := by
  have unique : {pattern ∈ patterns | pattern.covers opcode = true}.Subsingleton :=
    fun _ first _ second => patterns_apart first.1 second.1 first.2 second.2
  rw [ofOpcode, classify, classify, List.find?_eq_find?_of_perm perm.symm unique]

/-- **The table is unambiguous.**  Whatever integer is looked up, no two rows match it; the one that does
decides its kind, and where there is none the integer has no meaning.  So the rows may stand in any order,
and only the low word counts.  Every row is reached: by its own value, with any bits outside its mask. -/
theorem patterns_unambiguous (opcode : Int) :
    (patterns.Pairwise fun first second =>
      ¬ (Int.land opcode first.mask = first.value ∧ Int.land opcode second.mask = second.value)) ∧
    (∀ pattern ∈ patterns, Int.land opcode pattern.mask = pattern.value →
      Kind.ofOpcode opcode = pattern.kind) ∧
    ((∀ pattern ∈ patterns, Int.land opcode pattern.mask ≠ pattern.value) →
      Kind.ofOpcode opcode = .invalid) ∧
    (∀ table : List Pattern, table.Perm patterns →
      Kind.classify table opcode = Kind.ofOpcode opcode) ∧
    (∀ other : Int, other % 65536 = opcode % 65536 → Kind.ofOpcode other = Kind.ofOpcode opcode) ∧
    ∀ pattern ∈ patterns, ∀ free : Int,
      let word := Int.lor pattern.value (Int.ldiff free pattern.mask)
      Kind.ofOpcode word = pattern.kind ∧
        (0 ≤ word → word ≤ 0xFFFF → decode word = .ok ⟨⟨word⟩, pattern.kind⟩) := by
  refine ⟨?_, ?_, ?_, fun _ perm => Kind.classify_perm perm opcode,
    fun _ same => Kind.ofOpcode_congr same, ?_⟩
  · refine (patterns_pairwise opcode).imp_of_mem fun left right never both => never ?_
    exact ⟨(Pattern.covers_iff_land left opcode).2 both.1,
      (Pattern.covers_iff_land right opcode).2 both.2⟩
  · intro pattern listed masked
    exact Kind.ofOpcode_of_covers listed ((Pattern.covers_iff_land listed opcode).2 masked)
  · intro unmatched
    refine Kind.ofOpcode_eq_invalid fun pattern listed => Bool.eq_false_iff.2 fun covered => ?_
    exact unmatched pattern listed ((Pattern.covers_iff_land listed opcode).1 covered)
  · intro pattern listed free word
    have kind : Kind.ofOpcode word = pattern.kind :=
      Kind.ofOpcode_of_covers listed (Pattern.covers_own listed free)
    refine ⟨kind, fun positive short => ?_⟩
    rw [decode, if_pos ⟨positive, short⟩, Decoding.ofOpcode, kind]

/-- The word `EF9E` below zero, where all bits above the low word are set, in a table that is turned
round. -/
theorem patterns_unambiguous_negative :
    patterns.reverse.Perm patterns ∧ (⟨0xF0FF, 0xE09E, .skipPressed⟩ : Pattern) ∈ patterns ∧
      Int.lor 0xE09E (Int.ldiff (-1) 0xF0FF) = 0xEF9E - 65536 ∧
      Kind.ofOpcode (0xEF9E - 65536) = .skipPressed ∧
      Kind.classify patterns.reverse (0xEF9E - 65536) = .skipPressed ∧
      Kind.ofOpcode 0xEF9E = .skipPressed ∧ Kind.ofOpcode (0xEF9F - 65536) = .invalid := by
  have listed : (⟨0xF0FF, 0xE09E, .skipPressed⟩ : Pattern) ∈ patterns := by decide
  have number : Int.lor 0xE09E (Int.ldiff (-1) 0xF0FF) = 0xEF9E - 65536 := by decide +kernel
  obtain ⟨-, -, -, turned, cut, own⟩ := patterns_unambiguous (0xEF9E - 65536)
  have kind : Kind.ofOpcode (0xEF9E - 65536) = .skipPressed := number ▸ (own _ listed (-1)).1
  refine ⟨List.reverse_perm _, listed, number, kind, ?_, ?_, ?_⟩
  · rw [turned _ (List.reverse_perm _), kind]
  · rw [cut 0xEF9E rfl, kind]
  · exact (patterns_unambiguous (0xEF9F - 65536)).2.2.1 (by decide +kernel)

end Chip8
