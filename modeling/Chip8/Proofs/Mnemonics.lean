import Chip8.Machine
import Mathlib.Algebra.Group.Nat.Defs
import Mathlib.Tactic.Common

/-!
# What a mnemonic tells

A listing prints the text of an instruction and not its word.  The text drops some digits of the word:
`SHR VA` stands for sixteen words.  What it keeps is enough to know what the instruction does.

* `Text.hexValue_hexDigits`, `Text.hex_natCast_inj` — a numeral can be read back.
* `Template.slots`, `Template.isAligned` — where the characters of a template come to stand, whatever the
  operands are: numerals have a fixed width, except for one at the very end.
* `templates_apart` — any two templates put different characters in some place.
* `Kind.operands`, `Kind.perform_congr` — the fields that an instruction reads.
* **`Instruction.text_eq_iff`** — texts are equal exactly if kinds and operands are.
* **`same_text_same_behaviour`** — words with the same text act alike on every machine.

Kinds are told apart by the table of templates alone; like the overlap of patterns, that is decided on
the table and looks at no word.
-/

namespace Chip8

/-! ## Numerals -/

namespace Text

/-- The upper-case hexadecimal digits in the order of their values. -/
def hexAlphabet : List Char := "0123456789ABCDEF".toList

/-- The number that upper-case hexadecimal digits stand for. -/
def hexValue (digits : List Char) : Nat :=
  digits.foldl (fun value digit => 16 * value + hexAlphabet.idxOf digit) 0

lemma hexValue_concat (digits : List Char) (digit : Char) :
    hexValue (digits ++ [digit]) = 16 * hexValue digits + hexAlphabet.idxOf digit := by
  rw [hexValue, List.foldl_append, List.foldl_cons, List.foldl_nil, ← hexValue]

lemma hexValue_zeros (count : Nat) (digits : List Char) :
    hexValue (List.replicate count '0' ++ digits) = hexValue digits := by
  have zeros : hexValue (List.replicate count '0') = 0 := by
    induction count with
    | zero => rfl
    | succ count ih =>
        have zero : hexAlphabet.idxOf '0' = 0 := by decide
        rw [List.replicate_succ', hexValue_concat, ih, zero]
  rw [hexValue, List.foldl_append, ← hexValue, zeros, ← hexValue]

lemma idxOf_digitChar : ∀ digit < 16, hexAlphabet.idxOf (Nat.digitChar digit).toUpper = digit := by
  decide

lemma hexDigits_of_lt {n : Nat} (small : n < 16) : hexDigits n = [(Nat.digitChar n).toUpper] := by
  rw [hexDigits, Nat.toDigits_eq_if (by decide), if_pos small]
  rfl

lemma hexDigits_of_le {n : Nat} (large : 16 ≤ n) :
    hexDigits n = hexDigits (n / 16) ++ [(Nat.digitChar (n % 16)).toUpper] := by
  rw [hexDigits, Nat.toDigits_eq_if (by decide), if_neg (Nat.not_lt.2 large), List.map_append]
  rfl

/-- **Digits can be read back.** -/
theorem hexValue_hexDigits (n : Nat) : hexValue (hexDigits n) = n := by
  induction n using Nat.strongRecOn with
  | ind n ih =>
      by_cases small : n < 16
      · rw [hexDigits_of_lt small, ← List.nil_append [_], hexValue_concat, idxOf_digitChar n small]
        exact Nat.zero_add n
      · rw [hexDigits_of_le (Nat.not_lt.1 small), hexValue_concat, ih (n / 16) (by omega),
          idxOf_digitChar _ (Nat.mod_lt n (by decide))]
        exact Nat.div_add_mod n 16

lemma toList_hex (width n : Nat) :
    (hex width n).toList = List.replicate (width - (hexDigits n).length) '0' ++ hexDigits n := by
  have sign : ¬ (n : Int) < 0 := by omega
  simp [hex, padded, sign]

/-- **A numeral can be read back**, padded or not. -/
theorem hex_natCast_inj {width m n : Nat} : hex width m = hex width n ↔ m = n := by
  refine ⟨fun same => ?_, fun same => by rw [same]⟩
  have read (n : Nat) : hexValue (hex width n).toList = n := by
    rw [toList_hex, hexValue_zeros, hexValue_hexDigits]
  rw [← read m, same, read n]

/-- Numerals of numbers that fit have the same length. -/
lemma length_hex {width n : Nat} (positive : 0 < width) (fits : n < 16 ^ width) :
    (hex width n).toList.length = width := by
  have short : (hexDigits n).length ≤ width := by
    rw [hexDigits, List.length_map]
    exact (Nat.length_toDigits_le_iff (by decide) positive).2 fits
  rw [toList_hex, List.length_append, List.length_replicate]
  omega

/-- A decimal numeral can be read back, too. -/
lemma decimal_natCast_inj {m n : Nat} : toString (m : Int) = toString (n : Int) ↔ m = n := by
  refine ⟨fun same => ?_, fun same => by rw [same]⟩
  have written (n : Nat) : toString (n : Int) = String.ofList (Nat.toDigits 10 n) :=
    Nat.toString_eq_ofList_toDigits
  rw [written, written, String.ofList_inj] at same
  calc m = Nat.ofDigitChars 10 (Nat.toDigits 10 m) 0 := Nat.ofDigitChars_ten_toDigits.symm
    _ = Nat.ofDigitChars 10 (Nat.toDigits 10 n) 0 := by rw [same]
    _ = n := Nat.ofDigitChars_ten_toDigits

end Text

/-! ## Fields -/

/-- How many hexadecimal digits a field has. -/
def Field.digits : Field → Nat
  | opcode => 4
  | x | y | n => 1
  | nn => 2
  | nnn => 3

namespace Instruction

variable {first second ins : Instruction}

/-- The word is one of sixteen bits. -/
def IsWord (ins : Instruction) : Prop := 0 ≤ ins.opcode ∧ ins.opcode ≤ 0xFFFF

/-- Every field fits in its digits. -/
lemma field_bounds (word : ins.IsWord) (field : Field) :
    ∃ value : Nat, ins.field field = value ∧ value < 16 ^ field.digits := by
  cases field with
  | opcode =>
      obtain ⟨nonneg, most⟩ := word
      exact ⟨ins.opcode.toNat, (Int.toNat_of_nonneg nonneg).symm, by change _ < 65536; omega⟩
  | x => exact ⟨ins.x, rfl, ins.x_lt⟩
  | y => exact ⟨ins.y, rfl, ins.y_lt⟩
  | n => exact ⟨ins.n, rfl, ins.n_lt⟩
  | nn => exact ⟨ins.nn, rfl, ins.nn_lt⟩
  | nnn => exact ⟨ins.nnn, rfl, ins.nnn_lt⟩

end Instruction

/-! ## Pieces -/

namespace Piece

variable {first second ins : Instruction}

/-- The field that a piece shows. -/
def field? : Piece → Option Field
  | literal _ => none
  | hex field _ | decimal field => some field

/-- The characters of a piece; those that depend on the word are left open. -/
def slots : Piece → List (Option Char)
  | literal text => text.toList.map some
  | hex _ width => List.replicate width none
  | decimal _ => []

/-- The piece takes up the same room for every word. -/
def isFixed : Piece → Bool
  | literal _ => true
  | hex field width => width == field.digits
  | decimal _ => false

lemma length_render {piece : Piece} (fixed : piece.isFixed = true) (word : ins.IsWord) :
    (piece.render ins).toList.length = piece.slots.length := by
  cases piece with
  | literal text => simp [render, slots]
  | hex field width =>
      obtain ⟨value, same, fits⟩ := ins.field_bounds word field
      obtain rfl : width = field.digits := by simpa [isFixed] using fixed
      have positive : 0 < field.digits := by cases field <;> decide
      rw [render, same, Text.length_hex positive fits, slots, List.length_replicate]
  | decimal field => cases fixed

lemma field_eq_of_render_eq {piece : Piece} (one : first.IsWord) (other : second.IsWord)
    (same : piece.render first = piece.render second) {field : Field}
    (shown : piece.field? = some field) : first.field field = second.field field := by
  obtain ⟨m, first_eq, -⟩ := first.field_bounds one field
  obtain ⟨n, second_eq, -⟩ := second.field_bounds other field
  rw [first_eq, second_eq, Int.natCast_inj]
  cases piece with
  | literal text => cases shown
  | hex field' width =>
      obtain rfl : field' = field := Option.some.inj shown
      rw [render, render, first_eq, second_eq] at same
      exact Text.hex_natCast_inj.1 same
  | decimal field' =>
      obtain rfl : field' = field := Option.some.inj shown
      rw [render, render, first_eq, second_eq] at same
      exact Text.decimal_natCast_inj.1 same

lemma render_eq_of_field_eq {piece : Piece}
    (same : ∀ field, piece.field? = some field → first.field field = second.field field) :
    piece.render first = piece.render second := by
  cases piece with
  | literal text => rfl
  | hex field width => rw [render, render, same field rfl]
  | decimal field => rw [render, render, same field rfl]

end Piece

/-! ## Templates -/

namespace Template

variable {first second ins : Instruction}

/-- Only the last piece of a template may vary in width. -/
def isAligned : Template → Bool
  | [] => true
  | [.decimal _] => true
  | piece :: rest => piece.isFixed && isAligned rest

/-- The characters of a template; those that depend on the word are left open. -/
def slots (template : Template) : List (Option Char) := template.flatMap Piece.slots

/-- The fields that a template shows, in order. -/
def fields (template : Template) : List Field := template.filterMap Piece.field?

end Template

/-- A text begins with the given characters wherever they are not left open. -/
inductive Shows : List (Option Char) → List Char → Prop
  | nil (chars : List Char) : Shows [] chars
  | left {slots : List (Option Char)} {chars : List Char} (char : Char) (rest : Shows slots chars) :
      Shows (none :: slots) (char :: chars)
  | given {slots : List (Option Char)} {chars : List Char} (char : Char) (rest : Shows slots chars) :
      Shows (some char :: slots) (char :: chars)

/-- Some place is given two different characters. -/
def clash (first second : List (Option Char)) : Bool :=
  (first.zip second).any fun
    | (some c, some d) => c != d
    | _ => false

/-- No text can show two characters in one place. -/
lemma Shows.not_clash {first second : List (Option Char)} {chars : List Char} (one : Shows first chars)
    (other : Shows second chars) : clash first second = false := by
  induction one generalizing second with
  | nil chars => rfl
  | left char rest ih | given char rest ih =>
      cases other with
      | nil => rfl
      | left _ further | given _ further =>
          have later := ih further
          simp_all [clash]

lemma Shows.open_append {count : Nat} {slots : List (Option Char)} {front chars : List Char}
    (length : front.length = count) (rest : Shows slots chars) :
    Shows (List.replicate count none ++ slots) (front ++ chars) := by
  subst length
  induction front with
  | nil => exact rest
  | cons char front ih => exact .left char ih

lemma Shows.given_append {slots : List (Option Char)} {chars : List Char} (front : List Char)
    (rest : Shows slots chars) : Shows (front.map some ++ slots) (front ++ chars) := by
  induction front with
  | nil => exact rest
  | cons char front ih => exact .given char ih

lemma Piece.shows_render {ins : Instruction} (word : ins.IsWord) {piece : Piece}
    (fixed : piece.isFixed = true) {slots : List (Option Char)} {chars : List Char}
    (rest : Shows slots chars) :
    Shows (piece.slots ++ slots) ((piece.render ins).toList ++ chars) := by
  cases piece with
  | literal text => exact rest.given_append text.toList
  | hex field width =>
      have length := Piece.length_render fixed word
      rw [Piece.slots, List.length_replicate] at length
      exact rest.open_append length
  | decimal field => cases fixed

namespace Template

variable {first second ins : Instruction}

/-- A text shows the characters of its template. -/
lemma shows_text (word : ins.IsWord) {template : Template} (aligned : template.isAligned = true) :
    Shows template.slots (String.join (template.map (Piece.render ins))).toList := by
  fun_induction isAligned template with
  | case1 => exact .nil _
  | case2 field => exact .nil _
  | case3 piece rest _ ih =>
      obtain ⟨fixed, aligned⟩ := Bool.and_eq_true_iff.1 aligned
      rw [List.map_cons, String.join_cons, String.toList_append]
      exact Piece.shows_render word fixed (ih aligned)

/-- Texts that come from one template are equal piece by piece. -/
lemma render_eq_of_text_eq (one : first.IsWord) (other : second.IsWord) {template : Template}
    (aligned : template.isAligned = true)
    (same : String.join (template.map (Piece.render first)) =
      String.join (template.map (Piece.render second))) :
    ∀ piece ∈ template, piece.render first = piece.render second := by
  fun_induction isAligned template with
  | case1 => simp
  | case2 field => simpa using same
  | case3 piece rest _ ih =>
      obtain ⟨fixed, aligned⟩ := Bool.and_eq_true_iff.1 aligned
      rw [List.map_cons, List.map_cons, String.join_cons, String.join_cons, ← String.toList_inj,
        String.toList_append, String.toList_append] at same
      have length : (piece.render first).toList.length = (piece.render second).toList.length := by
        rw [Piece.length_render fixed one, Piece.length_render fixed other]
      obtain ⟨head, tail⟩ := List.append_inj same length
      intro further member
      rcases List.mem_cons.1 member with rfl | later
      · exact String.toList_inj.1 head
      · exact ih aligned (String.toList_inj.1 tail) further later

end Template

/-! ## The table of templates -/

lemma Kind.aligned_template (kind : Kind) : kind.template.isAligned = true := by
  cases kind <;> rfl

set_option maxRecDepth 10000 in
/-- **Any two templates differ in a place that no operand can reach.** -/
theorem templates_apart : ∀ first ∈ Kind.all, ∀ second ∈ Kind.all,
    first ≠ second → clash first.template.slots second.template.slots = true := by
  decide +kernel

/-- The fields that an instruction reads; of a word without a meaning, the word itself, which its fault
reports. -/
def Kind.operands : Kind → List Field
  | clear | ret => []
  | jump | call | setIndex | jumpOffset => [.nnn]
  | skipEqByte | skipNeByte | setByte | addByte | random => [.x, .nn]
  | skipEqReg | skipNeReg | copy | or | and | xor | add | subtract | subtractFrom => [.x, .y]
  | draw => [.x, .y, .n]
  | shiftRight | shiftLeft | skipPressed | skipReleased | readDelay | awaitKey | setDelay | setSound
  | addIndex | pointGlyph | storeDigits | storeRegisters | loadRegisters => [.x]
  | invalid => [.opcode]

/-- A template shows the operands, neither more nor less. -/
lemma Kind.fields_template (kind : Kind) : kind.template.fields = kind.operands := by
  cases kind <;> rfl

/-- **An instruction reads nothing but its operands.** -/
lemma Kind.perform_congr {kind : Kind} {first second : Instruction}
    (same : ∀ field ∈ kind.operands, first.field field = second.field field) (glyphBase byte : Int) :
    kind.perform glyphBase byte first = kind.perform glyphBase byte second := by
  cases kind with
  | clear | ret | invalid => rfl
  | _ =>
      simp only [operands, List.forall_mem_cons, List.not_mem_nil, false_imp_iff, implies_true,
        and_true, Instruction.field, Int.natCast_inj] at same
      simp only [perform, State.combine, State.addRegisters, State.subtractRegisters,
        State.subtractReversed, State.shiftRight, State.shiftLeft, State.storeWithFlag,
        State.drawSprite, State.storeDigits, State.storeRegisters, State.loadRegisters, same]

/-! ## Texts and behaviour -/

section

variable {first second : Instruction}

/-- Texts of different kinds are different. -/
lemma Instruction.kind_eq_of_text_eq (one : first.IsWord) (other : second.IsWord) {kind kind' : Kind}
    (same : first.text kind = second.text kind') : kind = kind' := by
  by_contra different
  have shown := Template.shows_text one kind.aligned_template
  have shown' := Template.shows_text other kind'.aligned_template
  rw [← Instruction.text, same] at shown
  have apart := templates_apart kind kind.mem_all kind' kind'.mem_all different
  rw [shown.not_clash shown'] at apart
  cases apart

/-- **A text shows the kind and the operands, neither more nor less.** -/
theorem Instruction.text_eq_iff (one : first.IsWord) (other : second.IsWord) {kind kind' : Kind} :
    first.text kind = second.text kind' ↔
      kind = kind' ∧ ∀ field ∈ kind.operands, first.field field = second.field field := by
  constructor
  · intro same
    obtain rfl := Instruction.kind_eq_of_text_eq one other same
    refine ⟨rfl, fun field member => ?_⟩
    rw [← kind.fields_template, Template.fields, List.mem_filterMap] at member
    obtain ⟨piece, among, shown⟩ := member
    have rendered := Template.render_eq_of_text_eq one other kind.aligned_template same piece among
    exact Piece.field_eq_of_render_eq one other rendered shown
  · rintro ⟨rfl, same⟩
    rw [Instruction.text, Instruction.text]
    congr 1
    refine List.map_congr_left fun piece among => Piece.render_eq_of_field_eq fun field shown => ?_
    apply same
    rw [← kind.fields_template]
    exact List.mem_filterMap.2 ⟨piece, among, shown⟩

lemma Machine.executeWith_congr {kind : Kind}
    (same : ∀ field ∈ kind.operands, first.field field = second.field field) (set : InstructionSet) :
    Machine.executeWith set kind first = Machine.executeWith set kind second := by
  simp only [Machine.executeWith, InstructionSet.execute_eq, Kind.perform_congr same]

end

/-- What a machine does with a decoded word depends on the kind and the operands alone. -/
lemma Machine.executeDecoded_congr {first second : Decoding} (kind : first.kind = second.kind)
    (same : ∀ field ∈ first.kind.operands,
      first.instruction.field field = second.instruction.field field) (pc : Int) :
    Machine.executeDecoded pc first = Machine.executeDecoded pc second := by
  have valid : first.isValid = second.isValid := by rw [Decoding.isValid, Decoding.isValid, kind]
  have executed (set : InstructionSet) :
      executeWith set first.kind first.instruction = executeWith set second.kind second.instruction := by
    rw [executeWith_congr same, kind]
  have trouble : wordTrouble pc first = wordTrouble pc second := by
    rw [wordTrouble, wordTrouble]
    by_cases meaning : first.kind = .invalid
    · rw [meaning] at same
      have word : first.opcode = second.opcode := same .opcode List.mem_cons_self
      rw [Decoding.problem?, Decoding.problem?, valid, word]
    · have known : first.isValid = true := by simpa [Decoding.isValid] using meaning
      rw [← valid, known, if_pos rfl, if_pos rfl]
  simp only [executeDecoded, executed, trouble]

/-- **Words with the same text act alike.**  They are of one kind, and carried out by any instruction
set on any machine they leave the same state, meet the same fault and draw as many random bytes; a step
that has decoded one of them does the same as a step that has decoded the other. -/
theorem same_text_same_behaviour {a b : Int} (word_a : 0 ≤ a ∧ a ≤ 0xFFFF)
    (word_b : 0 ≤ b ∧ b ≤ 0xFFFF) :
    ∃ first second, decode a = .ok first ∧ decode b = .ok second ∧
      first.opcode = a ∧ second.opcode = b ∧
      (first.mnemonic = second.mnemonic →
        first.kind = second.kind ∧
        (∀ (set : InstructionSet) (session : Session),
          (Machine.executeWith set first.kind first.instruction).run session =
            (Machine.executeWith set second.kind second.instruction).run session) ∧
        ∀ (pc : Int) (session : Session),
          (Machine.executeDecoded pc first).run session =
            (Machine.executeDecoded pc second).run session) := by
  refine ⟨.ofOpcode a, .ofOpcode b, if_pos word_a, if_pos word_b, rfl, rfl, fun same => ?_⟩
  obtain ⟨kind, operands⟩ : (Decoding.ofOpcode a).kind = (Decoding.ofOpcode b).kind ∧
      ∀ field ∈ (Decoding.ofOpcode a).kind.operands,
        (Decoding.ofOpcode a).instruction.field field = (Decoding.ofOpcode b).instruction.field field :=
    (Instruction.text_eq_iff word_a word_b).1 same
  refine ⟨kind, fun set session => ?_, fun pc session => ?_⟩
  · rw [Machine.executeWith_congr operands, kind]
  · rw [Machine.executeDecoded_congr kind operands]

/-- Two words for `SHR VA`. -/
theorem same_text_same_behaviour_shift :
    ∃ first second, decode 0x8A16 = .ok first ∧ decode 0x8AF6 = .ok second ∧
      first.opcode = 0x8A16 ∧ second.opcode = 0x8AF6 ∧ first.mnemonic = second.mnemonic ∧
      first.kind = second.kind ∧
      ∀ (set : InstructionSet) (session : Session),
        (Machine.executeWith set first.kind first.instruction).run session =
          (Machine.executeWith set second.kind second.instruction).run session := by
  obtain ⟨first, second, decoded_a, decoded_b, opcode_a, opcode_b, alike⟩ :=
    same_text_same_behaviour (show 0 ≤ 0x8A16 ∧ 0x8A16 ≤ 0xFFFF by decide)
      (show 0 ≤ 0x8AF6 ∧ 0x8AF6 ≤ 0xFFFF by decide)
  have same : first.mnemonic = second.mnemonic := by
    cases decoded_a
    cases decoded_b
    decide
  exact ⟨first, second, decoded_a, decoded_b, opcode_a, opcode_b, same, (alike same).1,
    (alike same).2.1⟩

end Chip8
