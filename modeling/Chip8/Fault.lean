import Chip8.Layout

/-!
# Faults

A fault is something that a *program* does wrong: it runs off the end of memory, executes a word that
means nothing, nests calls too deeply or returns from nowhere.  Faults are part of the emulation.  They
are reported and counted, and the machine carries on; misuse by the *host* is an `Error` instead.

* `Fault` — a fault with what is needed to describe it, the program counter included.
* `Fault.report`, `Fault.note` — the sentence that is logged and the one kept on the trace.
* `FaultCounts` — how often each kind was reported, in the order of first reports.
-/

namespace Chip8

/-- The four kinds of fault. -/
inductive FaultKind where
  | badPc
  | unknownOpcode
  | stackOverflow
  | stackUnderflow
  deriving DecidableEq, Repr, Inhabited

/-- The name of a kind of fault in reports. -/
def FaultKind.label : FaultKind → String
  | badPc => "decode"
  | unknownOpcode => "unknown_opcode"
  | stackOverflow => "stack_overflow"
  | stackUnderflow => "stack_underflow"

/-- A fault, raised at the program counter `pc`. -/
inductive Fault where
  /-- No word can be fetched at `pc`. -/
  | badPc (pc : Int)
  /-- The word fetched at `pc` matches no pattern. -/
  | unknownOpcode (opcode : Int) (pc : Int)
  /-- A call with a full stack; `address` is the return address that found no room. -/
  | stackOverflow (address : Int) (pc : Int)
  /-- A return with an empty stack. -/
  | stackUnderflow (pc : Int)
  deriving DecidableEq, Repr

namespace Fault

/-- The kind under which a fault is counted. -/
def kind : Fault → FaultKind
  | badPc _ => .badPc
  | unknownOpcode _ _ => .unknownOpcode
  | stackOverflow _ _ => .stackOverflow
  | stackUnderflow _ => .stackUnderflow

/-- The program counter at which a fault was raised. -/
def pc : Fault → Int
  | badPc pc => pc
  | unknownOpcode _ pc => pc
  | stackOverflow _ pc => pc
  | stackUnderflow pc => pc

/-- The sentence that is kept on the trace. -/
def note : Fault → String
  | badPc pc => s!"Wrong program counter (PC): 0x{Text.hex 0 pc}. It is outside the memory bounds"
  | unknownOpcode opcode _ => s!"Unknown opcode 0x{Text.hex 4 opcode}"
  | stackOverflow address _ =>
    s!"Stack overflow: cannot push 0x{Text.hex 3 address}, {stackCapacity} entries in use"
  | stackUnderflow _ => "Stack underflow: return with empty stack"

/-- The sentence that is logged.  It repeats the note, except that an unknown word is logged with its
address and with what happens next. -/
def report : Fault → String
  | unknownOpcode opcode pc =>
    (unknownOpcode opcode pc).note ++ s!" at 0x{Text.hex 3 pc}, skip"
  | fault => fault.note

end Fault

/-! ## Counting -/

/-- Reported faults by kind, in the order of first reports. -/
structure FaultCounts where
  entries : List (FaultKind × Nat) := []
  deriving DecidableEq, Repr, Inhabited

namespace FaultCounts

/-- One more fault of a kind; a kind seen for the first time goes to the end. -/
def bump (kind : FaultKind) : List (FaultKind × Nat) → List (FaultKind × Nat)
  | [] => [(kind, 1)]
  | (k, n) :: rest => if k = kind then (k, n + 1) :: rest else (k, n) :: bump kind rest

/-- The counts after one more report. -/
def record (counts : FaultCounts) (kind : FaultKind) : FaultCounts :=
  ⟨bump kind counts.entries⟩

/-- How often a kind was reported. -/
def count (counts : FaultCounts) (kind : FaultKind) : Nat :=
  ((counts.entries.find? (·.1 = kind)).map (·.2)).getD 0

/-- One report raises the count of its kind by one and no other. -/
theorem count_record (counts : FaultCounts) (kind other : FaultKind) :
    (counts.record kind).count other = counts.count other + if other = kind then 1 else 0 := by
  unfold record count
  induction counts.entries with
  | nil => by_cases h : kind = other <;> simp [bump, h, eq_comm]
  | cons entry rest ih =>
    obtain ⟨k, n⟩ := entry
    by_cases hk : k = kind
    · by_cases h : k = other <;> simp_all [bump, eq_comm]
    · by_cases h : k = other
      · have : other ≠ kind := fun e => hk (h.trans e)
        simp_all [bump]
      · simp_all [bump]

/-- Whether nothing was reported. -/
def isEmpty (counts : FaultCounts) : Bool := counts.entries.isEmpty

end FaultCounts

end Chip8
