import Chip8.Keypad

/-!
# The input latch

Between two synchronisations the latch remembers which keys are held: those that the host reported from
its keyboard, and those that were pressed on a virtual pad.  A key counts as pressed if either says so.

* `HostReport` — what a host reports: all sixteen keys at once, or some keys that changed.
* `Latch.report` — takes a report; a report with a fault anywhere is refused as a whole.
* `Latch.hold` — presses or releases a virtual key.
-/

namespace Chip8

/-- What a host says about its keys. -/
inductive HostReport where
  /-- The state of every key, in order. -/
  | states (pressed : List Bool)
  /-- The states of some keys; the others stay as they were. -/
  | changes (entries : List (Int × Bool))
  deriving DecidableEq, Repr

/-- The keys that are held. -/
structure Latch where
  /-- As the host last reported. -/
  physical : KeyVector := .released
  /-- As pressed on a virtual pad. -/
  virtual : KeyVector := .released
  deriving DecidableEq, Repr

namespace Latch

/-- Whether a key is held in either way. -/
def pressed (latch : Latch) (key : Key) : Bool := latch.physical[key] || latch.virtual[key]

/-- Checks the numbers in a list of changes. -/
def validChanges : List (Int × Bool) → Except Error (List (Key × Bool))
  | [] => .ok []
  | (key, pressed) :: rest => do
    let key ← Key.ofInt key
    let entries ← validChanges rest
    return (key, pressed) :: entries

/-- Takes a host's report. -/
def report (latch : Latch) : HostReport → Except Error Latch
  | .states pressed =>
    if h : pressed.length = keyCount then .ok { latch with physical := ⟨pressed.toArray, by simp [h]⟩ }
    else .error (.keyVectorLength pressed.length)
  | .changes entries => do
    let entries ← validChanges entries
    let physical := entries.foldl (fun keys entry => keys.set entry.1.1 entry.2 entry.1.2) latch.physical
    return { latch with physical }

/-- Holds or releases a virtual key. -/
def hold (latch : Latch) (key : Int) (pressed : Bool) : Except Error Latch := do
  let key ← Key.ofInt key
  return { latch with virtual := latch.virtual.set key.1 pressed key.2 }

end Latch

end Chip8
