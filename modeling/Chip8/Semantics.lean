import Chip8.State

/-!
# What instructions do

One action per kind of instruction.  The rules that hold throughout:

* an instruction moves the program counter by two unless it jumps, skips (four) or suspends;
* a fault is raised before anything is changed;
* where an arithmetic instruction stores both a result and the flag, the flag is stored last, so it
  wins when the flag register is also the target.

Two inputs come from outside the state: where the glyphs lie, and a random byte, which
`Kind.random` alone uses.

* `Kind.perform` — the action of a kind.
-/

namespace Chip8

namespace State

/-- Skips the next instruction if the condition holds. -/
def skipIf (condition : Bool) : Action Unit := advance (if condition then 4 else 2)

/-- The state of the key that a register names by its low four bits. -/
def keyNamedBy (register : Nat) : Action Bool := do
  let value ← registerAt register
  match (← get).keypad[(value % 16).toNat]? with
  | some pressed => return pressed
  | none => throw .outOfBounds

/-- The low eight bits of a value, as a natural number. -/
def lowByte (value : Int) : Nat := (value % 256).toNat

/-! ## Arithmetic -/

/-- Stores in `Vx` a combination of `Vx` and `Vy`, and leaves the flag alone. -/
def combine (ins : Instruction) (operation : Int → Int → Int) : Action Unit := do
  let vx ← registerAt ins.x
  let vy ← registerAt ins.y
  setRegister ins.x (operation vx vy)
  advance

/-- Stores a result in `Vx` and then the flag. -/
def storeWithFlag (ins : Instruction) (result : Int) (flag : Bool) : Action Unit := do
  setRegister ins.x result
  setFlag flag
  advance

/-- `Vx + Vy`; the flag is the carry out of bit 7. -/
def addRegisters (ins : Instruction) : Action Unit := do
  let vx ← registerAt ins.x
  let vy ← registerAt ins.y
  storeWithFlag ins (vx + vy) (255 < vx + vy)

/-- `Vx - Vy`; the flag says that nothing was borrowed. -/
def subtractRegisters (ins : Instruction) : Action Unit := do
  let vx ← registerAt ins.x
  let vy ← registerAt ins.y
  storeWithFlag ins (vx - vy) (vy ≤ vx)

/-- `Vy - Vx`; the flag says that nothing was borrowed. -/
def subtractReversed (ins : Instruction) : Action Unit := do
  let vx ← registerAt ins.x
  let vy ← registerAt ins.y
  storeWithFlag ins (vy - vx) (vx ≤ vy)

/-- Halves `Vx`; the flag is the bit that falls out. -/
def shiftRight (ins : Instruction) : Action Unit := do
  let vx ← registerAt ins.x
  storeWithFlag ins (vx / 2) (vx % 2 == 1)

/-- Doubles `Vx`; the flag is bit 7 before. -/
def shiftLeft (ins : Instruction) : Action Unit := do
  let vx ← registerAt ins.x
  storeWithFlag ins (2 * vx) (vx / 128 % 2 == 1)

/-! ## Memory and screen -/

/-- The bytes at `count` ascending addresses. -/
def readBlock (address : Int) (count : Nat) : Action (List Int) :=
  (List.range count).mapM fun (offset : Nat) => readByte (address + offset)

/-- Draws the `n` rows of the sprite at the index; the flag tells of a collision. -/
def drawSprite (ins : Instruction) : Action Unit := do
  let rows ← readBlock (← get).index ins.n
  let vx ← registerAt ins.x
  let vy ← registerAt ins.y
  let (collision, screen) := (← get).screen.drawSprite vx vy rows
  modify fun state => { state with screen }
  setFlag collision
  advance

/-- Stores the hundreds, tens and ones of `Vx` at the index. -/
def storeDigits (ins : Instruction) : Action Unit := do
  let value ← registerAt ins.x
  let index := (← get).index
  writeByte index (value / 100)
  writeByte (index + 1) (value / 10 % 10)
  writeByte (index + 2) (value % 10)
  advance

/-- Stores the registers up to `Vx` at the index. -/
def storeRegisters (ins : Instruction) : Action Unit := do
  (List.range (ins.x + 1)).forM fun register => do
    let value ← registerAt register
    writeByte ((← get).index + register) value
  advance

/-- Loads the registers up to `Vx` from the index. -/
def loadRegisters (ins : Instruction) : Action Unit := do
  (List.range (ins.x + 1)).forM fun register => do
    let value ← readByte ((← get).index + register)
    setRegister register value
  advance

end State

open State in
/-- The action of a kind of instruction on the operands of a word.  `glyphBase` is where the glyphs
lie, `byte` the random byte. -/
def Kind.perform (glyphBase byte : Int) (ins : Instruction) : Kind → Action Unit
  | clear => do
    modify fun state => { state with screen := state.screen.clear }
    advance
  | ret => do
    let address ← pop
    jumpTo (address + 2)
  | jump => jumpTo ins.nnn
  | call => do
    push ((← get).pc % memorySize)
    jumpTo ins.nnn
  | skipEqByte => do skipIf ((← registerAt ins.x) == ins.nn)
  | skipNeByte => do skipIf ((← registerAt ins.x) != ins.nn)
  | skipEqReg => do skipIf ((← registerAt ins.x) == (← registerAt ins.y))
  | skipNeReg => do skipIf ((← registerAt ins.x) != (← registerAt ins.y))
  | skipPressed => do skipIf (← keyNamedBy ins.x)
  | skipReleased => do skipIf (!(← keyNamedBy ins.x))
  | setByte => do
    setRegister ins.x ins.nn
    advance
  | addByte => do
    let vx ← registerAt ins.x
    setRegister ins.x (vx + ins.nn)
    advance
  | copy => combine ins fun _ vy => vy
  | or => combine ins fun vx vy => (lowByte vx ||| lowByte vy : Nat)
  | and => combine ins fun vx vy => (lowByte vx &&& lowByte vy : Nat)
  | xor => combine ins fun vx vy => (lowByte vx ^^^ lowByte vy : Nat)
  | add => addRegisters ins
  | subtract => subtractRegisters ins
  | subtractFrom => subtractReversed ins
  | shiftRight => State.shiftRight ins
  | shiftLeft => State.shiftLeft ins
  | setIndex => do
    State.setIndex ins.nnn
    advance
  | jumpOffset => do
    let offset ← registerAt 0
    jumpTo (ins.nnn + offset)
  | random => do
    setRegister ins.x (lowByte byte &&& ins.nn : Nat)
    advance
  | draw => drawSprite ins
  | readDelay => do
    setRegister ins.x (← get).delayTimer
    advance
  | awaitKey => State.awaitKey ins.x
  | setDelay => do
    let value ← registerAt ins.x
    modify fun state => { state with delayTimer := value }
    advance
  | setSound => do
    let value ← registerAt ins.x
    modify fun state => { state with soundTimer := value }
    advance
  | addIndex => do
    let value ← registerAt ins.x
    State.setIndex (((← get).index + value) % 65536)
    advance
  | pointGlyph => do
    let value ← registerAt ins.x
    State.setIndex (glyphBase + glyphSize * value)
    advance
  | storeDigits => State.storeDigits ins
  | storeRegisters => State.storeRegisters ins
  | loadRegisters => State.loadRegisters ins
  | invalid => advance

end Chip8
