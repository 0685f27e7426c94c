import Chip8.Error

/-!
# The hexadecimal keypad

Sixteen keys, laid out four by four, and the keys of a host's keyboard that stand for them:

    1 2 3 C        1 2 3 4
    4 5 6 D   <-   q w e r
    7 8 9 E        a s d f
    A 0 B F        z x c v

* `Key` — the keys; `Key.ofInt` refuses every other number.
* `hostKeys` — the host's name of each key; `Key.ofHost?` reads a name in either case.
* `keysFromHost` — a whole key vector from the names of the keys that are held.
-/

namespace Chip8

/-- A key of the pad. -/
abbrev Key := Fin keyCount

/-- Which keys are held. -/
abbrev KeyVector := Vector Bool keyCount

/-- No key held. -/
def KeyVector.released : KeyVector := Vector.replicate keyCount false

/-- Accepts the numbers of keys. -/
def Key.ofInt (key : Int) : Except Error Key :=
  if h : 0 ≤ key ∧ key < keyCount then .ok ⟨key.toNat, by omega⟩ else .error (.invalidKey key)

/-- The pad, row by row. -/
def keypadRows : List (List Nat) :=
  [[0x1, 0x2, 0x3, 0xC],
   [0x4, 0x5, 0x6, 0xD],
   [0x7, 0x8, 0x9, 0xE],
   [0xA, 0x0, 0xB, 0xF]]

/-- The host's name of each key. -/
def hostKeys : List (Key × String) :=
  [(0x0, "x"), (0x1, "1"), (0x2, "2"), (0x3, "3"), (0x4, "q"), (0x5, "w"), (0x6, "e"), (0x7, "a"),
   (0x8, "s"), (0x9, "d"), (0xA, "z"), (0xB, "c"), (0xC, "4"), (0xD, "r"), (0xE, "f"), (0xF, "v")]

/-- The key that a host's name stands for, in upper or lower case.  All names are ASCII, and no other
character has one of them as its lower case. -/
def Key.ofHost? (name : String) : Option Key :=
  (hostKeys.find? fun entry => entry.2 == name.toLower).map (·.1)

/-- The key vector in which exactly the named keys are held.  Other names are passed over. -/
def keysFromHost (names : List String) : KeyVector :=
  (names.filterMap Key.ofHost?).foldl (fun keys key => keys.set key.1 true key.2) .released

end Chip8
