/-!
# A seeded generator of words

The Mersenne Twister with 624 words of 32 bits, period 2^19937 - 1.  The state is a ring of words: each
draw replaces the oldest word by a mixture of itself, its successor and a word 397 places on, and the
output is that new word with its bits stirred.

* `Twister.next` — one draw.
* `Twister.ofSeed` — the state for an integer seed, which is taken as a list of 32-bit digits.
-/

namespace Chip8

/-- A ring of words and the position of the oldest one. -/
structure Twister where
  words : Array UInt32
  position : Nat
  deriving DecidableEq, Repr

namespace Twister

/-- Words in the ring. -/
def ringSize : Nat := 624

/-- Distance to the word that is mixed in. -/
def mixDistance : Nat := 397

/-- The top bit of one word with the other bits of its successor, times x in the field of the
recurrence. -/
def twist (word successor : UInt32) : UInt32 :=
  let joined := (word &&& 0x80000000) ||| (successor &&& 0x7FFFFFFF)
  (joined >>> 1) ^^^ (if joined &&& 1 == 1 then 0x9908B0DF else 0)

/-- Stirs the bits of a word; a bijection that evens out the output. -/
def temper (word : UInt32) : UInt32 :=
  let word := word ^^^ (word >>> 11)
  let word := word ^^^ ((word <<< 7) &&& 0x9D2C5680)
  let word := word ^^^ ((word <<< 15) &&& 0xEFC60000)
  word ^^^ (word >>> 18)

/-- The word at a position of the ring. -/
def word (state : Twister) (position : Nat) : UInt32 := state.words.getD (position % ringSize) 0

/-- The next output, and the ring after it. -/
def next (state : Twister) : UInt32 × Twister :=
  let i := state.position
  let fresh := state.word (i + mixDistance) ^^^ twist (state.word i) (state.word (i + 1))
  (temper fresh, ⟨state.words.setIfInBounds i fresh, (i + 1) % ringSize⟩)

/-! ## Seeding -/

/-- How far a word has been spread into the following one. -/
def spread (word : UInt32) : UInt32 := word ^^^ (word >>> 30)

/-- The ring that a single word expands to. -/
def expand (seed : UInt32) : Array UInt32 :=
  ((List.range (ringSize - 1)).foldl (fun (words, last) i =>
    let fresh := 1812433253 * spread last + UInt32.ofNat (i + 1)
    (words.push fresh, fresh)) (#[seed], seed)).1

/-- One replacement during seeding.  Positions run from 1; on wrapping, the first word takes the value
of the last. -/
def seedAt (mix : UInt32 → UInt32 → UInt32) (words : Array UInt32) (position : Nat) :
    Array UInt32 × Nat :=
  let fresh := mix (words.getD position 0) (words.getD (position - 1) 0)
  let words := words.setIfInBounds position fresh
  if position + 1 < ringSize then (words, position + 1)
  else (words.setIfInBounds 0 fresh, 1)

/-- The ring for a key of 32-bit digits: the key is worked in cyclically, then the ring is mixed once
more, and the first word is fixed so that the ring is never all zero. -/
def ofKey (key : Array UInt32) : Twister :=
  let keyed := (List.range (max ringSize key.size)).foldl (fun (words, position) round =>
    let digit := round % key.size
    seedAt (fun word last =>
      (word ^^^ (spread last * 1664525)) + key.getD digit 0 + UInt32.ofNat digit) words position)
    (expand 19650218, 1)
  let mixed := (List.range (ringSize - 1)).foldl (fun (words, position) _ =>
    seedAt (fun word last =>
      (word ^^^ (spread last * 1566083941)) - UInt32.ofNat position) words position) keyed
  ⟨mixed.1.setIfInBounds 0 0x80000000, 0⟩

/-- The digits of a number to the base 2^32, the least significant first; zero has none. -/
def digits (n : Nat) : List UInt32 :=
  if n = 0 then [] else UInt32.ofNat n :: digits (n / 0x100000000)
termination_by n
decreasing_by omega

/-- The state for a seed.  The sign of the seed does not count. -/
def ofSeed (seed : Int) : Twister :=
  match digits seed.natAbs with
  | [] => ofKey #[0]
  | key => ofKey key.toArray

end Twister

end Chip8
