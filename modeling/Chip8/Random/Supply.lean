import Chip8.Random.Twister

/-!
# The supply of random bytes

The machine draws a random byte when a program asks for one.  Where the bytes come from is the host's
choice: a given sequence, for reproducible experiments, or a seeded generator.

* `RandomSupply` — a source together with the position it has reached.
* `RandomSupply.draw` — the next byte and the source after it.
-/

namespace Chip8

/-- A source of bytes.  A given sequence may hold any integers; only their low bits are ever used. -/
inductive RandomSupply where
  /-- The values of a sequence in order, `drawn` of which have been used up. -/
  | sequence (value : Nat → Int) (drawn : Nat)
  /-- The outputs of a generator. -/
  | twister (generator : Twister)

namespace RandomSupply

/-- The values of a list over and over; zeros if there are none. -/
def cycling (values : Array Int) : RandomSupply :=
  .sequence (fun draw => values.getD (draw % values.size) 0) 0

/-- The generator with a seed. -/
def seeded (seed : Int) : RandomSupply := .twister (.ofSeed seed)

/-- Outputs that are looked at for one byte.  The top bits of the outputs obey a linear recurrence of
degree 19937 that no longer run of ones satisfies, so one of the outputs is below one half. -/
def attempts : Nat := 19938

/-- The first output below one half, cut to eight bits: nine bits are taken from each output, and one
that needs all nine is passed over. -/
def drawByte : Nat → Twister → Int × Twister
  | 0, generator => (0, generator)
  | attempts + 1, generator =>
    let (output, after) := generator.next
    let candidate := (output >>> 23).toNat
    if candidate < 256 then (candidate, after) else drawByte attempts after

/-- The next byte, and the source after it. -/
def draw : RandomSupply → Int × RandomSupply
  | sequence value drawn => (value drawn, sequence value (drawn + 1))
  | twister generator =>
    let (byte, after) := drawByte attempts generator
    (byte, twister after)

end RandomSupply

end Chip8
