import Chip8.Proofs.Accounting

/-!
# Where the random bytes go

A run that is to be repeated has to find every random byte in the same place again.  It does: the bytes
are used up in the order of the supply, one for each instruction `CXNN` that is executed, whatever its
mask is, and nothing else takes one.  A reset forgets the program but not the position of the supply.

* `RandomSupply.drop`, `RandomSupply.nth` — a supply as a sequence.
* `Draw`, `Session.draws` — the instructions that were executed with a random byte since the creation.
* **`step_draws`**, `random_of_move` — a step takes a byte if its word asks for one, and no other operation
  does.
* `Supplied`, `Supplied.perform` — the position of the supply and the values stored are those of the draws.
* **`random_bytes_in_order`** — so they are after every run.
-/

namespace Chip8

/-! ## Supplies as sequences -/

namespace RandomSupply

/-- The supply after so many bytes have been drawn. -/
def drop (supply : RandomSupply) : Nat → RandomSupply
  | 0 => supply
  | count + 1 => (supply.drop count).draw.2

/-- The byte that is drawn after so many others. -/
def nth (supply : RandomSupply) (position : Nat) : Int := (supply.drop position).draw.1

variable (value : Nat → Int) (drawn : Nat)

@[simp] lemma drop_sequence (count : Nat) :
    (sequence value drawn).drop count = sequence value (drawn + count) := by
  induction count with
  | zero => rfl
  | succ count ih =>
      rw [drop, ih]
      rfl

@[simp] lemma nth_sequence (position : Nat) :
    (sequence value drawn).nth position = value (drawn + position) := by
  simp [nth, draw]

end RandomSupply

/-! ## Draws -/

/-- An instruction that was executed with a random byte, and the state that it left. -/
structure Draw where
  ins : Instruction
  left : State

/-- The byte under the mask is in the register. -/
def Draw.Stores (draw : Draw) (byte : Int) : Prop :=
  draw.left.registers[draw.ins.x]? = some ((byte % 256).toNat &&& draw.ins.nn : Nat)

/-- The draw of a step, by its entry and the state that it left: words that begin with `C` draw. -/
def Entry.draw? (left : State) (entry : Entry) : Option Draw :=
  entry.decoding.bind fun decoding =>
    if decoding.instruction.family = 0xC then some ⟨decoding.instruction, left⟩ else none

lemma Entry.draw?_ofOpcode {entry : Entry} {word : Int}
    (decoded : entry.decoding = some (.ofOpcode word)) (left : State) :
    entry.draw? left = if Kind.ofOpcode word = .random then some ⟨⟨word⟩, left⟩ else none := by
  have form : Kind.ofOpcode word = .random ↔ (⟨word⟩ : Instruction).family = 0xC := Kind.ofOpcode_eq_iff
  simp [draw?, decoded, Decoding.ofOpcode, form]

/-! ## Steps and other operations -/

/-- The instruction stores the byte under its mask. -/
lemma Kind.stores_random {state : State} (shaped : state.Shaped) (glyphBase byte : Int)
    (ins : Instruction) :
    Draw.Stores ⟨ins, (random.effect glyphBase byte ins state).counted⟩ byte := by
  have inside : ins.x < state.registers.size := shaped.registers_size ▸ ins.x_lt
  -- the mask has eight bits, so nothing is left to be cut off
  have small : State.lowByte byte &&& ins.nn < 256 := Nat.and_le_right.trans_lt ins.nn_lt
  have cut : ((State.lowByte byte &&& ins.nn : Nat) : Int) % 256 =
      (State.lowByte byte &&& ins.nn : Nat) := by omega
  simp only [Draw.Stores, effect, State.counted, State.past, State.put, cut]
  exact Array.getElem?_setIfInBounds_self_of_lt inside

/-- **A step takes a random byte if its word asks for one**, and stores it under the mask of the word. -/
theorem step_draws {session left : Session} {entry : Entry} (sound : session.machine.Sound)
    (stepped : Machine.step.run session = .ok (some entry) left) :
    (entry.draw? left.machine.state = none ∧ left.machine.random = session.machine.random) ∨
      ∃ draw, entry.draw? left.machine.state = some draw ∧
        left.machine.random = session.machine.random.draw.2 ∧
          draw.Stores session.machine.random.draw.1 := by
  have ended := Machine.step_end session
  rw [stepped] at ended
  cases ended with
  | lost running fault lost => exact .inl ⟨rfl, by simp⟩
  | ran running word fetched state run =>
      obtain ⟨-, rfl⟩ := Machine.execution_ran sound.state.shaped sound.listed run
      rw [Entry.draw?_ofOpcode rfl]
      by_cases random : Kind.ofOpcode word = .random
      · refine .inr ⟨_, if_pos random, by simp [random], ?_⟩
        simp only [Session.completed_machine, Machine.withState_machine, random, Machine.byteOf,
          ↓reduceIte]
        exact Kind.stores_random sound.state.shaped _ _ _
      · exact .inl ⟨if_neg random, by simp [random]⟩
  | met running word fetched fault state run =>
      obtain ⟨met, rfl⟩ := Machine.execution_met sound.state.shaped sound.listed run
      have other : Kind.ofOpcode word ≠ .random := by
        rcases Kind.fault?_cases met with ⟨kind, -⟩ | ⟨kind, -⟩ <;> simp [kind]
      rw [Entry.draw?_ofOpcode rfl]
      exact .inl ⟨if_neg other, by simp [other]⟩

/-- No other operation takes a random byte, and a reset does not give any back. -/
lemma random_of_move {before after : Machine} {command : Command} (move : Move before command after)
    (idle : command ≠ .step) : after.random = before.random := by
  cases move with
  | idled | executed => exact absurd rfl idle
  | _ => rfl

/-! ## Runs -/

namespace Session

/-- The draws since the creation after one more elementary operation. -/
def drawsAfter (session : Session) (earlier : List Draw) : Command → List Draw
  | .step =>
    earlier ++ (session.entry?.bind
      (Entry.draw? (session.after (Command.perform .step)).machine.state)).toList
  | _ => earlier

/-- The instructions `CXNN` that were executed since the creation, in order, each with the state that it
left; resets do not matter. -/
def draws (session : Session) (commands : List Command) : List Draw :=
  session.collect drawsAfter [] (session.unrolled commands)

end Session

/-- The supply has been used for the draws and for nothing else. -/
structure Supplied (supply : RandomSupply) (session : Session) (draws : List Draw) : Prop where
  sound : session.machine.Sound
  random : session.machine.random = supply.drop draws.length
  stores : ∀ (position : Nat) (inside : position < draws.length),
    draws[position].Stores (supply.nth position)

namespace Supplied

variable {supply : RandomSupply} {session left : Session} {draws : List Draw}

/-- What takes no byte adds no draw. -/
lemma aside (supplied : Supplied supply session draws) (sound : left.machine.Sound)
    (kept : left.machine.random = session.machine.random) : Supplied supply left draws where
  sound
  random := kept.trans supplied.random
  stores := supplied.stores

/-- A draw takes the next byte. -/
lemma drawn {draw : Draw} (supplied : Supplied supply session draws) (sound : left.machine.Sound)
    (taken : left.machine.random = session.machine.random.draw.2)
    (stored : draw.Stores session.machine.random.draw.1) :
    Supplied supply left (draws ++ [draw]) where
  sound
  random := by
    rw [taken, supplied.random, List.length_append, List.length_singleton]
    rfl
  stores := by
    intro position inside
    rw [List.length_append, List.length_singleton] at inside
    rcases Nat.lt_succ_iff_lt_or_eq.1 inside with before | rfl
    · rw [List.getElem_append_left before]
      exact supplied.stores position before
    · rw [List.getElem_concat_length rfl]
      rw [supplied.random] at stored
      exact stored

/-- **Every elementary operation keeps it so.** -/
theorem perform (supplied : Supplied supply session draws) {command : Command}
    (elementary : command.isElementary = true) :
    Supplied supply (session.after command.perform) (session.drawsAfter draws command) := by
  have moved := Session.move_after elementary session
  have sound := Session.sound_after supplied.sound elementary
  by_cases idle : command = .step
  · subst idle
    rw [Session.drawsAfter]
    rcases Session.entry?_cases supplied.sound.complete with ⟨absent, same⟩ | ⟨entry, stepped, given⟩
    · rw [absent, same]
      simpa using supplied
    · rw [given, Option.bind_some]
      rcases step_draws supplied.sound stepped with ⟨undrawn, kept⟩ | ⟨draw, asked, taken, stored⟩
      · rw [undrawn]
        simpa using supplied.aside sound kept
      · rw [asked]
        exact supplied.drawn sound taken stored
  · have same : session.drawsAfter draws command = draws := by
      cases command <;> first | rfl | contradiction
    rw [same]
    exact supplied.aside sound (random_of_move moved idle)

end Supplied

/-- **Random bytes are used in order, one for each `CXNN` that is executed.**  After every run, resets
included, the supply stands behind as many bytes as such instructions were executed since the creation,
and each of them has left its own byte, under its mask, in its register.  If a sequence was given, then
these are its values, the first one first. -/
theorem random_bytes_in_order {settings : Settings} {machine : Machine}
    (created : Machine.create settings = .ok machine) (commands : List Command) :
    let session : Session := { machine }
    let draws := session.draws commands
    let supply := settings.random
    (session.performAll commands).machine.random = supply.drop draws.length ∧
      (∀ (position : Nat) (inside : position < draws.length),
        let draw := draws[position]
        draw.left.registers[draw.ins.x]? =
          some ((supply.nth position % 256).toNat &&& draw.ins.nn : Nat)) ∧
      ∀ value, supply = .sequence value 0 →
        (session.performAll commands).machine.random = .sequence value draws.length ∧
          ∀ position, supply.nth position = value position := by
  intro session draws supply
  have start : Supplied supply session [] := by
    have sound : session.machine.Sound := Machine.create_sound created
    obtain ⟨traceBound, font, -, -, rfl⟩ := Machine.create_eq_ok_iff.1 created
    exact ⟨sound, rfl, fun _ inside => nomatch inside⟩
  have supplied : Supplied supply (session.performAll commands) draws := by
    rw [← Session.performAll_unrolled]
    exact collect_keeps (Supplied supply)
      (fun stage member _ _ supplied =>
        supplied.perform (Session.isElementary_of_mem_unrolled member)) start
  refine ⟨supplied.random, supplied.stores, ?_⟩
  rintro value given
  rw [supplied.random, given]
  simp

/-- Three draws with a reset between the second, whose mask is zero, and the third. -/
theorem random_bytes_in_order_reset :
    let commands : List Command := [.load [0xC0FF, 0x5AB1, 0xC100], .run 1 3 none, .reset,
      .load [0xC20F], .tick none, .step]
    ∃ machine, Machine.create { random := .sequence (fun draw => 0x31 + draw) 0 } = .ok machine ∧
      let draws := Session.draws { machine } commands
      draws.map (·.ins.opcode) = [0xC0FF, 0xC100, 0xC20F] ∧
        (Session.performAll { machine } commands).machine.random =
          .sequence (fun draw => 0x31 + draw) 3 ∧
        draws.map (fun draw => draw.left.registers[draw.ins.x]?) = [some 0x31, some 0, some 0x3] := by
  intro commands
  obtain ⟨machine, created, told, stored⟩ : ∃ machine,
      Machine.create { random := .sequence (fun draw => 0x31 + draw) 0 } = .ok machine ∧
        (Session.draws { machine } commands).map (·.ins.opcode) = [0xC0FF, 0xC100, 0xC20F] ∧
        (Session.draws { machine } commands).map (fun draw => draw.left.registers[draw.ins.x]?) =
          [some 0x31, some 0, some 0x3] := by
    refine ⟨_, rfl, ?_⟩
    unfold commands
    decide +kernel
  have count : (Session.draws { machine } commands).length = 3 := by
    simpa using congrArg List.length told
  have position := ((random_bytes_in_order created commands).2.2 _ rfl).1
  rw [count] at position
  exact ⟨machine, created, told, position, stored⟩

end Chip8
