import Chip8.Machine.Command
import Chip8.Proofs.Footprint

/-!
# Programs on their way into memory

A program file is read as words, the words are checked as a whole, and their bytes are stored from
`programStart` on.  Nothing is lost on the way: memory shows the bytes of the file, a fetch the words,
and a listing the words with their addresses.  A word more than there is room for, and nothing is stored
at all.

* **`bytesOfWords_wordsOfBytes`** — the bytes of the words of a file are those of the file, and a zero
  behind an odd number of them.
* `checkProgram_eq_ok_iff` — the programs that are accepted.
* `Memory.withProgram`, `Session.loaded` — memory and session after a load; `load_run`,
  `load_run_refused` — a load does this, or nothing.  `Session.withFont`, `loadFont_run` — the same for
  glyph tables.
* `fetch_withProgram`, `listing_of_fetch` — what a fetch and a listing find.
* **`loadFile_regular`** — the whole way, for files of every length.
-/

namespace Chip8

/-! ## Bytes and words -/

section

variable (order : ByteOrder) (bytes : List UInt8) (words : List Int)

lemma length_wordsOfBytes : (wordsOfBytes order bytes).length = (bytes.length + 1) / 2 := by
  induction bytes using wordsOfBytes.induct with
  | case1 => rfl
  | case2 last => simp [wordsOfBytes]
  | case3 first second rest ih =>
      rw [wordsOfBytes, List.length_cons, ih, List.length_cons, List.length_cons]
      omega

lemma ByteOrder.word_range (first second : UInt8) :
    0 ≤ order.word first second ∧ order.word first second ≤ 0xFFFF := by
  have := first.toNat_lt
  have := second.toNat_lt
  cases order <;> rw [word] <;> omega

/-- Every pair of bytes is a word. -/
lemma wordsOfBytes_range : ∀ word ∈ wordsOfBytes order bytes, 0 ≤ word ∧ word ≤ 0xFFFF := by
  induction bytes using wordsOfBytes.induct with
  | case1 => simp [wordsOfBytes]
  | case2 last => simpa [wordsOfBytes] using order.word_range last 0
  | case3 first second rest ih =>
      intro word member
      rcases List.mem_cons.1 member with rfl | later
      · exact order.word_range first second
      · exact ih word later

lemma Memory.byteOf_high (first second : UInt8) :
    byteOf (ByteOrder.big.word first second / 256) = first := by
  have := first.toNat_lt
  have := second.toNat_lt
  rw [ByteOrder.word, byteOf, ← UInt8.toNat_inj, UInt8.toNat_ofNat']
  omega

lemma Memory.byteOf_low (first second : UInt8) :
    byteOf (ByteOrder.big.word first second) = second := by
  have := second.toNat_lt
  rw [ByteOrder.word, byteOf, ← UInt8.toNat_inj, UInt8.toNat_ofNat']
  omega

/-- A word is made of its bytes. -/
lemma Memory.word_of_bytes {word : Int} (range : 0 ≤ word ∧ word ≤ 0xFFFF) :
    word = 256 * (byteOf (word / 256)).toNat + (byteOf word).toNat := by
  rw [byteOf, byteOf, UInt8.toNat_ofNat', UInt8.toNat_ofNat']
  omega

/-- **No byte of a file is lost**, and an odd one at the end brings a zero with it. -/
theorem bytesOfWords_wordsOfBytes :
    bytesOfWords (wordsOfBytes .big bytes) = bytes ++ List.replicate (bytes.length % 2) 0 := by
  induction bytes using wordsOfBytes.induct with
  | case1 => rfl
  | case2 last => simp [wordsOfBytes, bytesOfWords, Memory.byteOf_high, Memory.byteOf_low]
  | case3 first second rest ih =>
      have parity : (first :: second :: rest).length % 2 = rest.length % 2 := by
        rw [List.length_cons, List.length_cons]
        omega
      rw [parity, List.cons_append, List.cons_append, ← ih, wordsOfBytes, bytesOfWords,
        List.flatMap_cons, Memory.byteOf_high, Memory.byteOf_low]
      rfl

lemma length_bytesOfWords : (bytesOfWords words).length = 2 * words.length := by
  induction words with
  | nil => rfl
  | cons word rest ih =>
      rw [bytesOfWords, List.flatMap_cons, List.length_append, ← bytesOfWords, ih, List.length_cons]
      exact Nat.add_comm 2 _

/-- The bytes of a word stand at twice its position. -/
lemma getElem?_bytesOfWords {position : Nat} (inside : position < words.length) :
    (bytesOfWords words)[2 * position]? = some (Memory.byteOf (words[position] / 256)) ∧
      (bytesOfWords words)[2 * position + 1]? = some (Memory.byteOf words[position]) := by
  induction words generalizing position with
  | nil => cases inside
  | cons word rest ih =>
      cases position with
      | zero => exact ⟨rfl, rfl⟩
      | succ position => exact ih (Nat.lt_of_succ_lt_succ inside)

end

/-! ## Programs that are accepted -/

section

variable {words : List Int}

/-- A program is accepted if it fits and consists of words. -/
theorem Machine.checkProgram_eq_ok_iff :
    checkProgram words = .ok () ↔
      2 * words.length ≤ programCapacity ∧ ∀ word ∈ words, 0 ≤ word ∧ word ≤ 0xFFFF := by
  rw [checkProgram]
  by_cases long : programCapacity < 2 * words.length
  · simp [long]
  · cases found : words.find? fun word => word < 0 || 0xFFFF < word with
    | none =>
        have range := List.find?_eq_none.1 found
        simp only [Bool.or_eq_true, decide_eq_true_eq, not_or, not_lt] at range
        simpa [long] using ⟨Nat.not_lt.1 long, range⟩
    | some word =>
        have member := List.mem_of_find?_eq_some found
        have outside := List.find?_some found
        simp only [Bool.or_eq_true, decide_eq_true_eq] at outside
        simp only [long, ↓reduceIte, reduceCtorEq, false_iff, not_and]
        intro _ range
        have := range word member
        omega

end

/-! ## Memory with a program -/

namespace Memory

/-- Memory after a program has been stored. -/
def withProgram (memory : Memory) (words : List Int) : Memory :=
  memory.writeBlock programStart (words.flatMap fun word => [word / 256, word % 256])

variable {memory : Memory} {words : List Int}

/-- The values that are stored are the bytes of the words. -/
lemma map_byteOf_program (words : List Int) :
    (words.flatMap fun word => [word / 256, word % 256]).map byteOf = bytesOfWords words := by
  rw [List.map_flatMap, bytesOfWords]
  congr 1
  funext word
  simp [byteOf]

/-- A program takes two bytes a word. -/
lemma length_program (words : List Int) :
    (words.flatMap fun word => [word / 256, word % 256]).length = 2 * words.length := by
  rw [← length_bytesOfWords, ← map_byteOf_program, List.length_map]

/-- What lies in front of a program or behind it is kept. -/
lemma getElem?_withProgram_of_outside (memory : Memory) (fits : 2 * words.length ≤ programCapacity)
    {cell : Nat} (outside : cell < 0x200 ∨ 0x200 + 2 * words.length ≤ cell) :
    (memory.withProgram words)[cell]? = memory[cell]? := by
  refine getElem?_writeBlock_of_ne _ _ _ fun offset inside => ?_
  rw [length_program] at inside
  change 2 * words.length ≤ 3584 at fits
  change (cell : Int) ≠ (0x200 + offset) % 4096
  omega

/-- A program lies in memory byte by byte. -/
lemma getElem?_withProgram (full : memory.size = memorySize)
    (fits : 2 * words.length ≤ programCapacity) {offset : Nat} (inside : offset < 2 * words.length) :
    (memory.withProgram words)[0x200 + offset]? = (bytesOfWords words)[offset]? := by
  change 2 * words.length ≤ 3584 at fits
  have room : programStart + 2 * words.length ≤ memorySize := by
    change 0x200 + 2 * words.length ≤ 4096
    omega
  have among : programStart ≤ 0x200 + offset ∧ 0x200 + offset < programStart + 2 * words.length :=
    ⟨Nat.le_add_right _ _, Nat.add_lt_add_left inside _⟩
  rw [← length_program] at room among
  rw [withProgram, memory.getElem?_writeBlock_unwrapped full room, if_pos among, Nat.add_sub_cancel_left,
    ← List.getElem?_map, map_byteOf_program]

end Memory

/-! ## Fetching and listing -/

/-- Two bytes inside the address space are a word. -/
lemma fetch_of_bytes {memory : Memory} {position : Nat} {high low : UInt8}
    (inside : position + 1 < memorySize) (first : memory[position]? = some high)
    (second : memory[position + 1]? = some low) :
    fetch memory position = .ok (256 * high.toNat + low.toNat : Nat) := by
  have near : ¬ ((position : Int) < 0 ∨ (memorySize : Int) ≤ position + 1) := by omega
  rw [fetch, if_neg near, Int.toNat_natCast, first, second]

/-- **A fetch finds the words of a program.** -/
theorem fetch_withProgram {memory : Memory} {words : List Int} (full : memory.size = memorySize)
    (accepted : Machine.checkProgram words = .ok ()) {position : Nat}
    (inside : position < words.length) :
    fetch (memory.withProgram words) (0x200 + 2 * position) = .ok words[position] := by
  obtain ⟨fits, range⟩ := Machine.checkProgram_eq_ok_iff.1 accepted
  obtain ⟨high, low⟩ := getElem?_bytesOfWords words inside
  rw [← Memory.getElem?_withProgram full fits (by omega)] at high low
  have near : 0x200 + 2 * position + 1 < memorySize := by
    change 2 * words.length ≤ 3584 at fits
    change _ < 4096
    omega
  have word := Memory.word_of_bytes (range _ (List.getElem_mem inside))
  have fetched := fetch_of_bytes near high low
  push_cast at fetched
  rw [fetched, ← word]

/-- A word that can be fetched is a line of the listing. -/
lemma listingFrom_of_fetch {memory : Memory} {address word : Int}
    (fetched : fetch memory address = .ok word) (count : Nat) (done : List Line) :
    listingFrom memory (count + 1) address done =
      listingFrom memory count (address + 2) (⟨address, .ofOpcode word⟩ :: done) := by
  have near : ¬ (address < 0 ∨ (memorySize : Int) ≤ address + 1) := by
    have := (Machine.fetch_range fetched).1
    omega
  rw [listingFrom, if_neg near, fetched]
  simp only [bind, Except.bind, Machine.decode_of_fetch fetched]

/-- **A listing shows what is fetched**, a line for each word. -/
theorem listing_of_fetch {memory : Memory} {words : List Int} {start : Int}
    (fetched : ∀ (position : Nat) (inside : position < words.length),
      fetch memory (start + 2 * position) = .ok words[position]) :
    listing memory start words.length =
      .ok (words.mapIdx fun position word => ⟨start + 2 * position, .ofOpcode word⟩) := by
  suffices general : ∀ done : List Line, listingFrom memory words.length start done =
      .ok (done.reverse ++ words.mapIdx fun position word =>
        ⟨start + 2 * position, .ofOpcode word⟩) from general []
  induction words generalizing start with
  | nil => intro done; simp [listingFrom]
  | cons word rest ih =>
      intro done
      have first : fetch memory start = .ok word := by
        have here := fetched 0 (Nat.succ_pos _)
        rwa [Int.natCast_zero, Int.mul_zero, Int.add_zero] at here
      have next (position : Nat) :
          start + 2 * ((position + 1 : Nat) : Int) = start + 2 + 2 * position := by
        push_cast
        omega
      have later : ∀ (position : Nat) (inside : position < rest.length),
          fetch memory (start + 2 + 2 * position) = .ok rest[position] := by
        intro position inside
        rw [← next]
        exact fetched (position + 1) (Nat.succ_lt_succ inside)
      rw [List.length_cons, listingFrom_of_fetch first, ih later, List.mapIdx_cons]
      simp only [next, Int.natCast_zero, Int.mul_zero, Int.add_zero, List.reverse_cons,
        List.append_assoc, List.singleton_append]

/-! ## Loads -/

/-- The session after a program has been stored. -/
def Session.loaded (session : Session) (words : List Int) : Session :=
  (Machine.withState session { session.machine.state with
    memory := session.machine.state.memory.withProgram words }).logged (.loaded words.length)

/-- The session after a glyph table has been written over what was there. -/
def Session.withFont (session : Session) (font : Font) : Session :=
  { session with
    machine := { session.machine with
      font
      state := { session.machine.state with
        memory := session.machine.state.memory.writeBlock fontStart font.glyphs } } }

namespace Machine

variable {session : Session} {words : List Int}

/-- A program that is accepted is stored, and nothing else is touched. -/
lemma load_run (full : session.machine.state.memory.size = memorySize)
    (accepted : checkProgram words = .ok ()) :
    (load words).run session = .ok () (session.loaded words) := by
  rw [load, EStateM.run_bind, accepted, accept_run_ok]
  dsimp only
  rw [EStateM.run_bind, onState_run_ok (State.writeBlock_run full _ _)]
  rfl

/-- A program that is not accepted is not even begun with. -/
lemma load_run_refused {error : Error} (refused : checkProgram words = .error error) :
    (load words).run session = .error error session := by
  rw [load, EStateM.run_bind, refused, accept_run_error]

/-- A glyph table that is accepted is stored and kept for resets, and nothing else is touched. -/
lemma loadFont_run (full : session.machine.state.memory.size = memorySize) {glyphs : List Int}
    {font : Font} (accepted : Font.ofGlyphs glyphs = .ok font) :
    (loadFont glyphs).run session = .ok () (session.withFont font) := by
  have stored : (State.loadFont font).run session.machine.state = .ok () _ :=
    State.writeBlock_run full fontStart font.glyphs
  rw [loadFont, accepted, EStateM.run_bind, accept_run_ok]
  dsimp only
  rw [EStateM.run_bind, onState_run_ok stored]
  rfl

/-- Of a file only its length matters: its words are in range. -/
lemma checkProgram_wordsOfBytes (order : ByteOrder) {bytes : List UInt8}
    (fits : bytes.length ≤ programCapacity) : checkProgram (wordsOfBytes order bytes) = .ok () := by
  refine checkProgram_eq_ok_iff.2 ⟨?_, wordsOfBytes_range order bytes⟩
  rw [length_wordsOfBytes]
  change bytes.length ≤ 3584 at fits
  change 2 * ((bytes.length + 1) / 2) ≤ 3584
  omega

lemma checkProgram_wordsOfBytes_of_lt (order : ByteOrder) {bytes : List UInt8}
    (long : programCapacity < bytes.length) :
    checkProgram (wordsOfBytes order bytes) =
      .error (.programTooLong (2 * (wordsOfBytes order bytes).length)) := by
  refine if_pos ?_
  rw [length_wordsOfBytes]
  omega

end Machine

/-! ## Files -/

/-- **A file of any length, from its bytes to its listing.**  One that fits is loaded: memory holds its
bytes from `0x200` on, with a zero behind an odd number of them, and is otherwise as it was, like
everything else in the machine; a fetch finds the words of the file, and a listing shows them in order.
A longer one is refused, and nothing has happened. -/
theorem loadFile_regular (session : Session) (bytes : List UInt8) :
    let words := wordsOfBytes .big bytes
    Machine.loadFile (.regular bytes) = Machine.load words ∧
      (session.machine.state.memory.size = memorySize → bytes.length ≤ 3584 →
        ∃ left, (Machine.loadFile (.regular bytes)).run session = .ok () left ∧
          let memory := left.machine.state.memory
          (∀ (offset : Nat) (inside : offset < bytes.length),
            memory[0x200 + offset]? = some bytes[offset]) ∧
          (bytes.length % 2 = 1 → memory[0x200 + bytes.length]? = some 0) ∧
          (∀ cell, cell < 0x200 ∨ 0x200 + bytes.length + bytes.length % 2 ≤ cell →
            memory[cell]? = session.machine.state.memory[cell]?) ∧
          left.machine =
            { session.machine with state := { session.machine.state with memory } } ∧
          (∀ (position : Nat) (inside : position < words.length),
            fetch memory (0x200 + 2 * position) = .ok words[position]) ∧
          listing memory 0x200 ((bytes.length + 1) / 2 : Nat) =
            .ok (words.mapIdx fun position word => ⟨0x200 + 2 * position, .ofOpcode word⟩)) ∧
      (3584 < bytes.length →
        (Machine.loadFile (.regular bytes)).run session =
          .error (.programTooLong (2 * words.length)) session) := by
  intro words
  have count : words.length = (bytes.length + 1) / 2 := length_wordsOfBytes _ _
  refine ⟨rfl, fun full short => ?_, fun long => ?_⟩
  · have accepted : Machine.checkProgram words = .ok () := Machine.checkProgram_wordsOfBytes _ short
    have fits := (Machine.checkProgram_eq_ok_iff.1 accepted).1
    have stored : bytesOfWords words = bytes ++ List.replicate (bytes.length % 2) 0 :=
      bytesOfWords_wordsOfBytes bytes
    have fetched : ∀ (position : Nat) (inside : position < words.length),
        fetch (session.machine.state.memory.withProgram words) (0x200 + 2 * position) =
          .ok words[position] := fun _ inside => fetch_withProgram full accepted inside
    refine ⟨session.loaded words, Machine.load_run full accepted, ?_, ?_, ?_, rfl, fetched, ?_⟩
    · intro offset inside
      refine (Memory.getElem?_withProgram full fits (by omega)).trans ?_
      rw [stored, List.getElem?_append_left inside, List.getElem?_eq_getElem inside]
    · intro odd
      refine (Memory.getElem?_withProgram full fits (by omega)).trans ?_
      rw [stored, odd, List.replicate_one, List.getElem?_concat_length]
    · intro cell outside
      exact Memory.getElem?_withProgram_of_outside _ fits (by omega)
    · rw [← count]
      exact listing_of_fetch fetched
  · exact Machine.load_run_refused (Machine.checkProgram_wordsOfBytes_of_lt _ long)

/-- Three bytes for a new machine, and one byte more than there is room for. -/
theorem loadFile_regular_odd :
    ∃ machine, Machine.create { random := .sequence (fun draw => draw) 0 } = .ok machine ∧
      (∃ left, (Machine.loadFile (.regular [0xA2, 0x1E, 0xC2])).run { machine } = .ok () left ∧
        left.machine.state.memory[0x203]? = some 0 ∧
        left.machine.state.pc = machine.state.pc ∧
        fetch left.machine.state.memory 0x202 = .ok 0xC200) ∧
      (Machine.loadFile (.regular (List.replicate 3585 0))).run { machine } =
        .error (.programTooLong 3586) { machine } := by
  obtain ⟨machine, created⟩ : ∃ machine,
      Machine.create { random := .sequence (fun draw => draw) 0 } = .ok machine := ⟨_, rfl⟩
  have full : ({ machine } : Session).machine.state.memory.size = memorySize := by
    obtain ⟨_, font, -, -, rfl⟩ := Machine.create_eq_ok_iff.1 created
    exact (Memory.size_writeBlock _ _ _).trans Array.size_replicate
  refine ⟨machine, created, ?_, ?_⟩
  · obtain ⟨left, loaded, -, padded, -, same, fetched, -⟩ :=
      (loadFile_regular { machine } [0xA2, 0x1E, 0xC2]).2.1 full (by decide)
    exact ⟨left, loaded, padded rfl, congrArg (·.state.pc) same, fetched 1 (by decide)⟩
  · have length : (List.replicate 3585 (0 : UInt8)).length = 3585 := List.length_replicate
    generalize List.replicate 3585 (0 : UInt8) = bytes at length ⊢
    have refused := (loadFile_regular { machine } bytes).2.2 (by omega)
    rwa [length_wordsOfBytes, length] at refused

end Chip8
