import Chip8.Proofs.Loading
import Chip8.Proofs.Stall

/-!
# What a listing shows

A listing goes from word to word until it has as many as it was asked for or memory ends.  Whether an
address is still inside memory is asked twice, by the listing and by the fetch, and so is what the word
there means, by the listing and by the step.  The answers agree: no listing is refused, its length is
known beforehand, and its first line is what the machine is about to do.

* `Memory.lineAt`, `Line.Shows` — the line of an address; `wordsFrom` — how many of them there are.
* **`listingFrom_eq`** — a listing in closed form.
* `listing_of_fetched`, `listing_of_lost` — its first line, and none.
* `Machine.step_tells` — what the entry of a step tells about the word at the program counter.
* **`listing_agrees_with_step`** — both together.
-/

namespace Chip8

/-! ## Words in memory -/

/-- The word at an address, the high byte first. -/
def Memory.wordAt (memory : Memory) (address : Int) : Int :=
  (256 * (memory.getD address.toNat 0).toNat + (memory.getD (address.toNat + 1) 0).toNat : Nat)

/-- The line of a listing for an address. -/
def Memory.lineAt (memory : Memory) (address : Int) : Line :=
  ⟨address, .ofOpcode (memory.wordAt address)⟩

section

variable {memory : Memory} (full : memory.size = memorySize)
include full

lemma Memory.getElem?_of_full {cell : Nat} (held : cell < memorySize) :
    memory[cell]? = some (memory.getD cell 0) := by
  rw [Array.getD_eq_getD_getElem?, Array.getElem?_eq_getElem (full ▸ held)]
  rfl

/-- Full memory has a word at every address but the last. -/
lemma fetch_of_full {address : Int} (inside : 0 ≤ address ∧ address + 1 < memorySize) :
    fetch memory address = .ok (memory.wordAt address) := by
  obtain ⟨position, rfl⟩ := Int.eq_ofNat_of_zero_le inside.1
  have near : position + 1 < memorySize := by omega
  exact fetch_of_bytes near (Memory.getElem?_of_full full (by omega)) (Memory.getElem?_of_full full near)

end

/-! ## Listings -/

/-- How many words a listing has room for from an address on. -/
def wordsFrom (address : Int) (count : Nat) : Nat :=
  if address < 0 then 0 else min count ((memorySize - address) / 2).toNat

lemma wordsFrom_outside {address : Int} (outside : address < 0 ∨ (memorySize : Int) ≤ address + 1)
    (count : Nat) : wordsFrom address count = 0 := by
  rw [wordsFrom]
  split_ifs <;> omega

lemma wordsFrom_succ {address : Int} (inside : ¬ (address < 0 ∨ (memorySize : Int) ≤ address + 1))
    (count : Nat) : wordsFrom address (count + 1) = wordsFrom (address + 2) count + 1 := by
  rw [wordsFrom, wordsFrom, if_neg (by omega), if_neg (by omega)]
  omega

/-- **A listing of full memory, line by line.** -/
theorem listingFrom_eq {memory : Memory} (full : memory.size = memorySize) (count : Nat) (address : Int)
    (done : List Line) :
    listingFrom memory count address done =
      .ok (done.reverse ++
        (List.range (wordsFrom address count)).map fun (position : Nat) =>
          memory.lineAt (address + 2 * position)) := by
  induction count generalizing address done with
  | zero => simp [listingFrom, wordsFrom]
  | succ count ih =>
      by_cases outside : address < 0 ∨ (memorySize : Int) ≤ address + 1
      · rw [listingFrom, if_pos outside, wordsFrom_outside outside]
        simp
      · have next (position : Nat) :
            address + 2 * ((position + 1 : Nat) : Int) = address + 2 + 2 * position := by
          push_cast
          omega
        rw [listingFrom_of_fetch (fetch_of_full full (by omega)), ih, wordsFrom_succ outside,
          List.range_succ_eq_map, List.map_cons, List.map_map]
        simp only [Function.comp_def, Nat.succ_eq_add_one, next, List.reverse_cons, List.append_assoc,
          List.singleton_append]
        simp [Memory.lineAt]

/-- A line is that of an address: it names the address, its word consists of the two bytes there, the
high byte first, and the word is decoded. -/
structure Line.Shows (memory : Memory) (address : Int) (line : Line) : Prop where
  placed : line.address = address
  read : 0 ≤ address ∧ ∃ high low : UInt8, memory[address.toNat]? = some high ∧
    memory[address.toNat + 1]? = some low ∧ line.decoding.opcode = 256 * high.toNat + low.toNat
  decoded : decode line.decoding.opcode = .ok line.decoding

lemma Memory.lineAt_shows {memory : Memory} (full : memory.size = memorySize) {address : Int}
    (inside : 0 ≤ address ∧ address + 1 < memorySize) : (memory.lineAt address).Shows memory address where
  placed := rfl
  read := ⟨inside.1, _, _, getElem?_of_full full (by omega), getElem?_of_full full (by omega), rfl⟩
  decoded := Machine.decode_of_fetch (fetch_of_full full inside)

lemma listing_eq {memory : Memory} (full : memory.size = memorySize) (start count : Int) :
    listing memory start count =
      .ok ((List.range (wordsFrom start count.toNat)).map fun (position : Nat) =>
        memory.lineAt (start + 2 * position)) :=
  listingFrom_eq full _ _ []

/-- A listing begins with the word that is fetched. -/
lemma listing_of_fetched {memory : Memory} (full : memory.size = memorySize) {start count word : Int}
    (some_word : 1 ≤ count) (fetched : fetch memory start = .ok word) :
    ∃ rest, listing memory start count = .ok (⟨start, .ofOpcode word⟩ :: rest) := by
  obtain ⟨more, same⟩ : ∃ more, count.toNat = more + 1 := ⟨count.toNat - 1, by omega⟩
  rw [listing, same, listingFrom_of_fetch fetched, listingFrom_eq full]
  exact ⟨_, rfl⟩

/-- Where nothing can be fetched there is nothing to list. -/
lemma listing_of_lost {memory : Memory} {start : Int} {fault : Fault}
    (lost : fetch memory start = .error (.fault fault)) (count : Int) :
    listing memory start count = .ok [] := by
  have outside : start < 0 ∨ (memorySize : Int) ≤ start + 1 := by
    by_contra inside
    rw [fetch, if_neg inside] at lost
    split at lost <;> cases lost
  rw [listing]
  cases count.toNat with
  | zero => rfl
  | succ more => exact if_pos outside

/-! ## The line of the next step -/

/-- A word without a meaning has been found. -/
lemma warning?_kind (kind : Kind) (word pc : Int) :
    (kind.warning? word pc).map Fault.kind ≠ some .badPc := by
  rw [Kind.warning?]
  split_ifs <;> simp [Fault.kind]

namespace Machine

variable {session : Session} (shaped : session.machine.state.Shaped)
    (listed : ∀ kind, kind ∈ session.machine.instructions.kinds)
    (running : session.machine.state.mode = .running)
include shaped listed running

/-- What the entry of a step tells about the word at the program counter. -/
lemma step_tells :
    ∃ entry left, step.run session = .ok (some entry) left ∧ entry.pc = session.machine.state.pc ∧
      ((∃ word, fetch session.machine.state.memory session.machine.state.pc = .ok word ∧
          entry.decoding = some (.ofOpcode word) ∧ entry.fault.map Fault.kind ≠ some .badPc) ∨
        (∃ fault, fetch session.machine.state.memory session.machine.state.pc = .error (.fault fault)) ∧
          entry.fault.map Fault.kind = some .badPc) := by
  obtain ⟨answer, left, stepped, -⟩ := step_returns shaped listed
  have ended := step_end session
  rw [stepped] at ended
  cases ended with
  | suspended waiting =>
      rw [running] at waiting
      cases waiting
  | lost _ fault lost =>
      obtain rfl := fault_of_fetch lost
      exact ⟨_, _, stepped, rfl, .inr ⟨⟨_, lost⟩, rfl⟩⟩
  | ran _ word fetched =>
      refine ⟨_, _, stepped, rfl, .inl ⟨word, fetched, rfl, ?_⟩⟩
      exact warning?_kind _ _ _
  | met _ word fetched fault state met =>
      refine ⟨_, _, stepped, rfl, .inl ⟨word, fetched, rfl, ?_⟩⟩
      have known := (execution_met shaped listed met).1
      exact fun same => fault?_kind known (Option.some.inj same)

end Machine

/-- **Listings and steps agree.**  A listing of full memory is never refused, has a line for every word
that it is asked for and that there is, and each line shows its address.  A listing that begins at the
program counter of a running machine begins with the entry of the next step; it is empty exactly if that
step finds no word. -/
theorem listing_agrees_with_step :
    (∀ memory : Memory, memory.size = 4096 → ∀ start count : Int,
      ∃ lines, listing memory start count = .ok lines ∧
        (lines.length : Int) =
          (if start < 0 then 0 else min (max count 0) (max 0 ((4096 - start) / 2))) ∧
        ∀ (position : Nat) (inside : position < lines.length),
          lines[position].Shows memory (start + 2 * position)) ∧
    ∀ session : Session, session.machine.state.Shaped →
      (∀ kind, kind ∈ session.machine.instructions.kinds) → session.machine.state.mode = .running →
      ∀ count : Int, 1 ≤ count →
        ∃ lines entry left, session.machine.listing none count = .ok lines ∧
          Machine.step.run session = .ok (some entry) left ∧
          (lines = [] ↔ entry.fault.map Fault.kind = some .badPc) ∧
          ∀ line ∈ lines.head?, line.address = entry.pc ∧
            entry.opcode? = some line.decoding.opcode ∧ entry.mnemonic = line.decoding.mnemonic := by
  refine ⟨fun memory full start count => ?_, ?_⟩
  · refine ⟨_, listing_eq full start count, ?_, fun position inside => ?_⟩
    · rw [List.length_map, List.length_range, wordsFrom]
      change _ = if start < 0 then (0 : Int) else min (max count 0) (max 0 (((memorySize : Int) - start) / 2))
      split_ifs <;> omega
    · rw [List.length_map, List.length_range] at inside
      rw [List.getElem_map, List.getElem_range]
      refine Memory.lineAt_shows full ?_
      rw [wordsFrom] at inside
      split_ifs at inside <;> omega
  · intro session shaped listed running count some_word
    have full := shaped.memory_size
    obtain ⟨entry, left, stepped, pc, told⟩ := Machine.step_tells shaped listed running
    rcases told with ⟨word, fetched, decoding, found⟩ | ⟨⟨fault, lost⟩, bad⟩
    · obtain ⟨rest, lines⟩ := listing_of_fetched full some_word fetched
      refine ⟨_, entry, left, lines, stepped, ⟨nofun, fun bad => absurd bad found⟩, ?_⟩
      rintro line ⟨⟩
      rw [Entry.opcode?, Entry.mnemonic, pc, decoding]
      exact ⟨rfl, rfl, rfl⟩
    · exact ⟨[], entry, left, listing_of_lost lost count, stepped, ⟨fun _ => bad, fun _ => rfl⟩, nofun⟩

/-- Five bytes before the end of memory there are two words, and one byte before it none. -/
theorem listing_agrees_with_step_end :
    (∃ lines, listing (Memory.zeroed memorySize) 4091 9 = .ok lines ∧ lines.length = 2) ∧
      ∃ (session : Session) (lines : List Line) (entry : Entry) (left : Session),
        session.machine.state.pc = 4095 ∧ session.machine.listing none 3 = .ok lines ∧
          Machine.step.run session = .ok (some entry) left ∧ lines = [] ∧
          entry.fault.map Fault.kind = some .badPc := by
  constructor
  · obtain ⟨lines, listed, length, -⟩ :=
      listing_agrees_with_step.1 (Memory.zeroed memorySize) Array.size_replicate 4091 9
    have two : (lines.length : Int) = 2 := length.trans (by decide)
    exact ⟨lines, listed, by omega⟩
  · let session : Session :=
      { machine := { Machine.ofSettings { random := .sequence (fun _ => 0) 0 } 0 .standard with
          state := { pc := 4095 } } }
    obtain ⟨lines, entry, left, listed, stepped, empty, -⟩ :=
      listing_agrees_with_step.2 session ⟨Array.size_replicate, rfl, rfl⟩ Kind.mem_all rfl 3 (by decide)
    have blank : lines = [] := (Except.ok.inj listed).symm
    exact ⟨session, lines, entry, left, rfl, listed, stepped, blank, empty.1 blank⟩

end Chip8
