import Chip8.Semantics

/-!
# Instruction sets

Handlers are registered one by one, each under the kind of instruction that it carries out, and then their
table is sealed.  Sealing demands that no kind is missing, so a sealed table can carry out every decoded
word, and a sealed table admits no further handler.

* `Handler`, `HandlerKey` — what carries out instructions, and what it is registered under.
* `HandlerTable` — a table of handlers; `register` adds one, `build` registers handlers and seals the table,
  `execute` carries out one instruction and counts it.
* `InstructionSet` — a table in which every kind has its own handler; `standard` is the complete one.
-/

namespace Chip8

/-! ## Handlers -/

/-- What carries out an instruction, given where the glyphs lie and a random byte. -/
abbrev Handler := (glyphBase byte : Int) → Instruction → Action Unit

/-- What a handler is registered under: a kind, or something else with a label. -/
inductive HandlerKey where
  | kind (kind : Kind)
  | other (label : String)
  deriving DecidableEq, Repr

namespace HandlerKey

/-- The key with a label. -/
def ofLabel (label : String) : HandlerKey :=
  match Kind.ofLabel? label with
  | some named => .kind named
  | none => .other label

/-- The name of a key. -/
def label : HandlerKey → String
  | kind named => named.label
  | other label => label

/-- The kind that a key is. -/
def kind? : HandlerKey → Option Kind
  | kind named => some named
  | other _ => none

end HandlerKey

/-! ## Tables of handlers -/

/-- Handlers in the order of their registration, and where the glyphs lie. -/
structure HandlerTable where
  handlers : List (HandlerKey × Handler) := []
  glyphBase : Int := fontStart
  isSealed : Bool := false

namespace HandlerTable

/-- What handlers are registered under. -/
def keys (table : HandlerTable) : List HandlerKey := table.handlers.map (·.1)

/-- The handler that is registered under a key. -/
def handler? (table : HandlerTable) (key : HandlerKey) : Option Handler :=
  (table.handlers.find? (·.1 = key)).map (·.2)

/-- The labels of the keys, in alphabetical order. -/
def labels (table : HandlerTable) : List String :=
  (table.keys.map HandlerKey.label).mergeSort (· ≤ ·)

/-- Adds a handler.  A refusal leaves the table as it was; on a sealed table the key is not even looked
at. -/
def register (key : HandlerKey) (handler : Handler) : EStateM Error HandlerTable Unit := do
  let table ← get
  if table.isSealed then throw .sealedSet
  else if key ∈ table.keys then throw (.duplicateHandler key.label)
  else modify fun table => { table with handlers := table.handlers ++ [(key, handler)] }

/-- The labels of the kinds that have no handler, in alphabetical order. -/
def missingLabels (table : HandlerTable) : List String :=
  ((Kind.all.filter fun kind => .kind kind ∉ table.keys).map Kind.label).mergeSort (· ≤ ·)

/-- Declares a table complete. -/
def sealIfComplete : EStateM Error HandlerTable Unit := do
  match (← get).missingLabels with
  | [] => modify fun table => { table with isSealed := true }
  | labels => throw (.missingKinds labels)

/-- Registers handlers in the given order and seals the table. -/
def build (handlers : List (HandlerKey × Handler)) (glyphBase : Int := fontStart) :
    Except Error HandlerTable :=
  let construction : EStateM Error HandlerTable Unit := do
    handlers.forM fun entry => register entry.1 entry.2
    sealIfComplete
  match construction.run { glyphBase } with
  | .ok _ table => .ok table
  | .error error _ => .error error

/-- Carries out one instruction and then counts it.  An instruction that is refused is not
counted. -/
def execute (table : HandlerTable) (byte : Int) (kind : Kind) (ins : Instruction) : Action Unit := do
  match table.handler? (.kind kind) with
  | some handler =>
    handler table.glyphBase byte ins
    modify fun state => { state with cycleCount := state.cycleCount + 1 }
  | none => throw (.unknownKind kind.label)

end HandlerTable

/-! ## Instruction sets -/

/-- The handler of a kind. -/
def Kind.handler (kind : Kind) : Handler := fun glyphBase byte ins => kind.perform glyphBase byte ins

/-- The handler of a kind, registered under the kind. -/
def Kind.entry (kind : Kind) : HandlerKey × Handler := (.kind kind, kind.handler)

/-- A table in which every handler is the one of its kind. -/
structure InstructionSet extends HandlerTable where
  own : ∀ entry ∈ handlers, ∃ kind : Kind, entry = kind.entry

namespace InstructionSet

/-- The kinds that can be carried out. -/
def kinds (set : InstructionSet) : List Kind := set.handlers.filterMap (·.1.kind?)

/-- The complete set. -/
def standard (glyphBase : Int := fontStart) : InstructionSet where
  handlers := Kind.all.map Kind.entry
  glyphBase
  isSealed := true
  own entry member := by
    obtain ⟨kind, -, same⟩ := List.mem_map.1 member
    exact ⟨kind, same.symm⟩

theorem mem_kinds {set : InstructionSet} {kind : Kind} : kind ∈ set.kinds ↔ kind.entry ∈ set.handlers := by
  rw [kinds, List.mem_filterMap]
  constructor
  · rintro ⟨entry, member, same⟩
    obtain ⟨other, rfl⟩ := set.own entry member
    cases same
    exact member
  · intro member
    exact ⟨kind.entry, member, rfl⟩

/-- The handler of a kind is its own or there is none. -/
theorem handler?_kind (set : InstructionSet) (kind : Kind) :
    set.handler? (.kind kind) = if kind ∈ set.kinds then some kind.handler else none := by
  rw [HandlerTable.handler?]
  cases found : set.handlers.find? (·.1 = .kind kind) with
  | none =>
      have unlisted : kind ∉ set.kinds := fun listed =>
        List.find?_eq_none.1 found _ (mem_kinds.1 listed) (decide_eq_true rfl)
      rw [if_neg unlisted]
      rfl
  | some entry =>
      have member := List.mem_of_find?_eq_some found
      obtain ⟨other, rfl⟩ := set.own entry member
      obtain rfl : other = kind := by simpa [Kind.entry] using List.find?_some found
      rw [if_pos (mem_kinds.2 member)]
      rfl

/-- What a set does with an instruction: it carries it out as its kind has it. -/
theorem execute_eq (set : InstructionSet) (byte : Int) (kind : Kind) (ins : Instruction) :
    set.execute byte kind ins =
      if kind ∈ set.kinds then do
        kind.perform set.glyphBase byte ins
        modify fun state => { state with cycleCount := state.cycleCount + 1 }
      else throw (.unknownKind kind.label) := by
  rw [HandlerTable.execute, handler?_kind]
  by_cases listed : kind ∈ set.kinds
  · rw [if_pos listed, if_pos listed]
    rfl
  · rw [if_neg listed, if_neg listed]

end InstructionSet

end Chip8
