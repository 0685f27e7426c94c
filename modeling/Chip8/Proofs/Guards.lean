import Chip8.Proofs.Causes
import Chip8.Proofs.Loading
import Chip8.Proofs.Refusal

/-!
# Requests that are refused

A host can name programs that are too long, words that are none, glyph tables that would reach into
program memory and keys that do not exist.  Each such request is looked at as a whole first and carried
out afterwards, without looking for mistakes any more.  So a request with a mistake anywhere leaves the
machine alone, and a request without one is never refused for what it says.

* `Error.blamesValue`, `Blameless` — errors that blame what a host said, and computations without them.
* **`Guarded`**, `Guarded.of_check` — an operation that checks first and then acts.
* `load_guarded`, `loadFont_guarded`, `holdKey_guarded`, `syncKeys_guarded` — the four that do.
* `load_stores` — what an accepted program does to memory.
* **`refused_requests_change_nothing`** — all of it, for every machine.
-/

namespace Chip8

/-! ## Errors that blame a value -/

/-- The host named a value that an operation cannot work with.  Other errors blame the machine, the
program or the file system. -/
def Error.blamesValue : Error → Bool
  | invalidKey _ | keyVectorLength _ | opcodeRange _ | wordRange _ | programTooLong _ | fontTooLong _
  | unknownByteOrder _ | negativeTraceBound | negativeMemorySize | duplicateHandler _
  | undefinedNumber => true
  | _ => false

/-- Whatever a computation is refused for, no value is to blame. -/
def Blameless {σ α : Type} (computation : EStateM Error σ α) : Prop :=
  ∀ state error left, computation.run state = .error error left → error.blamesValue = false

namespace Blameless

section

variable {σ α β : Type}

lemma of_ok {computation : EStateM Error σ α}
    (returns : ∀ state, ∃ value left, computation.run state = .ok value left) : Blameless computation :=
  RefusesOnly.of_ok returns

lemma pure (value : α) : Blameless (Pure.pure value : EStateM Error σ α) := RefusesOnly.pure value

lemma throw {error : Error} (other : error.blamesValue = false) :
    Blameless (MonadExcept.throw error : EStateM Error σ α) :=
  RefusesOnly.throw other

lemma bind {computation : EStateM Error σ α} {next : α → EStateM Error σ β}
    (first : Blameless computation) (second : ∀ value, Blameless (next value)) :
    Blameless (computation >>= next) :=
  RefusesOnly.bind first second

lemma ite {condition : Prop} [Decidable condition] {first second : EStateM Error σ α}
    (yes : Blameless first) (no : Blameless second) :
    Blameless (if condition then first else second) :=
  RefusesOnly.ite (fun _ => yes) fun _ => no

/-- Reads and updates are not refused at all. -/
lemma get_then {next : σ → EStateM Error σ α} (rest : ∀ state, Blameless (next state)) :
    Blameless (MonadState.get >>= next) :=
  RefusesOnly.get_then rest

lemma update (f : σ → σ) : Blameless (modify f : EStateM Error σ PUnit) := RefusesOnly.update f

end

/-! ### Actions of the state -/

lemma writeBlock (address : Int) (data : List Int) : Blameless (State.writeBlock address data) :=
  RefusesOnly.writeBlock (by rfl) address data

lemma setKeypad (key : Key) (pressed : Bool) : Blameless (Machine.setKeypad key pressed) := by
  refine get_then fun state => ?_
  cases state.keypad[key.1]? with
  | some before => exact (update _).bind fun _ => .pure _
  | none => exact .throw rfl

lemma resolve (register value : Int) : Blameless (Machine.resolve register value) := by
  have stored : Blameless (State.setRegister register value) :=
    RefusesOnly.setRegister (by rfl) (fun _ => by rfl) value
  exact stored.bind fun _ => (update _).bind fun _ => update _

/-! ### Operations -/

lemma look_then {α : Type} {next : Machine → Operation α} (rest : ∀ machine, Blameless (next machine)) :
    Blameless (Machine.look >>= next) :=
  bind (of_ok fun session => ⟨session.machine, session, rfl⟩) rest

lemma change (f : Machine → Machine) : Blameless (Machine.change f) := update _

lemma emit (event : Event) : Blameless (Machine.emit event) := update _

lemma onState {α : Type} {action : Action α} (inner : Blameless action) :
    Blameless (Machine.onState action) := by
  intro session error left refused
  rw [Machine.onState_run] at refused
  cases run : action.run session.machine.state with
  | ok value state =>
      rw [run] at refused
      cases refused
  | error other state =>
      rw [run] at refused
      cases refused
      exact inner _ _ _ run

lemma syncKey (key : Key) : Blameless (Machine.syncKey key) := by
  refine look_then fun machine => (onState (setKeypad _ _)).bind fun before => .ite ?_ (.pure _)
  refine look_then fun machine => ?_
  cases machine.state.mode with
  | running => exact .pure _
  | awaitingKey register =>
      exact (onState (resolve _ _)).bind fun _ => (emit _).bind fun _ => .pure _

lemma syncKeysFrom (found : Option Key) (keys : List Key) :
    Blameless (Machine.syncKeysFrom found keys) := by
  induction keys generalizing found with
  | nil => exact .pure _
  | cons key rest ih => exact (syncKey key).bind fun _ => .ite (ih _) (ih _)

end Blameless

/-! ## Requests that are checked first -/

/-- An operation refuses a misuse, and only that, before it has done anything; everything else a machine
that lacks nothing carries out. -/
structure Guarded {α : Type} (operation : Operation α) (session : Session) (misuse : Prop) : Prop where
  refuses : (∃ error left, operation.run session = .error error left ∧ error.blamesValue = true) ↔ misuse
  untouched : ∀ error left, operation.run session = .error error left → error.blamesValue = true →
    left = session
  returns : session.machine.Complete → ¬ misuse → Returns operation session

/-- What is checked as a whole, and then carried out without looking for mistakes any more. -/
lemma Guarded.of_check {α β : Type} {operation : Operation α} {session : Session} {misuse : Prop}
    (check : Except Error β) {rest : β → Operation α}
    (checked : operation.run session = (Machine.accept check >>= rest).run session)
    (to_blame : ∀ error, check = .error error → error.blamesValue = true)
    (passes : (∃ value, check = .ok value) ↔ ¬ misuse)
    (blameless : ∀ value, Blameless (rest value))
    (carried : session.machine.Complete → ∀ value, check = .ok value → Returns operation session) :
    Guarded operation session misuse := by
  cases check with
  | ok value =>
      have run : operation.run session = (rest value).run session := checked
      have proper : ¬ misuse := passes.1 ⟨value, rfl⟩
      have innocent (error : Error) (left : Session) (refused : operation.run session = .error error left) :
          error.blamesValue = false := blameless value session error left (run ▸ refused)
      refine ⟨⟨?_, fun misused => absurd misused proper⟩, ?_,
        fun complete _ => carried complete value rfl⟩
      · rintro ⟨error, left, refused, blames⟩
        rw [innocent error left refused] at blames
        cases blames
      · intro error left refused blames
        rw [innocent error left refused] at blames
        cases blames
  | error error =>
      have run : operation.run session = .error error session := checked
      have misused : misuse := not_not.1 fun proper => by
        obtain ⟨value, ⟨⟩⟩ := passes.2 proper
      refine ⟨⟨fun _ => misused, fun _ => ⟨error, session, run, to_blame error rfl⟩⟩, ?_,
        fun _ proper => absurd misused proper⟩
      intro other left refused _
      rw [run] at refused
      cases refused
      rfl

/-- Whoever refuses a report blames what it says. -/
lemma HostReport.blamesValue_of_refusal {report : HostReport} {error : Error}
    (refusal : report.refusal? = some error) : error.blamesValue = true := by
  cases report with
  | states pressed =>
      rw [refusal?] at refusal
      split_ifs at refusal
      cases refusal
      rfl
  | changes entries =>
      obtain ⟨entry, -, rfl⟩ := Option.map_eq_some_iff.1 refusal
      rfl

lemma Guarded.congr {α : Type} {operation : Operation α} {session : Session} {misuse other : Prop}
    (guarded : Guarded operation session misuse) (same : misuse ↔ other) :
    Guarded operation session other :=
  propext same ▸ guarded

lemma HostReport.not_accepted_changes {entries : List (Int × Bool)} :
    ¬ (changes entries).Accepted ↔ ∃ entry ∈ entries, ¬ (0 ≤ entry.1 ∧ entry.1 ≤ 15) := by
  rw [Accepted, not_forall]
  refine exists_congr fun entry => ?_
  rw [Classical.not_imp]
  refine and_congr_right fun _ => ?_
  change ¬ (0 ≤ entry.1 ∧ entry.1 < 16) ↔ _
  omega

section

variable (session : Session)

/-- **Programs** are refused for their length or for a word that has not sixteen bits. -/
theorem load_guarded (words : List Int) :
    Guarded (Machine.load words) session
      (3584 < 2 * words.length ∨ ∃ word ∈ words, ¬ (0 ≤ word ∧ word ≤ 0xFFFF)) := by
  refine .of_check (Machine.checkProgram words) rfl ?to_blame ?passes ?blameless ?carried
  case to_blame =>
    intro error refused
    rw [Machine.checkProgram] at refused
    split_ifs at refused
    · cases refused
      rfl
    · split at refused <;> cases refused
      rfl
  case passes =>
    constructor
    · rintro ⟨⟨⟩, accepted⟩ (long | ⟨word, member, outside⟩)
      · exact absurd (Machine.checkProgram_eq_ok_iff.1 accepted).1 (Nat.not_le.2 long)
      · exact outside ((Machine.checkProgram_eq_ok_iff.1 accepted).2 word member)
    · intro proper
      refine ⟨(), Machine.checkProgram_eq_ok_iff.2 ⟨?_, fun word member => ?_⟩⟩
      · exact Nat.not_lt.1 fun long => proper (.inl long)
      · exact not_not.1 fun outside => proper (.inr ⟨word, member, outside⟩)
  case blameless => exact fun _ => (Blameless.writeBlock _ _).onState.bind fun _ => .emit _
  case carried =>
    exact fun complete _ accepted => ⟨(), _, Machine.load_run complete.shaped.memory_size accepted⟩

/-- **Glyph tables** are refused for their length. -/
theorem loadFont_guarded (glyphs : List Int) :
    Guarded (Machine.loadFont glyphs) session (432 < glyphs.length) := by
  refine .of_check (Font.ofGlyphs glyphs) rfl ?to_blame ?passes ?blameless ?carried
  case to_blame =>
    intro error refused
    rw [Font.ofGlyphs] at refused
    split_ifs at refused
    cases refused
    rfl
  case passes =>
    constructor
    · rintro ⟨⟨table, fits⟩, accepted⟩ long
      rw [Font.ofGlyphs, dif_neg (by change ¬ 0x50 + glyphs.length ≤ 0x200; omega)] at accepted
      cases accepted
    · intro proper
      exact ⟨_, dif_pos (show 0x50 + glyphs.length ≤ 0x200 by omega)⟩
  case blameless => exact fun font => (Blameless.writeBlock _ _).onState.bind fun _ => .change _
  case carried =>
    exact fun complete _ accepted => ⟨(), _, Machine.loadFont_run complete.shaped.memory_size accepted⟩

/-- **Virtual keys** are refused if there are none of their number. -/
theorem holdKey_guarded (key : Int) (pressed : Bool) :
    Guarded (Machine.holdKey key pressed) session (¬ (0 ≤ key ∧ key ≤ 15)) := by
  refine .of_check (session.machine.latch.hold key pressed) rfl ?to_blame ?passes ?blameless ?carried
  case to_blame =>
    intro error refused
    rw [Latch.hold, Key.ofInt] at refused
    split at refused <;> cases refused
    rfl
  case passes =>
    have named_iff : ¬ ¬ (0 ≤ key ∧ key ≤ 15) ↔ 0 ≤ key ∧ key < (keyCount : Int) := by
      change _ ↔ 0 ≤ key ∧ key < 16
      omega
    rw [Latch.hold, Key.ofInt, named_iff]
    split
    · next named => exact ⟨fun _ => named, fun _ => ⟨_, rfl⟩⟩
    · next foreign => exact ⟨nofun, fun named => absurd named foreign⟩
  case blameless => exact fun latch => (Blameless.change _).bind fun _ => .emit _
  case carried =>
    intro complete latch held
    rw [Returns, Machine.holdKey, EStateM.run_bind, Machine.look_run]
    dsimp only
    rw [held]
    exact ⟨(), _, rfl⟩

/-- **Reports** are refused as a whole, for their length or for a key that does not exist. -/
theorem syncKeys_guarded (keys : Option HostReport) :
    Guarded (Machine.syncKeys keys) session (∃ report ∈ keys, ¬ report.Accepted) := by
  let rest (latch : Latch) : Operation (Option Key) := do
    Machine.change fun machine => { machine with latch }
    let resolved ← Machine.syncKeysFrom none (List.finRange keyCount)
    Machine.emit (.synced keys)
    return resolved
  have checked : (Machine.syncKeys keys).run session =
      (Machine.accept (session.machine.latch.take keys) >>= rest).run session := by
    cases keys <;> rfl
  refine .of_check _ checked ?to_blame ?passes ?blameless ?carried
  case to_blame =>
    intro error refused
    cases keys with
    | none => cases refused
    | some report =>
      exact HostReport.blamesValue_of_refusal (Latch.report_error_iff.1 refused)
  case passes =>
    constructor
    · rintro ⟨latch, taken⟩ ⟨report, rfl, unaccepted⟩
      obtain ⟨error, refusal⟩ : ∃ error, report.refusal? = some error :=
        Option.ne_none_iff_exists'.1 fun granted => unaccepted (HostReport.refusal?_eq_none.1 granted)
      have refused : session.machine.latch.take (some report) = .error error :=
        Latch.report_error_iff.2 refusal
      rw [refused] at taken
      cases taken
    · intro proper
      exact session.machine.latch.take_accepted fun report reported =>
        not_not.1 fun unaccepted => proper ⟨report, reported, unaccepted⟩
  case blameless =>
    exact fun latch => (Blameless.change _).bind fun _ =>
      (Blameless.syncKeysFrom _ _).bind fun _ => (Blameless.emit _).bind fun _ => .pure _
  case carried => exact fun complete latch taken => ⟨_, _, syncKeys_run_of_complete complete taken⟩

/-! ## Programs that are stored -/

/-- **A program that is accepted** is stored byte by byte, the high byte of each word first, and nothing
else is touched. -/
theorem load_stores (full : session.machine.state.memory.size = memorySize) {words : List Int}
    (fits : 2 * words.length ≤ programCapacity) (range : ∀ word ∈ words, 0 ≤ word ∧ word ≤ 0xFFFF) :
    ∃ left, (Machine.load words).run session = .ok () left ∧
      let memory := left.machine.state.memory
      left.machine = { session.machine with state := { session.machine.state with memory } } ∧
      (∀ (position : Nat) (inside : position < words.length), ∃ high low : UInt8,
        memory[0x200 + 2 * position]? = some high ∧ memory[0x200 + 2 * position + 1]? = some low ∧
          words[position] = 256 * high.toNat + low.toNat) ∧
      ∀ cell, cell < 0x200 ∨ 0x200 + 2 * words.length ≤ cell →
        memory[cell]? = session.machine.state.memory[cell]? := by
  have accepted := Machine.checkProgram_eq_ok_iff.2 ⟨fits, range⟩
  refine ⟨session.loaded words, Machine.load_run full accepted, rfl, fun position inside => ?_,
    fun cell outside => Memory.getElem?_withProgram_of_outside _ fits outside⟩
  obtain ⟨high, low⟩ := getElem?_bytesOfWords words inside
  rw [← Memory.getElem?_withProgram full fits (by omega)] at high low
  refine ⟨_, _, high, low, ?_⟩
  exact Memory.word_of_bytes (range _ (List.getElem_mem inside))

end

/-- Requests that a host can get wrong are refused exactly when they are wrong, and then nothing has
happened. -/
structure Checks (session : Session) : Prop where
  load : ∀ words, Guarded (Machine.load words) session
    (3584 < 2 * words.length ∨ ∃ word ∈ words, ¬ (0 ≤ word ∧ word ≤ 0xFFFF))
  loadFont : ∀ glyphs, Guarded (Machine.loadFont glyphs) session (432 < glyphs.length)
  holdKey : ∀ key pressed, Guarded (Machine.holdKey key pressed) session (¬ (0 ≤ key ∧ key ≤ 15))
  states : ∀ pressed, Guarded (Machine.syncKeys (some (.states pressed))) session (pressed.length ≠ 16)
  changes : ∀ entries, Guarded (Machine.syncKeys (some (.changes entries))) session
    (∃ entry ∈ entries, ¬ (0 ≤ entry.1 ∧ entry.1 ≤ 15))
  unreported : Guarded (Machine.syncKeys none) session False
  /-- A program that is accepted is stored as it is. -/
  stored : session.machine.state.memory.size = 4096 → ∀ words : List Int, 2 * words.length ≤ 3584 →
    (∀ word ∈ words, 0 ≤ word ∧ word ≤ 0xFFFF) →
    ∃ left, (Machine.load words).run session = .ok () left ∧
      let memory := left.machine.state.memory
      left.machine = { session.machine with state := { session.machine.state with memory } } ∧
      (∀ (position : Nat) (inside : position < words.length), ∃ high low : UInt8,
        memory[0x200 + 2 * position]? = some high ∧ memory[0x200 + 2 * position + 1]? = some low ∧
          words[position] = 256 * high.toNat + low.toNat) ∧
      ∀ cell, cell < 0x200 ∨ 0x200 + 2 * words.length ≤ cell →
        memory[cell]? = session.machine.state.memory[cell]?

/-- **A request that is refused has changed nothing**, and it is refused for what is wrong with it and for
nothing else.  The whole of it is looked at before anything is done: a single word out of range, or a
single key that does not exist, is enough wherever it stands.  This is so for every machine. -/
theorem refused_requests_change_nothing (session : Session) : Checks session where
  load := load_guarded session
  loadFont := loadFont_guarded session
  holdKey := holdKey_guarded session
  states pressed := (syncKeys_guarded session _).congr (by simp [HostReport.Accepted])
  changes entries := (syncKeys_guarded session _).congr (by simp [HostReport.not_accepted_changes])
  unreported := (syncKeys_guarded session none).congr (by simp)
  stored full _ fits range := load_stores session full fits range

/-- A word that is none stands behind one that could have been stored. -/
theorem refused_requests_change_nothing_last_word :
    ∃ session : Session, session.machine.state.memory.size = 4096 ∧
      (∃ error, (Machine.load [0x6A05, 0x10000]).run session = .error error session ∧
        error.blamesValue = true) ∧
      ∃ left, (Machine.load [0x6A05, 0xFFFF]).run session = .ok () left ∧
        left.machine.state.memory[0x200]? = some 0x6A := by
  let session : Session :=
    { machine := { Machine.ofSettings { random := .sequence (fun _ => 0) 0 } 0 .standard with
        state := {} } }
  have full : session.machine.state.memory.size = 4096 := Array.size_replicate
  have checks := refused_requests_change_nothing session
  refine ⟨session, full, ?_, ?_⟩
  · have guarded := checks.load [0x6A05, 0x10000]
    obtain ⟨error, left, refused, blames⟩ := guarded.refuses.2 (.inr ⟨0x10000, by simp, by decide⟩)
    obtain rfl := guarded.untouched error left refused blames
    exact ⟨error, refused, blames⟩
  · obtain ⟨left, loaded, -, bytes, -⟩ := checks.stored full [0x6A05, 0xFFFF] (by decide) (by decide)
    obtain ⟨high, low, first, -, word⟩ := bytes 0 (by decide)
    have value : (0x6A05 : Int) = 256 * high.toNat + low.toNat := word
    have bound := low.toNat_lt
    have same : high = 0x6A := UInt8.toNat_inj.1 (show high.toNat = 106 by omega)
    exact ⟨left, loaded, same ▸ first⟩

end Chip8
