import Chip8.Proofs.Causes
import Chip8.Proofs.Preservation
import Mathlib.Data.List.Induction
import Mathlib.Data.List.Sort
import Mathlib.Data.String.Basic

/-!
# Tables of handlers that are put together

Two things can stop a table from being put together, and each is looked for in a place of its own: a kind
that repeats an earlier one, while handlers are registered, and a kind that is missing, after the last.  So a
repetition is met first, even if a kind is missing as well.  What passes both has every kind once, in the
order in which the handlers were given, and is sealed: it refuses whatever it is asked to add from then on.

* `Kind.FirstRepeat` — the first kind of a list that stands in it already.
* `forM_register_run`, `forM_register_run_repeat` — handlers that are registered one after the other.
* `mem_missingLabels`, `missingLabels_sorted` — what a table lacks.
* **`build_eq_ok_iff`** — a table is built with all kinds or not at all.
* `afterAll`, `afterAll_of_sealed` — a table after further attempts.
* `handler?_eq_of_mem` — the handler of a key that is registered once.
* **`registration_exhaustive_and_final`** — all of it, for every list of kinds and handlers.
-/

namespace Chip8

/-! ## Lists with a repetition -/

/-- The kind repeats an earlier one of the list, and no kind before it does. -/
def Kind.FirstRepeat (kind : Kind) (kinds : List Kind) : Prop :=
  ∃ before rest, kinds = before ++ kind :: rest ∧ before.Nodup ∧ kind ∈ before

lemma Kind.exists_firstRepeat {kinds : List Kind} (repeats : ¬ kinds.Nodup) :
    ∃ kind : Kind, kind.FirstRepeat kinds := by
  -- from the back: a repetition in front of the last kind stays the first one
  induction kinds using List.reverseRecOn with
  | nil => exact absurd List.nodup_nil repeats
  | append_singleton front last ih =>
      by_cases distinct : front.Nodup
      · have repeated : last ∈ front := by
          by_contra fresh
          exact repeats (List.concat_eq_append ▸ distinct.concat fresh)
        exact ⟨last, front, [], rfl, distinct, repeated⟩
      · obtain ⟨kind, before, rest, rfl, first⟩ := ih distinct
        exact ⟨kind, before, rest ++ [last], by simp, first⟩

/-- A list without repetition has every kind as soon as it lacks none. -/
lemma Kind.perm_all_iff {kinds : List Kind} :
    kinds.Perm all ↔ kinds.Nodup ∧ ∀ kind, kind ∈ kinds := by
  constructor
  · exact fun same => ⟨same.nodup_iff.2 nodup_all, fun kind => same.mem_iff.2 (mem_all kind)⟩
  · rintro ⟨distinct, every⟩
    exact (List.perm_ext_iff_of_nodup distinct nodup_all).2 fun kind =>
      ⟨fun _ => mem_all kind, fun _ => every kind⟩

lemma Kind.label_injective : Function.Injective label := by
  intro kind other same
  have named := ofLabel?_label kind
  rw [same, ofLabel?_label] at named
  exact (Option.some.inj named).symm

namespace HandlerTable

variable {table : HandlerTable} {key : HandlerKey} {handler : Handler}

/-! ## Registering handlers -/

lemma register_run (key : HandlerKey) (handler : Handler) (table : HandlerTable) :
    (register key handler).run table =
      if table.isSealed then .error .sealedSet table
      else if key ∈ table.keys then .error (.duplicateHandler key.label) table
      else .ok () { table with handlers := table.handlers ++ [(key, handler)] } := by
  rw [register, EStateM.run_bind, EStateM.run_get]
  dsimp only
  split_ifs <;> rfl

/-- The operation that registers handlers in the given order. -/
abbrev registerAll (entries : List (HandlerKey × Handler)) : EStateM Error HandlerTable Unit :=
  entries.forM fun entry => register entry.1 entry.2

/-- Handlers under new keys, each of them added behind the others. -/
lemma forM_register_run (table : HandlerTable) (unsealed : table.isSealed = false)
    {entries : List (HandlerKey × Handler)} (distinct : (table.keys ++ entries.map (·.1)).Nodup) :
    (registerAll entries).run table = .ok () { table with handlers := table.handlers ++ entries } := by
  induction entries generalizing table with
  | nil =>
      rw [List.append_nil]
      rfl
  | cons entry rest ih =>
      have fresh : entry.1 ∉ table.keys := fun listed =>
        (List.nodup_append.1 distinct).2.2 entry.1 listed entry.1 List.mem_cons_self rfl
      have first : (register entry.1 entry.2).run table =
          .ok () { table with handlers := table.handlers ++ [entry] } := by
        rw [register_run, unsealed, if_neg Bool.false_ne_true, if_neg fresh]
      have longer : keys { table with handlers := table.handlers ++ [entry] } = table.keys ++ [entry.1] :=
        List.map_append
      have later : (keys { table with handlers := table.handlers ++ [entry] } ++ rest.map (·.1)).Nodup := by
        rw [longer, List.append_assoc]
        exact distinct
      have added := ih { table with handlers := table.handlers ++ [entry] } unsealed later
      rw [registerAll, List.forM_eq_forM] at added ⊢
      rw [List.forM_cons, EStateM.run_bind, first]
      dsimp only
      rw [added, List.append_assoc]
      rfl

/-- A repetition stops everything; what is behind it is not looked at. -/
lemma forM_register_run_repeat (table : HandlerTable) (unsealed : table.isSealed = false)
    {before : List (HandlerKey × Handler)} (distinct : (table.keys ++ before.map (·.1)).Nodup)
    (repeated : key ∈ table.keys ++ before.map (·.1)) (handler : Handler)
    (rest : List (HandlerKey × Handler)) :
    (registerAll (before ++ (key, handler) :: rest)).run table =
      .error (.duplicateHandler key.label) { table with handlers := table.handlers ++ before } := by
  have longer : keys { table with handlers := table.handlers ++ before } =
      table.keys ++ before.map (·.1) := List.map_append
  have refused : (register key handler).run { table with handlers := table.handlers ++ before } =
      .error (.duplicateHandler key.label) { table with handlers := table.handlers ++ before } := by
    rw [register_run, if_neg (by simpa using unsealed), longer, if_pos repeated]
  have added := forM_register_run table unsealed distinct
  rw [registerAll, List.forM_eq_forM] at added ⊢
  rw [List.forM_append, EStateM.run_bind, added]
  dsimp only
  rw [List.forM_cons, EStateM.run_bind, refused]

/-! ## Missing kinds -/

lemma mem_missingLabels {label : String} :
    label ∈ table.missingLabels ↔ ∃ kind, .kind kind ∉ table.keys ∧ kind.label = label := by
  simp [missingLabels, List.mem_mergeSort, Kind.mem_all]

lemma missingLabels_sorted (table : HandlerTable) : table.missingLabels.Pairwise (· < ·) := by
  have distinct : table.missingLabels.Nodup :=
    (List.mergeSort_perm _ _).nodup_iff.2 ((Kind.nodup_all.filter _).map Kind.label_injective)
  have ordered : table.missingLabels.Pairwise (· ≤ ·) := List.pairwise_mergeSort' (· ≤ ·) _
  exact (ordered.and distinct).imp fun ⟨le, ne⟩ => lt_of_le_of_ne le ne

lemma missingLabels_eq_nil_iff : table.missingLabels = [] ↔ ∀ kind, .kind kind ∈ table.keys := by
  rw [List.eq_nil_iff_forall_not_mem]
  constructor
  · intro empty kind
    by_contra missing
    exact empty kind.label (mem_missingLabels.2 ⟨kind, missing, rfl⟩)
  · intro every label listed
    obtain ⟨kind, missing, -⟩ := mem_missingLabels.1 listed
    exact missing (every kind)

/-! ## Tables that were built -/

/-- Handlers for kinds, as they are registered. -/
def keyed (entries : List (Kind × Handler)) : List (HandlerKey × Handler) :=
  entries.map fun entry => (.kind entry.1, entry.2)

section

variable {entries : List (Kind × Handler)} (glyphBase : Int)

lemma map_keyed (entries : List (Kind × Handler)) :
    (keyed entries).map (·.1) = (entries.map (·.1)).map HandlerKey.kind := by
  rw [keyed, List.map_map, List.map_map]
  rfl

lemma kind_mem_map_keyed {kind : Kind} :
    .kind kind ∈ (keyed entries).map (·.1) ↔ kind ∈ entries.map (·.1) := by
  rw [map_keyed]
  exact List.mem_map_of_injective fun _ _ => HandlerKey.kind.inj

lemma nodup_map_keyed : ((keyed entries).map (·.1)).Nodup ↔ (entries.map (·.1)).Nodup := by
  rw [map_keyed]
  exact List.nodup_map_iff fun _ _ => HandlerKey.kind.inj

/-- Without a repetition it is the missing kinds that decide. -/
lemma build_of_nodup (distinct : (entries.map (·.1)).Nodup) :
    build (keyed entries) glyphBase =
      match missingLabels { handlers := keyed entries, glyphBase } with
      | [] => .ok { handlers := keyed entries, glyphBase, isSealed := true }
      | labels => .error (.missingKinds labels) := by
  have added : (registerAll (keyed entries)).run { glyphBase } =
      .ok () { handlers := keyed entries, glyphBase } :=
    forM_register_run _ rfl (nodup_map_keyed.2 distinct)
  simp only [build, sealIfComplete, EStateM.run_bind, added, EStateM.run_get]
  cases missingLabels { handlers := keyed entries, glyphBase } <;> rfl

lemma build_of_perm (same : (entries.map (·.1)).Perm Kind.all) :
    build (keyed entries) glyphBase =
      .ok { handlers := keyed entries, glyphBase, isSealed := true } := by
  obtain ⟨distinct, every⟩ := Kind.perm_all_iff.1 same
  have complete : missingLabels { handlers := keyed entries, glyphBase } = [] :=
    missingLabels_eq_nil_iff.2 fun kind => kind_mem_map_keyed.2 (every kind)
  rw [build_of_nodup glyphBase distinct, complete]

lemma build_of_lacking (distinct : (entries.map (·.1)).Nodup)
    (lacking : ¬ (entries.map (·.1)).Perm Kind.all) :
    build (keyed entries) glyphBase =
      .error (.missingKinds (missingLabels { handlers := keyed entries, glyphBase })) := by
  have incomplete : missingLabels { handlers := keyed entries, glyphBase } ≠ [] := fun complete =>
    lacking (Kind.perm_all_iff.2 ⟨distinct, fun kind =>
      kind_mem_map_keyed.1 (missingLabels_eq_nil_iff.1 complete kind)⟩)
  rw [build_of_nodup glyphBase distinct]
  split
  · contradiction
  · rfl

lemma build_of_firstRepeat {kind : Kind} (first : kind.FirstRepeat (entries.map (·.1))) :
    build (keyed entries) glyphBase = .error (.duplicateHandler kind.label) := by
  obtain ⟨front, back, split, distinct, repeated⟩ := first
  obtain ⟨before, behind, rfl, rfl, tail⟩ := List.map_eq_append_iff.1 split
  obtain ⟨⟨named, handler⟩, rest, rfl, rfl, rfl⟩ := List.map_eq_cons_iff.1 tail
  have refused := forM_register_run_repeat { glyphBase } rfl (nodup_map_keyed.2 distinct)
    (kind_mem_map_keyed.2 repeated) handler (keyed rest)
  have parts : keyed (before ++ (named, handler) :: rest) =
      keyed before ++ (.kind named, handler) :: keyed rest := List.map_append
  simp only [build, EStateM.run_bind, parts, refused]
  rfl

/-- **A table is built with all kinds or not at all.** -/
theorem build_eq_ok_iff :
    build (keyed entries) glyphBase = .ok table ↔
      (entries.map (·.1)).Perm Kind.all ∧
        table = { handlers := keyed entries, glyphBase, isSealed := true } := by
  constructor
  · intro built
    have same : (entries.map (·.1)).Perm Kind.all := by
      by_contra other
      by_cases distinct : (entries.map (·.1)).Nodup
      · rw [build_of_lacking glyphBase distinct other] at built
        cases built
      · obtain ⟨kind, first⟩ := Kind.exists_firstRepeat distinct
        rw [build_of_firstRepeat glyphBase first] at built
        cases built
    rw [build_of_perm glyphBase same] at built
    cases built
    exact ⟨same, rfl⟩
  · rintro ⟨same, rfl⟩
    exact build_of_perm glyphBase same

/-- The set that machines work with is one that can be built. -/
lemma build_standard :
    build (Kind.all.map Kind.entry) glyphBase = .ok (InstructionSet.standard glyphBase).toHandlerTable := by
  have own : keyed (Kind.all.map fun kind => (kind, kind.handler)) = Kind.all.map Kind.entry := by
    rw [keyed, List.map_map]
    rfl
  have kinds : (Kind.all.map fun kind => (kind, kind.handler)).map (·.1) = Kind.all := by
    rw [List.map_map]
    exact List.map_id _
  rw [← own, build_of_perm glyphBase (kinds ▸ .refl _), own]
  rfl

end

/-! ## Sealed tables -/

/-- What a sealed table is asked to add it refuses, whatever the key. -/
lemma register_run_of_sealed (closed : table.isSealed = true) (key : HandlerKey) (handler : Handler) :
    (register key handler).run table = .error .sealedSet table := by
  rw [register_run, if_pos closed]

/-- A table after attempts to register handlers, refused or not. -/
def afterAll (table : HandlerTable) (attempts : List (HandlerKey × Handler)) : HandlerTable :=
  attempts.foldl (fun table attempt => leaves (register attempt.1 attempt.2) table) table

lemma afterAll_of_sealed (closed : table.isSealed = true) (attempts : List (HandlerKey × Handler)) :
    table.afterAll attempts = table := by
  induction attempts with
  | nil => rfl
  | cons attempt rest ih =>
      have first : leaves (register attempt.1 attempt.2) table = table :=
        leaves_of_error (register_run_of_sealed closed attempt.1 attempt.2)
      rw [afterAll, List.foldl_cons, first]
      exact ih

/-- A key that is registered once has the handler that it was registered with. -/
lemma handler?_eq_of_mem (distinct : table.keys.Nodup) (member : (key, handler) ∈ table.handlers) :
    table.handler? key = some handler := by
  rw [handler?]
  cases found : table.handlers.find? (·.1 = key) with
  | none => exact absurd (decide_eq_true rfl) (List.find?_eq_none.1 found _ member)
  | some entry =>
      have same : entry.1 = key := by simpa using List.find?_some found
      rw [List.inj_on_of_nodup_map distinct (List.mem_of_find?_eq_some found) member same]
      rfl

/-- A set of all kinds never looks for a kind in vain. -/
lemma execute_ne_unknownKind {set : InstructionSet} (complete : ∀ kind, kind ∈ set.kinds) (byte : Int)
    (kind : Kind) (ins : Instruction) :
    RefusesOnly (fun error => ∀ label, error ≠ .unknownKind label) (set.execute byte kind ins) := by
  have performed : RefusesOnly (fun error => ∀ label, error ≠ .unknownKind label)
      (kind.perform set.glyphBase byte ins) :=
    kind.perform_refusesOnly (fun _ => nofun) (fun _ _ => nofun) set.glyphBase byte ins
  rw [set.execute_eq]
  exact .ite (fun _ => performed.bind fun _ => .update _) fun unlisted => absurd (complete kind) unlisted

/-- The table is what it is: it refuses every further handler, whatever the key and whatever came before. -/
structure Final (table : HandlerTable) : Prop where
  refuses : ∀ attempts key handler,
    (register key handler).run (table.afterAll attempts) = .error .sealedSet table
  unchanged : ∀ attempts, table.afterAll attempts = table

lemma final_of_sealed (closed : table.isSealed = true) : table.Final where
  refuses attempts key handler := by
    rw [afterAll_of_sealed closed]
    exact register_run_of_sealed closed key handler
  unchanged := afterAll_of_sealed closed

/-! ## All lists of kinds and handlers -/

/-- Labels stand in messages as they are, between single quotes. -/
lemma quoted_label (kind : Kind) : Text.quoted kind.label = "'" ++ kind.label ++ "'" := by
  cases kind <;> decide +kernel

lemma message_missingLabels (table : HandlerTable) :
    (Error.missingKinds table.missingLabels).message =
      "Registry has no handler for: [" ++
        ", ".intercalate (table.missingLabels.map fun label => "'" ++ label ++ "'") ++ "]" := by
  have quotes : table.missingLabels.map Text.quoted =
      table.missingLabels.map fun label => "'" ++ label ++ "'" := by
    refine List.map_congr_left fun label listed => ?_
    obtain ⟨kind, -, rfl⟩ := mem_missingLabels.1 listed
    exact quoted_label kind
  have opening : "Registry has no handler for: [" = "Registry has no handler for: " ++ "[" := by decide
  calc (Error.missingKinds table.missingLabels).message
      = "Registry has no handler for: " ++ Text.bracketed (table.missingLabels.map Text.quoted) := rfl
    _ = _ := by rw [quotes, Text.bracketed, opening]; simp only [String.append_assoc]

/-- What a table that was built of these handlers is good for. -/
structure Serves (entries : List (Kind × Handler)) (table : HandlerTable) : Prop where
  handlers : table.handlers = keyed entries
  final : table.Final
  /-- Every kind has one of the handlers, and that is what carries out its instructions. -/
  executes : ∀ kind, ∃ handler, (kind, handler) ∈ entries ∧ ∀ byte ins,
    table.execute byte kind ins = do
      handler table.glyphBase byte ins
      modify fun state => { state with cycleCount := state.cycleCount + 1 }
  /-- Where every kind has its own handler, no instruction is refused for its kind. -/
  known : (∀ entry ∈ entries, entry.2 = entry.1.handler) → ∀ byte kind ins state label left,
    (table.execute byte kind ins).run state ≠ .error (.unknownKind label) left

lemma serves_of_perm {entries : List (Kind × Handler)} (same : (entries.map (·.1)).Perm Kind.all)
    (glyphBase : Int) : Serves entries { handlers := keyed entries, glyphBase, isSealed := true } where
  handlers := rfl
  final := final_of_sealed rfl
  executes := by
    intro kind
    obtain ⟨distinct, every⟩ := Kind.perm_all_iff.1 same
    obtain ⟨⟨named, handler⟩, member, rfl⟩ := List.mem_map.1 (every kind)
    let table : HandlerTable := { handlers := keyed entries, glyphBase, isSealed := true }
    have found : table.handler? (.kind named) = some handler :=
      handler?_eq_of_mem (nodup_map_keyed.2 distinct) (List.mem_map_of_mem member)
    refine ⟨handler, member, fun byte ins => ?_⟩
    rw [execute, found]
  known := by
    intro own byte kind ins state label left refused
    let set : InstructionSet :=
      { handlers := keyed entries
        glyphBase
        isSealed := true
        own := fun entry member => by
          obtain ⟨⟨kind, handler⟩, listed, rfl⟩ := List.mem_map.1 member
          obtain rfl : handler = kind.handler := own _ listed
          exact ⟨kind, rfl⟩ }
    have complete (kind : Kind) : kind ∈ set.kinds := by
      obtain ⟨⟨named, handler⟩, listed, rfl⟩ := List.mem_map.1 ((Kind.perm_all_iff.1 same).2 kind)
      obtain rfl : handler = named.handler := own _ listed
      exact InstructionSet.mem_kinds.2 (List.mem_map_of_mem listed)
    exact execute_ne_unknownKind complete byte kind ins state _ left refused label rfl

/-- What becomes of handlers that are given for kinds. -/
structure Registration (entries : List (Kind × Handler)) (glyphBase : Int) : Prop where
  accepted : (∃ table, build (keyed entries) glyphBase = .ok table) ↔ (entries.map (·.1)).Perm Kind.all
  repeats : ¬ (entries.map (·.1)).Nodup → ∃ kind : Kind, kind.FirstRepeat (entries.map (·.1))
  /-- A repetition is told of, also where kinds are missing. -/
  repeated : ∀ kind : Kind, kind.FirstRepeat (entries.map (·.1)) →
    build (keyed entries) glyphBase = .error (.duplicateHandler kind.label) ∧
      (Error.duplicateHandler kind.label).message = "Handler already registered: " ++ kind.label
  /-- Missing kinds are told of in alphabetical order, each of them once. -/
  missing : (entries.map (·.1)).Nodup → ¬ (entries.map (·.1)).Perm Kind.all →
    ∃ labels : List String, labels.Pairwise (· < ·) ∧
      (∀ label, label ∈ labels ↔ ∃ kind, kind ∉ entries.map (·.1) ∧ kind.label = label) ∧
      build (keyed entries) glyphBase = .error (.missingKinds labels) ∧
      (Error.missingKinds labels).message = "Registry has no handler for: [" ++
        ", ".intercalate (labels.map fun label => "'" ++ label ++ "'") ++ "]"
  serves : ∀ table, build (keyed entries) glyphBase = .ok table → Serves entries table

/-- **A table is built of a handler for every kind or not at all**, in any order, and a table that was built
is final and never looks for a kind in vain.  What else is given is refused, for its first repetition if it
has one and for all that it lacks if not. -/
theorem registration_exhaustive_and_final (entries : List (Kind × Handler)) (glyphBase : Int) :
    Registration entries glyphBase where
  accepted := by
    constructor
    · rintro ⟨table, built⟩
      exact ((build_eq_ok_iff glyphBase).1 built).1
    · exact fun same => ⟨_, build_of_perm glyphBase same⟩
  repeats := Kind.exists_firstRepeat
  repeated kind first := ⟨build_of_firstRepeat glyphBase first, rfl⟩
  missing distinct lacking := by
    refine ⟨_, missingLabels_sorted _, fun label => ?_, build_of_lacking glyphBase distinct lacking,
      message_missingLabels _⟩
    simp only [mem_missingLabels, keys, kind_mem_map_keyed]
  serves table built := by
    obtain ⟨same, rfl⟩ := (build_eq_ok_iff glyphBase).1 built
    exact serves_of_perm same glyphBase

/-- Two kinds that repeat, with most of the others missing; all kinds but one; and all of them backwards. -/
theorem registration_exhaustive_and_final_without_draw :
    let own (kinds : List Kind) := kinds.map fun kind => (kind, kind.handler)
    build (keyed (own [.clear, .ret, .jump, .ret, .clear])) = .error (.duplicateHandler "OP_RET") ∧
    build (keyed (own (Kind.all.erase .draw))) = .error (.missingKinds ["OP_DRW"]) ∧
    ∃ table, build (keyed (own Kind.all.reverse)) = .ok table ∧ table.handlers.length = 35 ∧
      (register (.kind .draw) Kind.clear.handler).run
        (table.afterAll [(.other "OP_DRX", Kind.draw.handler)]) = .error .sealedSet table := by
  intro own
  have kinds (given : List Kind) : (own given).map (·.1) = given := by
    rw [List.map_map]
    exact List.map_id _
  refine ⟨?_, ?_, ?_⟩
  · have result := registration_exhaustive_and_final (own [.clear, .ret, .jump, .ret, .clear]) fontStart
    have first : Kind.ret.FirstRepeat [.clear, .ret, .jump, .ret, .clear] :=
      ⟨[.clear, .ret, .jump], [.clear], rfl, by decide, by decide⟩
    exact (result.repeated .ret (kinds _ ▸ first)).1
  · have result := registration_exhaustive_and_final (own (Kind.all.erase .draw)) fontStart
    obtain ⟨labels, sorted, lists, refused, -⟩ :=
      result.missing (by rw [kinds]; decide) fun same =>
        absurd (same.mem_iff.2 (Kind.mem_all .draw)) (by rw [kinds]; decide)
    have listed (label : String) : label ∈ labels ↔ label ∈ ["OP_DRW"] := by
      rw [lists, List.mem_singleton, kinds]
      constructor
      · rintro ⟨kind, unlisted, rfl⟩
        revert unlisted
        cases kind <;> decide
      · rintro rfl
        exact ⟨.draw, by decide, rfl⟩
    have distinct : labels.Nodup := sorted.imp ne_of_lt
    have single : labels.Perm ["OP_DRW"] :=
      (List.perm_ext_iff_of_nodup distinct (List.nodup_singleton _)).2 listed
    rw [refused, List.perm_singleton.1 single]
  · have result := registration_exhaustive_and_final (own Kind.all.reverse) fontStart
    obtain ⟨table, built⟩ := result.accepted.2 (kinds _ ▸ List.reverse_perm _)
    have serves := result.serves table built
    exact ⟨table, built, by rw [serves.handlers]; rfl, serves.final.refuses _ _ _⟩

end HandlerTable

end Chip8
