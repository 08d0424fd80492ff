import OpcodeShapes.Proofs.Built

/-!
# The representation after every history

What a draft and a registry keep beside their entries never goes wrong: no
index misses a key or has one too many, no name and no opcode stands twice, and
every position that a step or a look-up can come by is the position of an entry.
-/

namespace OpcodeShapes

set_option autoImplicit false

/-- The parts of a draft or of a registry agree. Names and shapes are one list of entries, so
there are as many of the ones as of the others. -/
structure WellIndexed (entries : List Entry) (byName byOpcode : Std.ExtTreeMap String Nat)
    (fallback : Option Nat) : Prop where
  names_indexed : Indexes byName (Entry.names entries)
  opcodes_indexed : Indexes byOpcode (Entry.opcodes entries)
  names_distinct : (Entry.names entries).Nodup
  opcodes_distinct : (Entry.opcodes entries).Nodup
  names_not_blank : ∀ name ∈ Entry.names entries, ¬ Text.Blank name
  opcodes_not_blank : ∀ opcode ∈ Entry.opcodes entries, ¬ Text.Blank opcode
  name_position_inside : ∀ (name : String) (position : Nat),
    byName[name]? = some position → position < entries.length
  opcode_position_inside : ∀ (opcode : String) (position : Nat),
    byOpcode[opcode]? = some position → position < entries.length
  fallback_inside : ∀ position, fallback = some position → position < entries.length

theorem Coherent.well_indexed {entries : List Entry} {byName byOpcode : Std.ExtTreeMap String Nat}
    (coherent : Coherent entries byName byOpcode) {fallback : Option Nat}
    (inside : ∀ position, fallback = some position → position < entries.length) :
    WellIndexed entries byName byOpcode fallback where
  names_indexed := coherent.names
  opcodes_indexed := coherent.opcodes
  names_distinct := coherent.names.keys_nodup
  opcodes_distinct := coherent.opcodes.keys_nodup
  names_not_blank := by
    intro name member
    obtain ⟨entry, belongs, rfl⟩ := List.mem_map.mp member
    exact coherent.nameable entry belongs
  opcodes_not_blank := by
    intro opcode member
    obtain ⟨entry, _, rfl⟩ := List.mem_map.mp member
    exact entry.shape.opcode_not_blank
  name_position_inside name position found := by
    simpa [Entry.names] using coherent.names.inside found
  opcode_position_inside opcode position found := by
    simpa [Entry.opcodes] using coherent.opcodes.inside found
  fallback_inside := inside

theorem Draft.Sound.find_is_some {draft : Draft} (sound : draft.Sound) (name : String) :
    (draft.find? name).isSome = draft.containsName name :=
  sound.names.read_is_some name fun position entry => (position, entry.shape)

theorem Draft.Sound.holder_is_some {draft : Draft} (sound : draft.Sound) (opcode : String) :
    (draft.holder? opcode).isSome = draft.byOpcode.contains opcode :=
  sound.opcodes.read_is_some opcode fun position entry => (position, entry.name)

theorem Registry.Sound.find_name_is_some {registry : Registry} (sound : registry.Sound)
    (name : String) : (registry.findName? name).isSome = registry.byName.contains name :=
  sound.names.read_is_some name fun _ entry => entry.shape

theorem Registry.Sound.find_opcode_is_some {registry : Registry} (sound : registry.Sound)
    (opcode : String) :
    (registry.findOpcode? opcode).isSome = registry.containsOpcode opcode :=
  sound.opcodes.read_is_some opcode fun _ entry => entry.shape

theorem build_missing_iff {draft : Draft} (sound : draft.Sound) :
    draft.build = .error .missingFallback ↔ draft.fallback = none := by
  constructor
  · intro missing
    cases designated : draft.fallback with
    | none => rfl
    | some position =>
        have present := List.getElem?_eq_getElem (sound.fallback_inside position designated)
        rw [build_eq sound designated present] at missing
        split_ifs at missing
        cases missing
  · exact build_undesignated

/-- Whatever was done and whatever was refused, the parts of the draft agree, and so do those of
the registry that it may become. No look-up and no build loses a key for want of an entry at the
position it was led to. -/
theorem representation_well_indexed (history : List Operation) :
    let draft := Draft.empty.after history
    WellIndexed draft.entries draft.byName draft.byOpcode draft.fallback ∧
      (∀ name, (draft.find? name).isSome = draft.containsName name) ∧
      (∀ opcode, (draft.holder? opcode).isSome = draft.byOpcode.contains opcode) ∧
      (draft.build = .error .missingFallback ↔ draft.fallback = none) ∧
      ∀ registry, draft.build = .ok registry →
        WellIndexed registry.entries registry.byName registry.byOpcode
            (some registry.fallbackAt.val) ∧
          (∀ name, (registry.findName? name).isSome = registry.byName.contains name) ∧
          ∀ opcode, (registry.findOpcode? opcode).isSome = registry.containsOpcode opcode := by
  intro draft
  have sound : draft.Sound := history_sound empty_draft_sound history
  refine ⟨sound.well_indexed sound.fallback_inside, sound.find_is_some, sound.holder_is_some,
    build_missing_iff sound, ?_⟩
  intro registry built
  have right : registry.Sound := (built_from built).sound sound
  refine ⟨Coherent.well_indexed right ?_, right.find_name_is_some, right.find_opcode_is_some⟩
  intro position designated
  obtain rfl := Option.some.inj designated
  exact registry.fallbackAt.isLt

/-- Two entries trade their opcodes by way of a third one, with refusals in between. -/
def tradedOpcodes : List Operation :=
  [.register "LID" ⟨"lid", Flags.hatCap, by decide⟩,
   .register "STEP" ⟨"step", Flags.none, by decide⟩,
   .replace "STEP" ⟨"lid", Flags.none, by decide⟩,
   .replace "LID" ⟨"spare", Flags.hatCap, by decide⟩,
   .replace "STEP" ⟨"lid", Flags.none, by decide⟩,
   .register "SPARE" ⟨"spare", Flags.none, by decide⟩,
   .replace "LID" ⟨"step", Flags.hatCap, by decide⟩,
   .designate "NOBODY",
   .designate "LID"]

theorem traded_opcodes_well_indexed :
    ∃ registry, (Draft.empty.after tradedOpcodes).build = .ok registry ∧
      WellIndexed registry.entries registry.byName registry.byOpcode
        (some registry.fallbackAt.val) := by
  obtain ⟨registry, built⟩ : ∃ registry, (Draft.empty.after tradedOpcodes).build = .ok registry :=
    exists_built (by decide +kernel)
  exact ⟨registry, built, ((representation_well_indexed tradedOpcodes).2.2.2.2 registry built).1⟩

end OpcodeShapes
