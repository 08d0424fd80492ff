import OpcodeShapes.Proofs.Settings

/-!
# What is built

Building copies a draft and turns the designated position into one that cannot
fail. So a registry built from a sound draft answers every question as if its
entries were gone through one by one.
-/

namespace OpcodeShapes

set_option autoImplicit false

/-- A registry whose indexes are right about its entries. -/
def Registry.Sound (registry : Registry) : Prop :=
  Coherent registry.entries registry.byName registry.byOpcode

/-- What a registry has from the draft it was built from. -/
structure BuiltFrom (draft : Draft) (registry : Registry) : Prop where
  entries : registry.entries = draft.entries
  byName : registry.byName = draft.byName
  byOpcode : registry.byOpcode = draft.byOpcode
  fallback : draft.fallback = some registry.fallbackAt.val
  hat_cap : registry.fallback.flags = Flags.hatCap

theorem built_from {draft : Draft} {registry : Registry} (built : draft.build = .ok registry) :
    BuiltFrom draft registry := by
  unfold Draft.build at built
  split at built
  · cases built
  · rename_i position designated
    dsimp only at built
    split_ifs at built with inside hatCap
    obtain rfl := Except.ok.inj built
    exact ⟨rfl, rfl, rfl, designated, hatCap⟩

theorem BuiltFrom.sound {draft : Draft} {registry : Registry} (built : BuiltFrom draft registry)
    (sound : draft.Sound) : registry.Sound := by
  rw [Registry.Sound, built.entries, built.byName, built.byOpcode]
  exact sound.toCoherent

theorem BuiltFrom.designated {draft : Draft} {registry : Registry} (built : BuiltFrom draft registry) :
    ∃ name, draft.fallbackName = some name ∧ ⟨name, registry.fallback⟩ ∈ registry.entries := by
  have inside := registry.fallbackAt.isLt
  refine ⟨registry.entries[registry.fallbackAt].name, ?_, List.getElem_mem inside⟩
  rw [Draft.fallbackName, built.fallback, ← built.entries]
  simp [Entry.names]

theorem exists_built {draft : Draft} (builds : draft.build.isOk = true) :
    ∃ registry, draft.build = .ok registry := by
  cases result : draft.build with
  | error reason =>
      rw [result] at builds
      cases builds
  | ok registry => exact ⟨registry, rfl⟩

/-- On a sound draft only a missing designation counts as missing. -/
theorem build_eq {draft : Draft} (sound : draft.Sound) {position : Nat} {entry : Entry}
    (designated : draft.fallback = some position)
    (present : draft.entries[position]? = some entry) :
    draft.build =
      if entry.shape.flags = Flags.hatCap then
        .ok ⟨draft.entries, draft.byName, draft.byOpcode,
          ⟨position, sound.fallback_inside position designated⟩⟩
      else .error (.invalidFallback entry.name entry.shape.opcode) := by
  obtain ⟨inside, rfl⟩ := List.getElem?_eq_some_iff.mp present
  unfold Draft.build
  rw [designated]
  simp only [dif_pos inside]

theorem build_undesignated {draft : Draft} (undesignated : draft.fallback = none) :
    draft.build = .error .missingFallback := by
  unfold Draft.build
  rw [undesignated]

namespace Registry.Sound

variable {registry : Registry}

theorem find_name_eq (sound : registry.Sound) (name : String) :
    registry.findName? name =
      (registry.entries.find? fun entry => entry.name = name).map Entry.shape :=
  sound.names.read_eq_find name Entry.shape

theorem find_opcode_eq (sound : registry.Sound) (opcode : String) :
    registry.findOpcode? opcode =
      (registry.entries.find? fun entry => entry.shape.opcode = opcode).map Entry.shape :=
  sound.opcodes.read_eq_find opcode Entry.shape

theorem find_name_eq_some_iff (sound : registry.Sound) (name : String) (shape : Shape) :
    registry.findName? name = some shape ↔ ⟨name, shape⟩ ∈ registry.entries := by
  rw [sound.find_name_eq, Option.map_eq_some_iff]
  constructor
  · rintro ⟨entry, listed, rfl⟩
    obtain ⟨member, rfl⟩ := (sound.names.find_eq_some_iff name entry).mp listed
    exact member
  · intro member
    exact ⟨_, (sound.names.find_eq_some_iff name ⟨name, shape⟩).mpr ⟨member, rfl⟩, rfl⟩

theorem named_eq_ok_iff (sound : registry.Sound) (name : String) (shape : Shape) :
    registry.named name = .ok shape ↔ ⟨name, shape⟩ ∈ registry.entries := by
  rw [← sound.find_name_eq_some_iff, Registry.named]
  cases registry.findName? name <;> simp

theorem find_opcode_eq_some_iff (sound : registry.Sound) (opcode : String) (shape : Shape) :
    registry.findOpcode? opcode = some shape ↔
      ∃ name, ⟨name, shape⟩ ∈ registry.entries ∧ shape.opcode = opcode := by
  rw [sound.find_opcode_eq, Option.map_eq_some_iff]
  constructor
  · intro answered
    rcases answered with ⟨entry, listed, rfl⟩
    exact ⟨entry.name, (sound.opcodes.find_eq_some_iff opcode entry).mp listed⟩
  · intro belongs
    rcases belongs with ⟨name, member, holds⟩
    exact ⟨_, (sound.opcodes.find_eq_some_iff opcode ⟨name, shape⟩).mpr ⟨member, holds⟩, rfl⟩

theorem find_opcode_eq_none_iff (sound : registry.Sound) (opcode : String) :
    registry.findOpcode? opcode = none ↔ ∀ entry ∈ registry.entries, entry.shape.opcode ≠ opcode := by
  rw [sound.find_opcode_eq]
  simp

end Registry.Sound

end OpcodeShapes
