import OpcodeShapes.Proofs.Built
import OpcodeShapes.Proofs.Catalogue

/-!
# The answer for unknown opcodes

Whatever is done to a draft before it is built, also to the entry that was
designated, an opcode that no entry has is answered by the entry of the name
that was designated last. It is a hat and a cap and nothing else, so nothing
can be attached below it.
-/

namespace OpcodeShapes

set_option autoImplicit false

/-- The drafts that one can begin with and the names that they designate. -/
inductive Initial : Draft → Option String → Prop where
  | empty : Initial Draft.empty none
  | builtin {strict : Bool} {draft : Draft} (loaded : Catalogue.draft strict = .ok draft) :
      Initial draft (some Catalogue.fallbackName)

theorem initial_sound {draft : Draft} {name : Option String} (initial : Initial draft name) :
    draft.Sound ∧ draft.fallbackName = name := by
  cases initial with
  | empty => exact ⟨empty_draft_sound, rfl⟩
  | builtin loaded =>
      have holds := Catalogue.loaded_holds loaded
      exact ⟨holds.sound, holds.designated⟩

theorem hat_cap_not_attachable {shape : Shape} (hatCap : shape.flags = Flags.hatCap) :
    shape.attachable = .ok false := by
  simp only [Shape.attachable, Shape.require, Shape.get, hatCap]
  rfl

/-- After any history that ends in a registry: the designated name is the one of the last
designation that was not refused, the fallback is the entry under that name, its flags are exactly
a hat and a cap, and every opcode that belongs to no entry gets it. -/
theorem unknown_opcodes_never_attachable {start : Draft} {initially : Option String}
    (initial : Initial start initially) (history : List Operation) {registry : Registry}
    (built : (start.after history).build = .ok registry) :
    ∃ name, lastDesignated initially (start.writes history) = some name ∧
      ⟨name, registry.fallback⟩ ∈ registry.entries ∧
      registry.named name = .ok registry.fallback ∧
      registry.findOpcode? registry.fallback.opcode = some registry.fallback ∧
      (∀ flag, registry.fallback.get flag = if flag = .hat ∨ flag = .cap then .yes else .no) ∧
      registry.fallback.attachable = .ok false ∧
      ∀ opcode, (∀ entry ∈ registry.entries, entry.shape.opcode ≠ opcode) →
        registry.ofOpcode opcode = registry.fallback := by
  obtain ⟨startSound, begins⟩ := initial_sound initial
  have sound := history_sound startSound history
  have copied := built_from built
  have right : registry.Sound := copied.sound sound
  obtain ⟨name, designated, member⟩ := copied.designated
  refine ⟨name, ?_, member, ?_, ?_, ?_, hat_cap_not_attachable copied.hat_cap, ?_⟩
  · rw [← begins, ← reached_fallback_name (history_reaches start history) startSound]
    exact designated
  · exact (right.named_eq_ok_iff _ _).mpr member
  · exact (right.find_opcode_eq_some_iff _ _).mpr ⟨name, member, rfl⟩
  · intro flag
    rw [Shape.get, copied.hat_cap, hat_cap_get]
  · intro opcode unknown
    rw [Registry.ofOpcode, (right.find_opcode_eq_none_iff opcode).mpr unknown]
    rfl

/-- The designation moves to an entry that then loses its shape, its opcode and the shape again,
and gets a hat and a cap back in the end. -/
def restoredFallback : List Operation :=
  [.register "OLD" ⟨"old", Flags.hatCap, by decide⟩,
   .designate "OLD",
   .extend [⟨"NEW", "new", Flags.hatCap⟩, ⟨"OLD", "older", Flags.none⟩, ⟨"LATE", "late", Flags.none⟩],
   .designate "NEW",
   .designate "LATE",
   .change [⟨"NEW", ⟨"cover", Flags.none, by decide⟩, .replace⟩],
   .setStrict true,
   .change [⟨"NEXT", ⟨"new", Flags.none, by decide⟩, .add⟩,
     ⟨"NEW", ⟨"cover", Flags.hatCap, by decide⟩, .replace⟩,
     ⟨"NEW", ⟨"old", Flags.none, by decide⟩, .replace⟩]]

theorem restored_fallback_never_attachable :
    ∃ registry, (Draft.empty.after restoredFallback).build = .ok registry ∧
      (∀ entry ∈ registry.entries, entry.shape.opcode ≠ "late") ∧
      registry.ofOpcode "late" = registry.fallback ∧
      registry.named "NEW" = .ok registry.fallback ∧
      registry.fallback.attachable = .ok false := by
  obtain ⟨registry, built⟩ : ∃ registry, (Draft.empty.after restoredFallback).build = .ok registry :=
    exists_built (by decide +kernel)
  have unknown : ∀ entry ∈ registry.entries, entry.shape.opcode ≠ "late" := by
    rw [(built_from built).entries]
    decide +kernel
  obtain ⟨name, designated, _, named, _, _, stopped, answered⟩ :=
    unknown_opcodes_never_attachable .empty restoredFallback built
  have isNew : lastDesignated none (Draft.empty.writes restoredFallback) = some "NEW" := by
    decide +kernel
  obtain rfl := Option.some.inj (designated.symm.trans isNew)
  exact ⟨registry, built, unknown, answered "late" unknown, named, stopped⟩

end OpcodeShapes
