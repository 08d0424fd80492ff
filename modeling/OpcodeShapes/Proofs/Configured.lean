import OpcodeShapes.Config.Build
import OpcodeShapes.Proofs.LastWrites
import OpcodeShapes.Proofs.Refinement

/-!
# Configured registries

What a configuration builds is the catalogue with the configured entries behind
it, each entry as the last replacement under its name left it, and the fallback
is what stands under its old name. Like every registry it can also be made
without indexes.
-/

namespace OpcodeShapes

set_option autoImplicit false

theorem last_designated_changes (before : Option String) (changes : List Change) :
    lastDesignated before (changes.map Change.write) = before := by
  induction changes with
  | nil => rfl
  | cons change rest ih =>
      rw [List.map_cons, Change.write]
      cases change.mode <;> exact ih

theorem last_strictness_changes (strict : Bool) (changes : List Change) :
    lastStrictness strict (changes.map Change.write) = strict := by
  induction changes with
  | nil => rfl
  | cons change rest ih =>
      rw [List.map_cons, Change.write]
      cases change.mode <;> exact ih

theorem registered_changes_names (changes : List Change) :
    registeredNames (changes.map Change.write) =
      (changes.filter fun change => change.mode = .add).map Change.name := by
  induction changes with
  | nil => rfl
  | cons change rest ih =>
      rw [List.map_cons, Change.write, registeredNames, List.filter_cons]
      cases change.mode with
      | add => exact congrArg (change.name :: ·) ih
      | replace => exact ih

theorem registered_changes_length (changes : List Change) :
    (registered (changes.map Change.write)).length =
      changes.countP fun change => change.mode = .add := by
  have names := congrArg List.length (registered_entries_names (changes.map Change.write))
  rw [registered_changes_names, Entry.names, List.length_map, List.length_map] at names
  rw [names, List.countP_eq_length_filter]

theorem registered_get_elem (before after : List Write) (name : String) (shape : Shape) :
    (registered (before ++ .register name shape :: after))[(registered before).length]? =
      some (settled after ⟨name, shape⟩) := by
  induction before with
  | nil => rfl
  | cons write rest ih =>
      cases write with
      | register earlier other =>
          rw [List.cons_append, registered, registered, List.length_cons, List.getElem?_cons_succ]
          exact ih
      | replace earlier other => exact ih
      | designate earlier => exact ih
      | setStrict strict => exact ih

namespace Catalogue

def ledger (strict : Bool) : Ledger := ⟨entries, some fallbackName, strict⟩

theorem Holds.ledger_eq {strict : Bool} {draft : Draft} (holds : Holds strict draft) :
    draft.ledger = ledger strict := by
  rw [Draft.ledger, holds.listed, holds.designated, holds.strictness, ledger]

end Catalogue

namespace Config

theorem registry_eq (config : Config) {draft : Draft}
    (loaded : Catalogue.draft config.strict = .ok draft) :
    config.registry =
      match outcome config.apply draft with
      | (.ok _, last) => last.build
      | (.error reason, _) => .error reason := by
  unfold Config.registry
  rw [loaded]
  change (do (outcome config.apply draft).1; (outcome config.apply draft).2.build) = _
  rcases outcome config.apply draft with ⟨reason | answer, last⟩ <;> rfl

def book (config : Config) : Except RegistryError Book :=
  match outcome (config.shapes.forM Ledger.performChange) (Catalogue.ledger config.strict) with
  | (.ok _, ledger) => ledger.build
  | (.error reason, _) => .error reason

theorem registry_book (config : Config) : config.registry.map Registry.book = config.book := by
  obtain ⟨draft, loaded⟩ := Catalogue.loads config.strict
  have holds := Catalogue.loaded_holds loaded
  have refined : outcome (config.shapes.forM Ledger.performChange) draft.ledger =
      ((outcome config.apply draft).1, (outcome config.apply draft).2.ledger) :=
    batch_refines change_reaches change_refines config.shapes draft holds.sound
  have sound : (outcome config.apply draft).2.Sound :=
    reached_sound (batch_reaches change_reaches config.shapes draft) holds.sound
  rw [config.registry_eq loaded, book, ← holds.ledger_eq, refined]
  cases result : outcome config.apply draft with
  | mk answer last =>
      rw [result] at sound
      cases answer with
      | error reason => rfl
      | ok answer => exact (ledger_build sound).symm

theorem exists_registry {config : Config} (plain : config.book.isOk = true) :
    ∃ registry, config.registry = .ok registry := by
  cases result : config.registry with
  | ok registry => exact ⟨registry, rfl⟩
  | error reason =>
      rw [← config.registry_book, result] at plain
      cases plain

theorem registry_fault {config : Config} {reason : RegistryError}
    (plain : config.book = .error reason) : config.registry = .error reason := by
  rw [← config.registry_book] at plain
  cases result : config.registry with
  | ok registry =>
      rw [result] at plain
      cases plain
  | error cause =>
      rw [result] at plain
      exact congrArg Except.error (Except.error.inj plain)

/-- A configured registry is built from what all changes, none of them refused, make of the
catalogue. -/
theorem registry_reached {config : Config} {registry : Registry}
    (built : config.registry = .ok registry) :
    ∃ draft last, Catalogue.Holds config.strict draft ∧
      Reaches draft (config.shapes.map Change.write) last ∧ last.build = .ok registry := by
  obtain ⟨draft, loaded⟩ := Catalogue.loads config.strict
  rw [config.registry_eq loaded] at built
  cases result : outcome config.apply draft with
  | mk answer last =>
      rw [result] at built
      cases answer with
      | error reason => cases built
      | ok answer =>
          exact ⟨draft, last, Catalogue.loaded_holds loaded, change_batch_reaches result, built⟩

/-- The whole list in one piece: what the changes made of the catalogue, then what they brought. -/
theorem registry_entries {config : Config} {registry : Registry}
    (built : config.registry = .ok registry) :
    registry.Sound ∧
      registry.entries = Catalogue.entries.map (settled (config.shapes.map Change.write)) ++
        registered (config.shapes.map Change.write) ∧
      ⟨Catalogue.fallbackName, registry.fallback⟩ ∈ registry.entries := by
  obtain ⟨draft, last, holds, reached, finished⟩ := registry_reached built
  have copied := built_from finished
  obtain ⟨name, designated, member⟩ := copied.designated
  rw [reached_fallback_name reached holds.sound, last_designated_changes, holds.designated,
    Option.some_inj] at designated
  refine ⟨copied.sound (reached_sound reached holds.sound), ?_, designated ▸ member⟩
  rw [copied.entries, reached_entries reached holds.sound, holds.listed]

end Config

/-- A configured registry is the catalogue with the last replacement of each of its names, and
behind it every addition in file order with the last replacement that came later. The fallback is
what stands under the name that the catalogue designates. -/
theorem configured_registry_eq_settled_catalogue (config : Config) {registry : Registry}
    (built : config.registry = .ok registry) :
    let size := Catalogue.rows.length
    registry.size = size + config.shapes.countP (fun change => change.mode = .add) ∧
      (∀ (i : Nat) (inside : i < size), ∃ shape, Catalogue.rows[i].shape = .ok shape ∧
        registry.entries[i]? = some ⟨Catalogue.rows[i].name,
          (lastReplacement Catalogue.rows[i].name (config.shapes.map Change.write)).getD shape⟩) ∧
      (∀ before change after, config.shapes = before ++ change :: after → change.mode = .add →
        registry.entries[size + before.countP fun earlier => earlier.mode = .add]? =
          some ⟨change.name,
            (lastReplacement change.name (after.map Change.write)).getD change.shape⟩) ∧
      registry.named Catalogue.fallbackName = .ok registry.fallback := by
  obtain ⟨sound, listed, designated⟩ := Config.registry_entries built
  refine ⟨?_, ?_, ?_, (sound.named_eq_ok_iff _ _).mpr designated⟩
  · rw [Registry.size, listed, List.length_append, List.length_map, Catalogue.entries_length,
      registered_changes_length]
  · intro i inside
    obtain ⟨shape, made, present⟩ := Catalogue.entries_at inside
    refine ⟨shape, made, ?_⟩
    rw [listed, List.getElem?_append_left (by simpa [Catalogue.entries_length] using inside),
      List.getElem?_map, present]
    rfl
  · intro before change after split added
    have asked : change.write = .register change.name change.shape := by
      rw [Change.write, added]
    have place := registered_get_elem (before.map Change.write) (after.map Change.write)
      change.name change.shape
    rw [registered_changes_length, ← asked, ← List.map_cons, ← List.map_append, ← split] at place
    rw [listed, List.getElem?_append_right (by simp [Catalogue.entries_length]), List.length_map,
      Catalogue.entries_length, Nat.add_sub_cancel_left]
    exact place

/-- The fallback gets another opcode, an addition takes the old one, gets one of its own, and a
block of the catalogue takes it over in the end. -/
def restyled : Config where
  strict := true
  shapes :=
    [⟨"UNDEFINED", ⟨"unknown_block", Flags.hatCap, by decide⟩, .replace⟩,
     ⟨"NEXT", ⟨"red_hat_block", Flags.none, by decide⟩, .add⟩,
     ⟨"NEXT", ⟨"next_block", Flags.none, by decide⟩, .replace⟩,
     ⟨"NOTE", ⟨"red_hat_block", Flags.none, by decide⟩, .replace⟩]

theorem restyled_eq_settled_catalogue :
    ∃ registry, restyled.registry = .ok registry ∧
      registry.size = Catalogue.rows.length + 1 ∧
      registry.entries[Catalogue.rows.length]? =
        some ⟨"NEXT", ⟨"next_block", Flags.none, by decide⟩⟩ ∧
      registry.named "UNDEFINED" = .ok registry.fallback := by
  have plain : restyled.book.isOk = true := by decide +kernel
  obtain ⟨registry, built⟩ := Config.exists_registry plain
  obtain ⟨size, _, added, named⟩ := configured_registry_eq_settled_catalogue restyled built
  have one : restyled.shapes.countP (fun change => change.mode = .add) = 1 := rfl
  have next := added (restyled.shapes.take 1) _ (restyled.shapes.drop 2) rfl rfl
  have none : (restyled.shapes.take 1).countP (fun change => change.mode = .add) = 0 := rfl
  rw [one] at size
  rw [none, Nat.add_zero] at next
  exact ⟨registry, built, size, next, named⟩

end OpcodeShapes
