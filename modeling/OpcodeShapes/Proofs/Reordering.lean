import Mathlib.Data.List.Perm.Basic
import OpcodeShapes.Proofs.Order
import OpcodeShapes.Proofs.Records

/-!
# The order of additions

Whether entries can all be added is the same question in every order, because
it can be answered beforehand: by what the draft holds, and by looking at each
entry and each two of them. A configuration that only adds shapes may
therefore list them in any order. If it can be read and built, it still can
when its list of shapes is reordered, and the registry gives the same answers.
-/

namespace OpcodeShapes

set_option autoImplicit false

namespace Config

theorem registry_reordered {strict : Bool} {shapes reordered : List Change}
    (adding : ∀ change ∈ shapes, change.mode = .add) (same : reordered.Perm shapes)
    {registry : Registry} (built : (Config.mk strict shapes).registry = .ok registry) :
    ∃ other, (Config.mk strict reordered).registry = .ok other ∧ registry.Alike other := by
  obtain ⟨draft, loaded⟩ := Catalogue.loads strict
  have sound := (Catalogue.loaded_reachable loaded).sound
  have addingToo : ∀ change ∈ reordered, change.mode = .add :=
    fun change member => adding change (same.mem_iff.mp member)
  rw [registry_eq _ loaded] at built ⊢
  unfold apply at built ⊢
  dsimp only at built ⊢
  cases performed : outcome (Draft.change shapes) draft with
  | mk answer last =>
      rw [performed] at built
      cases answer with
      | error reason => cases built
      | ok answer =>
          have addable := (Draft.add_taken_iff sound (shapes.map Change.entry)).mp
            ⟨last, Draft.outcome_adding_changes adding draft ▸ performed⟩
          obtain ⟨other, added⟩ := (Draft.add_taken_iff sound (reordered.map Change.entry)).mpr
            (addable.reorder (same.map Change.entry))
          rw [← Draft.outcome_adding_changes addingToo] at added
          have once : (shapes.map Change.name).Nodup := by
            simpa [Entry.names, Change.entry, Function.comp_def] using addable.names_distinct
          have reaches := change_batch_reaches performed
          have reachesToo := change_batch_reaches added
          have agree := reordered_agree sound same once reaches reachesToo
          rw [added]
          exact agree.builds (reached_sound reaches sound) (reached_sound reachesToo sound) built

/-- Two documents that differ in the order of their shapes and in nothing else. -/
structure Rearranged (members others : List (String × Value)) : Prop where
  elsewhere : ∀ key, key ≠ "shapes" → member? key others = member? key members
  shapes : ∃ items reordered, member? "shapes" members = some (.list items) ∧
    member? "shapes" others = some (.list reordered) ∧ reordered.Perm items

theorem decode_shapes_reordered (dialect : Dialect) {items reordered : List Value}
    (same : reordered.Perm items) {shapes : List Change}
    (read : decodeShapes dialect (.list items) = .ok shapes) :
    ∃ others, decodeShapes dialect (.list reordered) = .ok others ∧ others.Perm shapes := by
  rw [decodeShapes, map_m_eq_ok_iff] at read
  rcases List.perm_comp_forall₂ same read with ⟨others, each, sameToo⟩
  exact ⟨others, (map_m_eq_ok_iff _ _ _).mpr each, sameToo⟩

theorem decode_rearranged (dialect : Dialect) {members others : List (String × Value)}
    (rearranged : Rearranged members others) {config : Config}
    (read : decode dialect (.object members) = .ok config) :
    ∃ shapes, decode dialect (.object others) = .ok ⟨config.strict, shapes⟩ ∧
      shapes.Perm config.shapes := by
  rcases rearranged.shapes with ⟨items, reordered, found, foundToo, same⟩
  have keysKnown (key : String) (present : key ∈ memberKeys others) (other : key ≠ "shapes") :
      key ∈ memberKeys members := by
    by_contra absent
    rw [← member_eq_none_iff, ← rearranged.elsewhere key other, member_eq_none_iff] at absent
    exact absent present
  rcases (decode_object_told_iff dialect members config).mp read with ⟨keys, registry, told⟩
  rw [found] at told
  rcases decode_shapes_reordered dialect same told with ⟨shapes, readToo, sameToo⟩
  refine ⟨shapes, ?_, sameToo⟩
  rw [decode_object_told_iff, rearranged.elsewhere "registry" (by decide), foundToo]
  refine ⟨?_, registry, readToo⟩
  intro key present
  by_cases ofShapes : key = "shapes"
  · exact .inr ofShapes
  · exact keys key (keysKnown key present ofShapes)

end Config

/-- A draft takes all of some entries if and only if none of their names is blank or there already,
none of their opcodes is, all are valid where the draft is strict, and no two of them have a name or
an opcode in common. So it takes them in any order if it does in one. A configuration that replaces
nothing and can be built can be built with its shapes in any order, and a document that it is read
from can have them in any order. The registries answer the same. -/
theorem additions_in_any_order {draft : Draft} (reachable : draft.Reachable)
    (entries : List Entry) :
    ((∃ last, outcome (Draft.add entries) draft = (.ok (), last)) ↔ draft.Addable entries) ∧
      (∀ reordered : List Entry, reordered.Perm entries →
        ((∃ last, outcome (Draft.add reordered) draft = (.ok (), last)) ↔
          ∃ last, outcome (Draft.add entries) draft = (.ok (), last))) ∧
      (∀ (strict : Bool) (shapes reordered : List Change) (registry : Registry),
        (∀ change ∈ shapes, change.mode = .add) → reordered.Perm shapes →
        (Config.mk strict shapes).registry = .ok registry →
        ∃ other, (Config.mk strict reordered).registry = .ok other ∧ registry.Alike other) ∧
      ∀ (dialect : Config.Dialect) (members others : List (String × Value)) (config : Config)
        (registry : Registry), Config.decode dialect (.object members) = .ok config →
        (∀ change ∈ config.shapes, change.mode = .add) → config.registry = .ok registry →
        Config.Rearranged members others →
        ∃ otherConfig other, Config.decode dialect (.object others) = .ok otherConfig ∧
          otherConfig.registry = .ok other ∧ registry.Alike other := by
  have sound := reachable.sound
  refine ⟨Draft.add_taken_iff sound entries, ?_, ?_, ?_⟩
  · intro reordered same
    rw [Draft.add_taken_iff sound, Draft.add_taken_iff sound]
    exact ⟨fun addable => addable.reorder same.symm, fun addable => addable.reorder same⟩
  · intro strict shapes reordered registry adding same built
    exact Config.registry_reordered adding same built
  · intro dialect members others config registry read adding built rearranged
    rcases Config.decode_rearranged dialect rearranged read with ⟨shapes, readToo, same⟩
    rcases Config.registry_reordered adding same built with ⟨other, builtToo, alike⟩
    exact ⟨_, other, readToo, builtToo, alike⟩

def crossroads : List Operation :=
  [.setStrict true, .register "STOP_SIGN" ⟨"sign_stop", Flags.none, by decide⟩]

def yieldSign : Change := ⟨"YIELD_SIGN", ⟨"sign_yield", Flags.none, by decide⟩, .add⟩

def detourSign : Change := ⟨"DETOUR_SIGN", ⟨"sign_detour", Flags.ofList [.reporter], by decide⟩, .add⟩

def yieldObject : Value :=
  .object [("name", .string "YIELD_SIGN"), ("opcode", .string "sign_yield")]

def detourObject : Value :=
  .object [("opcode", .string "sign_detour"), ("reporter", .string "TRUE"),
    ("name", .string "DETOUR_SIGN")]

def signsDocument (signs : List Value) : List (String × Value) :=
  [("registry", .object [("strict", .bool true)]), ("shapes", .list signs)]

theorem signs_rearranged :
    Config.Rearranged (signsDocument [yieldObject, detourObject])
      (signsDocument [detourObject, yieldObject]) where
  elsewhere key other := by
    simp [member?, signsDocument, lookup_cons_eq_ite, other]
  shapes := ⟨_, _, rfl, rfl, .swap yieldObject detourObject []⟩

theorem signs_in_any_order :
    (Draft.empty.after crossroads).Reachable ∧
    (∃ last, outcome (Draft.add [yieldSign.entry, detourSign.entry])
      (Draft.empty.after crossroads) = (.ok (), last)) ∧
    (¬ ∃ last, outcome (Draft.add [yieldSign.entry, detourSign.entry, yieldSign.entry])
      (Draft.empty.after crossroads) = (.ok (), last)) ∧
    (∃ registry other, (Config.mk true [yieldSign, detourSign]).registry = .ok registry ∧
      (Config.mk true [detourSign, yieldSign]).registry = .ok other ∧ registry.Alike other) ∧
    Config.decode .toml (.object (signsDocument [yieldObject, detourObject])) =
      .ok ⟨true, [yieldSign, detourSign]⟩ ∧
    ∃ config registry,
      Config.decode .toml (.object (signsDocument [detourObject, yieldObject])) = .ok config ∧
        config.registry = .ok registry := by
  have reachable : (Draft.empty.after crossroads).Reachable := ⟨crossroads, rfl⟩
  have anyOrder := additions_in_any_order reachable
  have adding : ∀ change ∈ [yieldSign, detourSign], change.mode = .add := by decide
  have read : Config.decode .toml (.object (signsDocument [yieldObject, detourObject])) =
      .ok ⟨true, [yieldSign, detourSign]⟩ := rfl
  obtain ⟨registry, built⟩ : ∃ registry,
      (Config.mk true [yieldSign, detourSign]).registry = .ok registry :=
    Config.exists_registry (by decide +kernel)
  refine ⟨reachable, ?_, ?_, ?_, read, ?_⟩
  · rw [(anyOrder _).1]
    constructor <;> decide
  · rw [(anyOrder _).1]
    intro addable
    exact absurd addable.names_distinct (by decide)
  · rcases (anyOrder []).2.2.1 true _ [detourSign, yieldSign] registry adding
      (.swap yieldSign detourSign []) built with ⟨other, builtToo, alike⟩
    exact ⟨registry, other, built, builtToo, alike⟩
  · rcases (anyOrder []).2.2.2 .toml _ _ _ registry read adding built signs_rearranged with
      ⟨config, other, readToo, builtToo, _⟩
    exact ⟨config, other, readToo, builtToo⟩

end OpcodeShapes
