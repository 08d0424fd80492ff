import OpcodeShapes.Catalogue.Builtin
import OpcodeShapes.Proofs.Additions
import OpcodeShapes.Proofs.Settings
import OpcodeShapes.Proofs.Entries
import OpcodeShapes.Proofs.Spelling

/-!
# The catalogue loads

The rows of the catalogue are what entries have to be like to be added, so the
catalogue loads under either strictness, and the draft it loads into holds its
rows in their order with the fallback designated.
-/

namespace OpcodeShapes

set_option autoImplicit false

theorem settled_registrations (entries : List Entry) : settled (entries.map Entry.write) = id := by
  induction entries with
  | nil => exact settled_nil
  | cons entry rest ih => exact (settled_cons_of_none _ fun _ => rfl).trans ih

theorem registered_registrations (entries : List Entry) :
    registered (entries.map Entry.write) = entries := by
  induction entries with
  | nil => rfl
  | cons entry rest ih =>
      rw [List.map_cons, Entry.write, registered, settled_registrations, ih]
      rfl

theorem strictness_registrations (strict : Bool) (entries : List Entry) :
    lastStrictness strict (entries.map Entry.write) = strict := by
  induction entries with
  | nil => rfl
  | cons entry rest ih => exact ih

def Row.entry (row : Row) (readable : ¬ Text.Blank row.opcode) : Entry :=
  ⟨row.name, ⟨row.opcode, row.flags, readable⟩⟩

theorem entry_at {table : List Row} (readable : ∀ row ∈ table, ¬ Text.Blank row.opcode) {i : Nat}
    (inside : i < table.length) :
    ∃ shape, table[i].shape = .ok shape ∧
      (table.pmap Row.entry readable)[i]? = some ⟨table[i].name, shape⟩ := by
  have visible := readable table[i] (List.getElem_mem inside)
  refine ⟨⟨table[i].opcode, table[i].flags, visible⟩, Shape.make_eq_ok_iff.mpr ⟨rfl, rfl⟩, ?_⟩
  rw [List.getElem?_eq_getElem (by rwa [List.length_pmap]), List.getElem_pmap]
  rfl

namespace Catalogue

theorem names_apart :
    (rows.map Row.name).Nodup ∧ ∀ name ∈ rows.map Row.name, ¬ Text.Blank name :=
  Text.nodup_of_apart (by decide +kernel)

theorem opcodes_apart :
    (rows.map Row.opcode).Nodup ∧ ∀ opcode ∈ rows.map Row.opcode, ¬ Text.Blank opcode :=
  Text.nodup_of_apart (by decide +kernel)

theorem flags_valid :
    ∀ row ∈ rows, ¬ (row.flags.get .boolean = .yes ∧ row.flags.get .reporter ≠ .yes) := by
  decide +kernel

def entries : List Entry :=
  rows.pmap Row.entry fun _ member => opcodes_apart.2 _ (List.mem_map_of_mem member)

theorem entries_row : entries.map Entry.row = rows := by
  rw [entries, List.map_pmap]
  exact (List.pmap_eq_map _).trans (List.map_id rows)

theorem entries_length : entries.length = rows.length := by
  rw [← entries_row, List.length_map]

theorem entries_at {i : Nat} (inside : i < rows.length) :
    ∃ shape, rows[i].shape = .ok shape ∧ entries[i]? = some ⟨rows[i].name, shape⟩ :=
  entry_at _ inside

theorem entries_names : Entry.names entries = rows.map Row.name := by
  rw [← entries_row, List.map_map]
  rfl

theorem entries_opcodes : Entry.opcodes entries = rows.map Row.opcode := by
  rw [← entries_row, List.map_map]
  rfl

theorem entries_nameable : ∀ entry ∈ entries, ¬ Text.Blank entry.name := by
  intro entry member
  apply names_apart.2
  rw [← entries_names]
  exact List.mem_map_of_mem member

theorem entries_valid : ∀ entry ∈ entries, entry.shape.validate = .ok () := by
  intro entry member
  have listed : entry.row ∈ rows := by
    rw [← entries_row]
    exact List.mem_map_of_mem member
  exact if_neg (flags_valid entry.row listed)

theorem entries_addable (strict : Bool) :
    ({ Draft.empty with strict } : Draft).Addable entries where
  names_not_blank := entries_nameable
  names_new entry _ := by simp [Draft.empty, Entry.names]
  opcodes_new entry _ := by simp [Draft.empty, Entry.opcodes]
  shapes_valid _ := entries_valid
  names_distinct := entries_names ▸ names_apart.1
  opcodes_distinct := entries_opcodes ▸ opcodes_apart.1

theorem draft_eq_ok_iff {strict : Bool} {draft : Draft} :
    Catalogue.draft strict = .ok draft ↔
      ∃ filled, outcome (Draft.extend rows) { Draft.empty with strict } = (.ok (), filled) ∧
        outcome (Draft.designate fallbackName) filled = (.ok (), draft) := by
  have loading : Catalogue.draft strict = .ok draft ↔
      outcome load { Draft.empty with strict } = (.ok (), draft) := by
    unfold Catalogue.draft outcome
    cases load { Draft.empty with strict } <;> simp
  rw [loading, load, outcome_bind]
  rcases outcome (Draft.extend rows) { Draft.empty with strict } with ⟨reason | answer, filled⟩ <;> simp

/-- What a draft that holds the catalogue is like. -/
structure Holds (strict : Bool) (draft : Draft) : Prop where
  sound : draft.Sound
  listed : draft.entries = entries
  designated : draft.fallbackName = some fallbackName
  strictness : draft.strict = strict

theorem filled {strict : Bool} {draft : Draft}
    (extended : outcome (Draft.extend rows) { Draft.empty with strict } = (.ok (), draft)) :
    draft.Sound ∧ draft.entries = entries ∧ draft.strict = strict := by
  have start : ({ Draft.empty with strict } : Draft).Sound :=
    step_sound .setStrict empty_draft_sound
  rw [← entries_row] at extended
  have reached := extend_batch_reaches extended
  refine ⟨reached_sound reached start, ?_, ?_⟩
  · rw [reached_entries reached start, registered_registrations]
    rfl
  · rw [reached_strictness reached, strictness_registrations]

theorem loaded_holds {strict : Bool} {draft : Draft} (loaded : Catalogue.draft strict = .ok draft) :
    Holds strict draft := by
  obtain ⟨full, extended, designated⟩ := draft_eq_ok_iff.mp loaded
  obtain ⟨sound, listed, strictness⟩ := filled extended
  have reached := designate_reaches fallbackName full
  simp only [writeOf, designated] at reached
  refine ⟨reached_sound reached sound, ?_, reached_fallback_name reached sound, ?_⟩
  · rw [reached_entries reached sound, settled_cons_of_none _ fun _ => rfl, settled_nil,
      List.map_id, listed]
    exact List.append_nil entries
  · rw [reached_strictness reached]
    exact strictness

def loading (strict : Bool) : List Operation :=
  [.setStrict strict, .extend rows, .designate fallbackName]

/-- A draft that starts with the catalogue could as well have been made from nothing. -/
theorem loaded_after {strict : Bool} {draft : Draft} (loaded : Catalogue.draft strict = .ok draft) :
    Draft.empty.after (loading strict) = draft := by
  obtain ⟨full, extended, designated⟩ := draft_eq_ok_iff.mp loaded
  simp only [loading, Draft.after, List.foldl_cons, List.foldl_nil, Operation.perform,
    outcome_answer, outcome_set_strict, extended, designated]

theorem loaded_reachable {strict : Bool} {draft : Draft}
    (loaded : Catalogue.draft strict = .ok draft) : draft.Reachable :=
  ⟨loading strict, loaded_after loaded⟩

theorem loads (strict : Bool) : ∃ draft, Catalogue.draft strict = .ok draft := by
  have start : ({ Draft.empty with strict } : Draft).Sound :=
    step_sound .setStrict empty_draft_sound
  obtain ⟨full, extended⟩ := (Draft.add_taken_iff start entries).mpr (entries_addable strict)
  rw [← Draft.outcome_extend_entries, entries_row] at extended
  obtain ⟨sound, listed, _⟩ := filled extended
  have known : fallbackName ∈ Entry.names full.entries := by
    rw [listed, entries_names, rows, List.map_append, List.mem_append]
    right
    simp [shared]
  obtain ⟨entry, member, same⟩ := List.mem_map.mp known
  obtain ⟨position, found⟩ := sound.exists_found member
  rw [same] at found
  refine ⟨{ full with fallback := some position }, draft_eq_ok_iff.mpr ⟨full, extended, ?_⟩⟩
  rw [outcome_designate, found]

end Catalogue

end OpcodeShapes
