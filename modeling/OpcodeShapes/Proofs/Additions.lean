import OpcodeShapes.Proofs.Soundness

/-!
# What can be added

A list of entries is added by registering them one by one, so each of them is
checked against a draft that has grown by those before it. Still, whether all
of them are taken can be told beforehand: each has to be new to the draft, and
no two of them may share a name or an opcode. Nothing in this depends on the
order in which they are listed.
-/

namespace OpcodeShapes

set_option autoImplicit false

def Change.entry (change : Change) : Entry := ⟨change.name, change.shape⟩

namespace Draft

def add (entries : List Entry) : Registration Unit :=
  entries.forM fun entry => register entry.name entry.shape

theorem outcome_extend_entries (entries : List Entry) (draft : Draft) :
    outcome (extend (entries.map Entry.row)) draft = outcome (add entries) draft := by
  have each (entry : Entry) : entry.row.register = register entry.name entry.shape := by
    unfold Row.register
    rw [entry_row_shape]
    rfl
  rw [extend, outcome_batch_map, funext each]
  rfl

theorem outcome_adding_changes {changes : List Change}
    (adding : ∀ change ∈ changes, change.mode = .add) (draft : Draft) :
    outcome (change changes) draft = outcome (add (changes.map Change.entry)) draft := by
  rw [change, add, outcome_batch_map]
  induction changes generalizing draft with
  | nil => rfl
  | cons first rest ih =>
      have others := ih fun other member => adding other (List.mem_cons_of_mem first member)
      rw [outcome_batch_cons, outcome_batch_cons, outcome_change, adding first List.mem_cons_self]
      simp only [others, Change.entry]

/-- What entries have to be like so that a draft takes all of them. -/
structure Addable (draft : Draft) (entries : List Entry) : Prop where
  names_not_blank : ∀ entry ∈ entries, ¬ Text.Blank entry.name
  names_new : ∀ entry ∈ entries, entry.name ∉ Entry.names draft.entries
  opcodes_new : ∀ entry ∈ entries, entry.shape.opcode ∉ Entry.opcodes draft.entries
  shapes_valid : draft.strict = true → ∀ entry ∈ entries, entry.shape.validate = .ok ()
  names_distinct : (Entry.names entries).Nodup
  opcodes_distinct : (Entry.opcodes entries).Nodup

theorem Addable.reorder {draft : Draft} {entries reordered : List Entry}
    (addable : draft.Addable entries) (same : reordered.Perm entries) :
    draft.Addable reordered where
  names_not_blank entry member := addable.names_not_blank entry (same.mem_iff.mp member)
  names_new entry member := addable.names_new entry (same.mem_iff.mp member)
  opcodes_new entry member := addable.opcodes_new entry (same.mem_iff.mp member)
  shapes_valid strict entry member := addable.shapes_valid strict entry (same.mem_iff.mp member)
  names_distinct := (same.map _).nodup_iff.mpr addable.names_distinct
  opcodes_distinct := (same.map _).nodup_iff.mpr addable.opcodes_distinct

variable {draft : Draft}

theorem Sound.refuses_new_eq_none_iff (sound : draft.Sound) (name : String) (shape : Shape) :
    draft.refusesNew? name shape = none ↔
      ¬ Text.Blank name ∧ name ∉ Entry.names draft.entries ∧
        shape.opcode ∉ Entry.opcodes draft.entries ∧
        (draft.strict = true → shape.validate = .ok ()) := by
  rw [OpcodeShapes.refuses_new_eq_none_iff, sound.holder_eq_none_iff, invalid_eq_none_iff,
    ← sound.contains_name_iff, Bool.not_eq_true]

theorem append_names (draft : Draft) (name : String) (shape : Shape) :
    Entry.names (draft.append name shape).entries = Entry.names draft.entries ++ [name] := by
  simp [Entry.names, append]

theorem append_opcodes (draft : Draft) (name : String) (shape : Shape) :
    Entry.opcodes (draft.append name shape).entries =
      Entry.opcodes draft.entries ++ [shape.opcode] := by
  simp [Entry.opcodes, append]

theorem addable_cons_iff (sound : draft.Sound) (entry : Entry) (rest : List Entry) :
    draft.Addable (entry :: rest) ↔
      draft.refusesNew? entry.name entry.shape = none ∧
        (draft.append entry.name entry.shape).Addable rest := by
  rw [sound.refuses_new_eq_none_iff]
  constructor
  · intro addable
    have names := List.nodup_cons.mp addable.names_distinct
    have opcodes := List.nodup_cons.mp addable.opcodes_distinct
    have later {other : Entry} (member : other ∈ rest) := List.mem_cons_of_mem entry member
    refine ⟨⟨addable.names_not_blank entry List.mem_cons_self,
      addable.names_new entry List.mem_cons_self, addable.opcodes_new entry List.mem_cons_self,
      fun strict => addable.shapes_valid strict entry List.mem_cons_self⟩, ?_⟩
    constructor
    · exact fun other member => addable.names_not_blank other (later member)
    · intro other member
      have apart : other.name ≠ entry.name := fun same =>
        names.1 (List.mem_map.mpr ⟨other, member, same⟩)
      rw [append_names]
      simp [addable.names_new other (later member), apart]
    · intro other member
      have apart : other.shape.opcode ≠ entry.shape.opcode := fun same =>
        opcodes.1 (List.mem_map.mpr ⟨other, member, same⟩)
      rw [append_opcodes]
      simp [addable.opcodes_new other (later member), apart]
    · exact fun strict other member => addable.shapes_valid strict other (later member)
    · exact names.2
    · exact opcodes.2
  · rintro ⟨⟨notBlank, newName, newOpcode, valid⟩, behind⟩
    have namesNew := behind.names_new
    have opcodesNew := behind.opcodes_new
    rw [append_names] at namesNew
    rw [append_opcodes] at opcodesNew
    simp only [List.mem_append, List.mem_singleton, not_or] at namesNew opcodesNew
    constructor
    · exact List.forall_mem_cons.mpr ⟨notBlank, behind.names_not_blank⟩
    · exact List.forall_mem_cons.mpr ⟨newName, fun other member => (namesNew other member).1⟩
    · exact List.forall_mem_cons.mpr ⟨newOpcode, fun other member => (opcodesNew other member).1⟩
    · exact fun strict => List.forall_mem_cons.mpr ⟨valid strict, behind.shapes_valid strict⟩
    · refine List.nodup_cons.mpr ⟨?_, behind.names_distinct⟩
      intro again
      rcases List.mem_map.mp again with ⟨other, member, same⟩
      exact (namesNew other member).2 same
    · refine List.nodup_cons.mpr ⟨?_, behind.opcodes_distinct⟩
      intro again
      rcases List.mem_map.mp again with ⟨other, member, same⟩
      exact (opcodesNew other member).2 same

theorem add_taken_iff (sound : draft.Sound) (entries : List Entry) :
    (∃ last, outcome (add entries) draft = (.ok (), last)) ↔ draft.Addable entries := by
  -- The draft grows by the first entry, and what the others have to be like grows with it.
  induction entries generalizing draft with
  | nil =>
      refine ⟨fun _ => ⟨?_, ?_, ?_, ?_, List.nodup_nil, List.nodup_nil⟩, fun _ => ⟨draft, rfl⟩⟩ <;>
        simp
  | cons entry rest ih =>
      rw [addable_cons_iff sound, add, outcome_batch_cons, outcome_register]
      cases taken : draft.refusesNew? entry.name entry.shape with
      | some reason => simp
      | none =>
          rw [eq_self, true_and]
          exact ih (append_sound sound taken)

end Draft

end OpcodeShapes
