import Mathlib.Logic.ExistsUnique
import OpcodeShapes.Proofs.Categories
import OpcodeShapes.Proofs.Listing

/-!
# Listings by category

A listing goes through the entries, a category through the shapes, and the list
of categories through the shapes once more. They tell the same: what is listed
under a text are the rows of the entries whose shapes are in that category, and
something is listed exactly under the categories there are. So the listings of
all categories, one after another, are the listing of everything in another
order.
-/

namespace OpcodeShapes

set_option autoImplicit false

/-- The entries whose shapes the registry has in a category. -/
def Registry.entriesIn (registry : Registry) (category : String) : List Entry :=
  registry.entries.filter fun entry => entry.shape ∈ registry.inCategory category

namespace Registry

variable (registry : Registry)

theorem mem_entries_in_iff (category : String) (entry : Entry) :
    entry ∈ registry.entriesIn category ↔
      entry ∈ registry.entries ∧ entry.shape.category = category := by
  rw [entriesIn, List.mem_filter, decide_eq_true_eq, mem_in_category_iff]
  constructor
  · rintro ⟨member, _, same⟩
    exact ⟨member, same⟩
  · rintro ⟨member, same⟩
    exact ⟨member, List.mem_map_of_mem member, same⟩

theorem entries_in_eq_filter (category : String) :
    registry.entriesIn category =
      registry.entries.filter fun entry => entry.shape.category = category := by
  apply List.filter_congr
  intro entry member
  rw [decide_eq_decide, mem_in_category_iff]
  exact and_iff_right (List.mem_map_of_mem member)

theorem entries_in_shapes (category : String) :
    (registry.entriesIn category).map Entry.shape = registry.inCategory category := by
  rw [entries_in_eq_filter, inCategory, shapes, List.filter_map]
  rfl

theorem entries_in_perm :
    (registry.categories.flatMap registry.entriesIn).Perm registry.entries := by
  have filters : registry.entriesIn = fun category =>
      registry.entries.filter fun entry => entry.shape.category = category :=
    funext registry.entries_in_eq_filter
  rw [filters]
  apply grouped_perm (fun entry : Entry => entry.shape.category) registry.categories_nodup
  intro entry member
  exact registry.category_listed (List.mem_map_of_mem member)

theorem exists_unique_category {entry : Entry} (member : entry ∈ registry.entries) :
    ∃! category, category ∈ registry.categories ∧ entry ∈ registry.entriesIn category := by
  have listed := registry.category_listed (List.mem_map_of_mem member)
  refine ⟨entry.shape.category, ⟨listed, ?_⟩, ?_⟩
  · exact (registry.mem_entries_in_iff _ entry).mpr ⟨member, rfl⟩
  · rintro other ⟨_, inside⟩
    exact ((registry.mem_entries_in_iff other entry).mp inside).2.symm

end Registry

namespace Command

theorem rows_eq_empty_iff (entries : List Entry) :
    String.join (entries.map row) = "" ↔ entries = [] := by
  -- Every row has a line break at least.
  cases entries with
  | nil => simp
  | cons entry rest =>
      rw [← String.toList_inj, String.toList_join, List.map_cons, List.flatMap_cons, row_chars]
      simp

theorem run_list_category (registry : Registry) (category : String) :
    run registry (.list (some category)) =
      .ok (String.join ((registry.entriesIn category).map row)) := by
  rw [run_list, registry.entries_in_eq_filter]
  rfl

end Command

/-- What is listed under a text is one line for each of the entries whose shapes the registry has in that
category, as many of them and in that order: the name, the opcode and the word for attachability, with
tabs between them. Something is listed under it exactly if it is one of the categories. These are what
is written when the categories are asked for, one in a line. If nothing is asked for, all entries are
listed, and each entry is listed under exactly one category. -/
theorem listings_agree_with_categories (registry : Registry) :
    (∀ category : String, ∃ listing : String,
      Command.run registry (.list (some category)) = .ok listing ∧
      listing = String.join ((registry.entriesIn category).map fun entry =>
        entry.name ++ "\t" ++ entry.shape.opcode ++ "\t" ++
          entry.shape.attachability.text ++ "\n") ∧
      (registry.entriesIn category).map Entry.shape = registry.inCategory category ∧
      (listing ≠ "" ↔ category ∈ registry.categories)) ∧
    Command.run registry .categories =
      .ok (String.join (registry.categories.map (· ++ "\n"))) ∧
    Command.run registry (.list none) =
      .ok (String.join (registry.entries.map fun entry =>
        entry.name ++ "\t" ++ entry.shape.opcode ++ "\t" ++
          entry.shape.attachability.text ++ "\n")) ∧
    (registry.categories.flatMap registry.entriesIn).Perm registry.entries ∧
    ∀ entry ∈ registry.entries,
      ∃! category, category ∈ registry.categories ∧ entry ∈ registry.entriesIn category := by
  refine ⟨?_, Command.run_categories registry, Command.run_list_all registry,
    registry.entries_in_perm, fun entry member => registry.exists_unique_category member⟩
  intro category
  have shapes := registry.entries_in_shapes category
  refine ⟨_, Command.run_list_category registry category, rfl, shapes, ?_⟩
  rw [← registry.in_category_ne_nil_iff, ← shapes, ne_eq, Command.rows_eq_empty_iff, ne_eq,
    List.map_eq_nil_iff]

end OpcodeShapes
