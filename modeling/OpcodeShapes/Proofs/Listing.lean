import OpcodeShapes.Proofs.Configured
import OpcodeShapes.Proofs.LastWrites
import OpcodeShapes.Proofs.Writing

/-!
# Listings

A listing has one line for each entry and tabs between the fields of a line,
and the texts of an entry stand in it as they are. So a listing can be cut back
into what it was made of exactly if none of these texts holds a tab or a line
break. No text of the catalogue does. A configuration may bring one that does,
and nothing stops it on the way: only blank texts are refused.
-/

namespace OpcodeShapes

set_option autoImplicit false

namespace Command

def fields (line : List Char) : List String := (line.splitOn '\t').map String.ofList

/-- The fields of every line of a listing, provided that its last line ends like the others. -/
def rows? (listing : String) : Option (List (List String)) :=
  let pieces := listing.toList.splitOn '\n'
  if pieces.getLast? = some [] then some (pieces.dropLast.map fields) else none

def cells (entry : Entry) : List String :=
  [entry.name, entry.shape.opcode, entry.shape.attachability.text]

def line (entry : Entry) : List Char :=
  entry.name.toList ++
    '\t' :: (entry.shape.opcode.toList ++ '\t' :: entry.shape.attachability.text.toList)

end Command

/-- A text that is left whole where lines and fields are cut apart. -/
def Unbroken (text : String) : Prop := ∀ c ∈ text.toList, c ≠ '\t' ∧ c ≠ '\n'

instance (text : String) : Decidable (Unbroken text) :=
  decidable_of_iff (text.toList.all (fun c => decide (c ≠ '\t' ∧ c ≠ '\n')) = true) (by
    simp only [List.all_eq_true, decide_eq_true_eq, Unbroken])

theorem mem_piece {separator : Char} {chars piece : List Char}
    (member : piece ∈ chars.splitOn separator) : ∀ c ∈ piece, c ∈ chars ∧ c ≠ separator := by
  induction chars generalizing piece with
  | nil =>
      rw [List.splitOn_nil, List.mem_singleton] at member
      simp [member]
  | cons first rest ih =>
      rw [List.splitOn_cons_eq_if_modifyHead] at member
      intro c inside
      by_cases cut : first = separator
      · rw [if_pos (by simp [cut])] at member
        rcases List.mem_cons.mp member with rfl | later
        · cases inside
        · have kept := ih later c inside
          exact ⟨List.mem_cons_of_mem first kept.1, kept.2⟩
      · rw [if_neg (by simp [cut])] at member
        cases pieces : rest.splitOn separator with
        | nil => exact absurd pieces (List.splitOn_ne_nil separator rest)
        | cons head others =>
            rw [pieces] at member ih
            rcases List.mem_cons.mp member with rfl | later
            · rcases List.mem_cons.mp inside with rfl | deeper
              · exact ⟨List.mem_cons_self, cut⟩
              · have kept := ih List.mem_cons_self c deeper
                exact ⟨List.mem_cons_of_mem first kept.1, kept.2⟩
            · have kept := ih (List.mem_cons_of_mem head later) c inside
              exact ⟨List.mem_cons_of_mem first kept.1, kept.2⟩

namespace Command

theorem row_chars (entry : Entry) : (row entry).toList = line entry ++ ['\n'] := by
  simp [row, line, String.toList_append]

/-- Every line ends in a line break, so the pieces of a listing are the pieces of its lines and an
empty one behind them. -/
theorem split_listing (entries : List Entry) :
    (String.join (entries.map row)).toList.splitOn '\n' =
      (entries.flatMap fun entry => (line entry).splitOn '\n') ++ [[]] := by
  induction entries with
  | nil => rfl
  | cons entry rest ih =>
      rw [String.toList_join] at ih ⊢
      rw [List.map_cons, List.flatMap_cons, row_chars, List.append_assoc, List.singleton_append,
        List.splitOn_append_cons_self, ih, List.flatMap_cons, List.append_assoc]

theorem rows_listing (entries : List Entry) :
    rows? (String.join (entries.map row)) =
      some ((entries.flatMap fun entry => (line entry).splitOn '\n').map fields) := by
  unfold rows?
  dsimp only
  rw [split_listing, List.getLast?_concat, if_pos rfl, List.dropLast_concat]

theorem cut_field_unbroken {chars piece : List Char} {field : String}
    (cut : piece ∈ chars.splitOn '\n') (member : field ∈ fields piece) : Unbroken field := by
  rcases List.mem_map.mp member with ⟨part, inside, rfl⟩
  intro c present
  rw [String.toList_ofList] at present
  have kept := mem_piece inside c present
  exact ⟨kept.2, (mem_piece cut c kept.1).2⟩

theorem word_unbroken (t : Trilean) : Unbroken t.text := by
  cases t <;> decide

theorem line_of_unbroken {entry : Entry} (name : Unbroken entry.name)
    (opcode : Unbroken entry.shape.opcode) :
    (line entry).splitOn '\n' = [line entry] ∧ fields (line entry) = cells entry := by
  have word := word_unbroken entry.shape.attachability
  constructor
  · apply List.splitOn_eq_singleton
    intro broken
    simp only [line, List.mem_append, List.mem_cons] at broken
    rcases broken with inName | tab | inOpcode | tab | inWord
    · exact (name _ inName).2 rfl
    · exact absurd tab (by decide)
    · exact (opcode _ inOpcode).2 rfl
    · exact absurd tab (by decide)
    · exact (word _ inWord).2 rfl
  · have noTabInName : '\t' ∉ entry.name.toList := fun inside => (name _ inside).1 rfl
    have noTabInOpcode : '\t' ∉ entry.shape.opcode.toList := fun inside => (opcode _ inside).1 rfl
    have noTabInWord : '\t' ∉ entry.shape.attachability.text.toList :=
      fun inside => (word _ inside).1 rfl
    rw [fields, line, List.splitOn_append_cons_self_of_not_mem noTabInName,
      List.splitOn_append_cons_self_of_not_mem noTabInOpcode,
      List.splitOn_eq_singleton noTabInWord]
    simp [cells]

theorem run_list_all (registry : Registry) :
    run registry (.list none) = .ok (String.join (registry.entries.map row)) := by
  have all : registry.entries.filter (isListed none) = registry.entries :=
    List.filter_eq_self.mpr fun entry _ => rfl
  rw [run_list, all]

/-- Cutting the listing of some entries gives their texts back if and only if all of these are
unbroken. -/
theorem rows_listing_eq_cells_iff (entries : List Entry) :
    rows? (String.join (entries.map row)) = some (entries.map cells) ↔
      ∀ entry ∈ entries, Unbroken entry.name ∧ Unbroken entry.shape.opcode := by
  rw [rows_listing, Option.some_inj]
  constructor
  · intro same entry member
    have listed : cells entry ∈ entries.map cells := List.mem_map_of_mem member
    rw [← same] at listed
    rcases List.mem_map.mp listed with ⟨piece, inside, cut⟩
    rcases List.mem_flatMap.mp inside with ⟨other, _, ofLine⟩
    have whole : ∀ field ∈ cells entry, Unbroken field := by
      intro field belongs
      rw [← cut] at belongs
      exact cut_field_unbroken ofLine belongs
    exact ⟨whole _ (by simp [cells]), whole _ (by simp [cells])⟩
  · intro unbroken
    induction entries with
    | nil => rfl
    | cons entry rest ih =>
        have first := unbroken entry List.mem_cons_self
        have later := ih fun other member => unbroken other (List.mem_cons_of_mem entry member)
        rcases line_of_unbroken first.1 first.2 with ⟨single, read⟩
        rw [List.flatMap_cons, single, List.map_append, later, List.map_singleton, read]
        rfl

end Command

namespace Catalogue

theorem unbroken_of_bytes {text : String}
    (printed : (Text.bytes text).all (fun byte => decide (32 < byte.toNat)) = true) :
    Unbroken text := by
  rw [Text.bytes_eq, List.all_flatMap, List.all_eq_true] at printed
  intro c member
  have codes := printed c member
  constructor
  · rintro rfl
    exact absurd codes (by decide)
  · rintro rfl
    exact absurd codes (by decide)

theorem rows_unbroken : ∀ row ∈ rows, Unbroken row.name ∧ Unbroken row.opcode := by
  have printed : rows.all (fun row =>
      (Text.bytes row.name).all (fun byte => decide (32 < byte.toNat)) &&
        (Text.bytes row.opcode).all (fun byte => decide (32 < byte.toNat))) = true := by
    decide +kernel
  intro row member
  have both := List.all_eq_true.mp printed row member
  rw [Bool.and_eq_true] at both
  exact ⟨unbroken_of_bytes both.1, unbroken_of_bytes both.2⟩

end Catalogue

namespace Config

theorem registry_unbroken {config : Config} {registry : Registry}
    (built : config.registry = .ok registry)
    (unbroken : ∀ change ∈ config.shapes,
      Unbroken change.name ∧ Unbroken change.shape.opcode) :
    ∀ entry ∈ registry.entries, Unbroken entry.name ∧ Unbroken entry.shape.opcode := by
  rcases registry_reached built with ⟨draft, last, holds, reached, finished⟩
  rw [(built_from finished).entries]
  apply reached_keeps_entries (fun name shape => Unbroken name ∧ Unbroken shape.opcode) reached
    holds.sound
  · intro write asked name shape puts
    rcases List.mem_map.mp asked with ⟨change, member, rfl⟩
    rcases (change_write_puts change name shape).mp puts with ⟨rfl, rfl⟩
    exact unbroken change member
  · intro entry member
    have listed : entry.row ∈ Catalogue.rows := by
      rw [← Catalogue.entries_row, ← holds.listed]
      exact List.mem_map_of_mem member
    exact Catalogue.rows_unbroken entry.row listed

end Config

/-- The listing of a configured registry, cut at line breaks and then at tabs, gives back one row for
each entry, in order, with exactly its name, its opcode and its attachability, if and only if no name
and no opcode of the registry holds a tab or a line break. They hold none if no configured one does:
those of the catalogue never do. -/
theorem listing_read_back_iff_unbroken (config : Config) {registry : Registry}
    (built : config.registry = .ok registry) :
    ∃ listing, Command.run registry (.list none) = .ok listing ∧
      (Command.rows? listing = some (registry.entries.map Command.cells) ↔
        ∀ entry ∈ registry.entries, Unbroken entry.name ∧ Unbroken entry.shape.opcode) ∧
      ((∀ change ∈ config.shapes, Unbroken change.name ∧ Unbroken change.shape.opcode) →
        Command.rows? listing = some (registry.entries.map Command.cells)) := by
  have readBack := Command.rows_listing_eq_cells_iff registry.entries
  refine ⟨_, Command.run_list_all registry, readBack, ?_⟩
  intro unbroken
  exact readBack.mpr (Config.registry_unbroken built unbroken)

/-- A name of two words, and a text that only looks like a separator. -/
def spacedShapes : List Change :=
  [⟨"OLD TUNE", ⟨"music_\\t_tune", Flags.none.set .cap .indeterminate, by decide⟩, .add⟩]

theorem spaced_listing_read_back :
    ∃ registry listing, (Config.mk false spacedShapes).registry = .ok registry ∧
      Command.run registry (.list none) = .ok listing ∧
      (∀ change ∈ spacedShapes, Unbroken change.name ∧ Unbroken change.shape.opcode) ∧
      Command.rows? listing = some (registry.entries.map Command.cells) := by
  obtain ⟨registry, built⟩ : ∃ registry, (Config.mk false spacedShapes).registry = .ok registry :=
    Config.exists_registry (by decide +kernel)
  have unbroken : ∀ change ∈ spacedShapes,
      Unbroken change.name ∧ Unbroken change.shape.opcode := by decide +kernel
  rcases listing_read_back_iff_unbroken (Config.mk false spacedShapes) built with
    ⟨listing, written, _, readBack⟩
  exact ⟨registry, listing, built, written, unbroken, readBack unbroken⟩

def tabbedDocument : Value :=
  .object [("shapes", .list [.object [("name", .string "A\tB"), ("opcode", .string "c")]])]

def tabbedShapes : List Change := [⟨"A\tB", ⟨"c", Flags.none, by decide⟩, .add⟩]

theorem tabbed_listing_not_read_back :
    ∃ registry listing, Config.decode .json tabbedDocument = .ok (Config.mk false tabbedShapes) ∧
      (Config.mk false tabbedShapes).registry = .ok registry ∧
      Command.run registry (.list none) = .ok listing ∧
      Command.rows? listing ≠ some (registry.entries.map Command.cells) := by
  have decoded : Config.decode .json tabbedDocument = .ok (Config.mk false tabbedShapes) := rfl
  obtain ⟨registry, built⟩ : ∃ registry, (Config.mk false tabbedShapes).registry = .ok registry :=
    Config.exists_registry (by decide +kernel)
  refine ⟨registry, _, decoded, built, Command.run_list_all registry, ?_⟩
  rw [ne_eq, Command.rows_listing_eq_cells_iff]
  intro unbroken
  have added : ⟨"A\tB", ⟨"c", Flags.none, by decide⟩⟩ ∈ registry.entries := by
    rw [(Config.registry_entries built).2.1]
    apply List.mem_append_right
    exact List.mem_singleton.mpr rfl
  exact absurd (unbroken _ added).1 (by decide)

end OpcodeShapes
