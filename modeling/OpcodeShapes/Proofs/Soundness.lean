import OpcodeShapes.Proofs.Index
import OpcodeShapes.Proofs.Writes

/-!
# Sound drafts

A draft is sound when both of its indexes are right about its entries, every
entry has a name that can be read and the fallback is one of the entries. Each
single write keeps that, so every history does, and what is built from a sound
draft is as right as the draft.
-/

namespace OpcodeShapes

set_option autoImplicit false

def Entry.names (entries : List Entry) : List String := entries.map Entry.name

def Entry.opcodes (entries : List Entry) : List String :=
  entries.map fun entry => entry.shape.opcode

/-- Both indexes are right about the entries, none of which has a blank name. -/
structure Coherent (entries : List Entry) (byName byOpcode : Std.ExtTreeMap String Nat) :
    Prop where
  names : Indexes byName (Entry.names entries)
  opcodes : Indexes byOpcode (Entry.opcodes entries)
  nameable : ∀ entry ∈ entries, ¬ Text.Blank entry.name

structure Draft.Sound (draft : Draft) : Prop
    extends Coherent draft.entries draft.byName draft.byOpcode where
  fallback_inside : ∀ position, draft.fallback = some position → position < draft.entries.length

namespace Draft.Sound

variable {draft : Draft}

theorem find_eq_some_iff (sound : draft.Sound) (name : String) (position : Nat) (shape : Shape) :
    draft.find? name = some (position, shape) ↔
      draft.entries[position]? = some ⟨name, shape⟩ := by
  refine (sound.names.read_eq_some_iff name (fun position entry => (position, entry.shape))
    (position, shape)).trans ?_
  constructor
  · intro answered
    rcases answered with ⟨_, entry, present, rfl, ⟨⟩⟩
    exact present
  · intro present
    exact ⟨position, _, present, rfl, rfl⟩

theorem holder_eq_some_iff (sound : draft.Sound) (opcode : String) (position : Nat)
    (name : String) :
    draft.holder? opcode = some (position, name) ↔
      ∃ shape, draft.entries[position]? = some ⟨name, shape⟩ ∧ shape.opcode = opcode := by
  refine (sound.opcodes.read_eq_some_iff opcode (fun position entry => (position, entry.name))
    (position, name)).trans ?_
  constructor
  · intro answered
    rcases answered with ⟨_, entry, present, holds, ⟨⟩⟩
    exact ⟨entry.shape, present, holds⟩
  · intro answered
    rcases answered with ⟨shape, present, holds⟩
    exact ⟨position, _, present, holds, rfl⟩

theorem exists_found (sound : draft.Sound) {entry : Entry} (member : entry ∈ draft.entries) :
    ∃ position, draft.find? entry.name = some (position, entry.shape) := by
  rcases List.mem_iff_getElem?.mp member with ⟨position, present⟩
  exact ⟨position, (sound.find_eq_some_iff entry.name position entry.shape).mpr present⟩

theorem exists_holder (sound : draft.Sound) {entry : Entry} (member : entry ∈ draft.entries) :
    ∃ position, draft.holder? entry.shape.opcode = some (position, entry.name) := by
  rcases List.mem_iff_getElem?.mp member with ⟨position, present⟩
  exact ⟨position, (sound.holder_eq_some_iff _ position entry.name).mpr ⟨_, present, rfl⟩⟩

theorem find_eq_none_iff (sound : draft.Sound) (name : String) :
    draft.find? name = none ↔ name ∉ Entry.names draft.entries := by
  constructor
  · intro unfound member
    rcases List.mem_map.mp member with ⟨entry, present, rfl⟩
    rcases sound.exists_found present with ⟨position, found⟩
    rw [unfound] at found
    cases found
  · intro absent
    rw [Option.eq_none_iff_forall_not_mem]
    intro place found
    have present := (sound.find_eq_some_iff name place.1 place.2).mp found
    exact absent (List.mem_map.mpr ⟨_, List.mem_of_getElem? present, rfl⟩)

theorem position_unique (sound : draft.Sound) {name : String} {first second : Nat}
    {one other : Shape} (atFirst : draft.entries[first]? = some ⟨name, one⟩)
    (atSecond : draft.entries[second]? = some ⟨name, other⟩) : first = second := by
  have keyFirst : (Entry.names draft.entries)[first]? = some name := by
    simp [Entry.names, atFirst]
  have keySecond : (Entry.names draft.entries)[second]? = some name := by
    simp [Entry.names, atSecond]
  exact sound.names.position_unique keyFirst keySecond

theorem holder_eq_none_iff (sound : draft.Sound) (opcode : String) :
    draft.holder? opcode = none ↔ opcode ∉ Entry.opcodes draft.entries := by
  constructor
  · intro unheld member
    rcases List.mem_map.mp member with ⟨entry, present, rfl⟩
    rcases sound.exists_holder present with ⟨position, held⟩
    rw [unheld] at held
    cases held
  · intro absent
    rw [Option.eq_none_iff_forall_not_mem]
    intro place held
    rcases place with ⟨position, name⟩
    obtain ⟨shape, present, same⟩ := (sound.holder_eq_some_iff opcode position name).mp held
    exact absent (List.mem_map.mpr ⟨_, List.mem_of_getElem? present, same⟩)

theorem contains_name_iff (sound : draft.Sound) (name : String) :
    draft.containsName name = true ↔ name ∈ Entry.names draft.entries :=
  sound.names.mem_iff name

end Draft.Sound

theorem empty_draft_sound : Draft.empty.Sound where
  names := empty_indexes
  opcodes := empty_indexes
  nameable := by simp [Draft.empty]
  fallback_inside := by simp [Draft.empty]

theorem append_sound {draft : Draft} (sound : draft.Sound) {name : String} {shape : Shape}
    (taken : draft.refusesNew? name shape = none) : (draft.append name shape).Sound := by
  obtain ⟨nameable, unknown, unheld, _⟩ := (refuses_new_eq_none_iff draft name shape).mp taken
  have freshName : name ∉ Entry.names draft.entries := by
    rw [← sound.contains_name_iff, unknown]
    simp
  have freshOpcode := (sound.holder_eq_none_iff shape.opcode).mp unheld
  refine ⟨⟨?_, ?_, ?_⟩, ?_⟩
  · simpa [Entry.names, Draft.append] using sound.names.append freshName
  · simpa [Entry.opcodes, Draft.append] using sound.opcodes.append freshOpcode
  · intro entry member
    rcases List.mem_append.mp member with old | new
    · exact sound.nameable entry old
    · rw [List.mem_singleton.mp new]
      exact nameable
  · intro position designated
    have inside := sound.fallback_inside position designated
    simp only [Draft.append, List.length_append]
    omega

theorem swap_entries {draft : Draft} {position : Nat} {name : String} {old : Shape}
    (present : draft.entries[position]? = some ⟨name, old⟩) (new : Shape) :
    (draft.swap position old new).entries = draft.entries.set position ⟨name, new⟩ := by
  obtain ⟨inside, value⟩ := List.getElem?_eq_some_iff.mp present
  apply List.ext_getElem?
  intro other
  simp only [Draft.swap, List.getElem?_modify, List.getElem?_set]
  by_cases here : position = other
  · subst here
    simp [inside, value]
  · simp [here]

/-- Writing at the position of a name is writing wherever the name is. -/
theorem swap_entries_eq_map {draft : Draft} (sound : draft.Sound) {name : String} {position : Nat}
    {old : Shape} (present : draft.entries[position]? = some ⟨name, old⟩) (new : Shape) :
    (draft.swap position old new).entries =
      draft.entries.map fun entry => if entry.name = name then ⟨name, new⟩ else entry := by
  obtain ⟨inside, value⟩ := List.getElem?_eq_some_iff.mp present
  rw [swap_entries present]
  apply List.ext_getElem?
  intro other
  rw [List.getElem?_map, List.getElem?_set]
  by_cases here : position = other
  · subst here
    simp [inside, value]
  · rw [if_neg here]
    cases found : draft.entries[other]? with
    | none => rfl
    | some entry =>
        have differs : entry.name ≠ name := by
          intro same
          subst same
          exact here (sound.position_unique present found)
        simp [differs]

theorem swap_names {draft : Draft} {position : Nat} {name : String} {old : Shape}
    (present : draft.entries[position]? = some ⟨name, old⟩) (new : Shape) :
    Entry.names (draft.swap position old new).entries = Entry.names draft.entries := by
  obtain ⟨inside, value⟩ := List.getElem?_eq_some_iff.mp present
  have bound : position < (Entry.names draft.entries).length := by
    simpa [Entry.names] using inside
  have kept : name = (Entry.names draft.entries)[position] := by
    simp [Entry.names, value]
  rw [swap_entries present, Entry.names, List.map_set]
  conv_lhs => rw [kept]
  exact List.set_getElem_self _

theorem swap_opcodes {draft : Draft} {position : Nat} {name : String} {old : Shape}
    (present : draft.entries[position]? = some ⟨name, old⟩) (new : Shape) :
    Entry.opcodes (draft.swap position old new).entries =
      (Entry.opcodes draft.entries).set position new.opcode := by
  rw [swap_entries present, Entry.opcodes, List.map_set]
  rfl

theorem swap_sound {draft : Draft} (sound : draft.Sound) {name : String} {position : Nat}
    {old shape : Shape} (found : draft.find? name = some (position, old))
    (taken : draft.refusesSwap? position name shape = none) :
    (draft.swap position old shape).Sound := by
  have present := (sound.find_eq_some_iff name position old).mp found
  obtain ⟨onlyHere, _⟩ := (refuses_swap_eq_none_iff draft position name shape).mp taken
  have opcodeHere : (Entry.opcodes draft.entries)[position]? = some old.opcode := by
    simp [Entry.opcodes, present]
  -- Whoever has the new opcode already stands at this position, so it is the old opcode.
  have free : shape.opcode ∈ Entry.opcodes draft.entries → shape.opcode = old.opcode := by
    intro member
    obtain ⟨entry, belongs, same⟩ := List.mem_map.mp member
    obtain ⟨other, place⟩ := List.mem_iff_getElem?.mp belongs
    have held := (sound.holder_eq_some_iff shape.opcode other entry.name).mpr ⟨_, place, same⟩
    rw [onlyHere other entry.name held, present, Option.some_inj] at place
    rw [← same, ← place]
  refine ⟨⟨?_, ?_, ?_⟩, ?_⟩
  · rw [swap_names present]
    exact sound.names
  · rw [swap_opcodes present]
    exact sound.opcodes.set opcodeHere free
  · intro entry member
    have listed : entry.name ∈ Entry.names (draft.swap position old shape).entries :=
      List.mem_map_of_mem member
    rw [swap_names present] at listed
    obtain ⟨before, belongs, same⟩ := List.mem_map.mp listed
    exact same ▸ sound.nameable before belongs
  · intro other designated
    simpa [Draft.swap] using sound.fallback_inside other designated

theorem step_sound {draft next : Draft} {write : Write} (step : Step draft write next)
    (sound : draft.Sound) : next.Sound := by
  cases step with
  | register taken => exact append_sound sound taken
  | replace found taken => exact swap_sound sound found taken
  | @designate name position shape found =>
      refine ⟨sound.toCoherent, ?_⟩
      intro other designated
      obtain rfl := Option.some.inj designated
      have present := (sound.find_eq_some_iff name position shape).mp found
      exact (List.getElem?_eq_some_iff.mp present).1
  | setStrict => exact ⟨sound.toCoherent, sound.fallback_inside⟩

theorem reached_sound {draft next : Draft} {writes : List Write}
    (reaches : Reaches draft writes next) (sound : draft.Sound) : next.Sound :=
  reaches.keeps step_sound sound

theorem history_sound {draft : Draft} (sound : draft.Sound) (history : List Operation) :
    (draft.after history).Sound :=
  reached_sound (history_reaches draft history) sound

/-- A draft that some history, with whatever was refused in it, leads to from nothing. -/
def Draft.Reachable (draft : Draft) : Prop := ∃ history, Draft.empty.after history = draft

theorem Draft.Reachable.sound {draft : Draft} (reachable : draft.Reachable) : draft.Sound := by
  rcases reachable with ⟨history, rfl⟩
  exact history_sound empty_draft_sound history

end OpcodeShapes
