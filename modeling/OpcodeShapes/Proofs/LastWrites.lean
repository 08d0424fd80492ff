import OpcodeShapes.Proofs.Built
import OpcodeShapes.Proofs.Catalogue

/-!
# No update is lost and none appears from nowhere

A registry can be told from the writes of its history alone. A name is known
if it was registered, it has the shape that was last written under it, and its
place is the place of its registration. An opcode belongs to the one name that
it was last written under and from which no later write took it. What was
refused is not among the writes, so it has no part in any of this.
-/

namespace OpcodeShapes

set_option autoImplicit false

def Write.shapeUnder? (name : String) : Write → Option Shape
  | .register other shape => if other = name then some shape else none
  | .replace other shape => if other = name then some shape else none
  | .designate _ => none
  | .setStrict _ => none

theorem shape_under_eq_some_iff (name : String) (write : Write) (shape : Shape) :
    write.shapeUnder? name = some shape ↔
      write = .register name shape ∨ write = .replace name shape := by
  cases write <;> simp [Write.shapeUnder?]

theorem shape_under_eq_none_iff (name : String) (write : Write) :
    write.shapeUnder? name = none ↔
      ∀ shape, write ≠ .register name shape ∧ write ≠ .replace name shape := by
  simp only [Option.eq_none_iff_forall_ne_some, ne_eq, shape_under_eq_some_iff, not_or]

theorem change_write_puts (change : Change) (name : String) (shape : Shape) :
    change.write.shapeUnder? name = some shape ↔ change.name = name ∧ change.shape = shape := by
  unfold Change.write
  cases change.mode <;> simp [Write.shapeUnder?]

def lastWritten (name : String) (writes : List Write) : Option Shape :=
  (writes.filterMap (Write.shapeUnder? name)).getLast?

def Write.newName? : Write → Option String
  | .register name _ => some name
  | .replace _ _ => none
  | .designate _ => none
  | .setStrict _ => none

def registeredNames (writes : List Write) : List String :=
  writes.filterMap Write.newName?

/-- The drafts that a history can begin with, each with the operations that lead to it from
nothing. -/
inductive Opening : Draft → List Operation → Prop where
  | empty : Opening Draft.empty []
  | catalogue {strict : Bool} {draft : Draft} (loaded : Catalogue.draft strict = .ok draft) :
      Opening draft (Catalogue.loading strict)

theorem opening_after {start : Draft} {opening : List Operation} (opens : Opening start opening)
    (history : List Operation) : start.after history = Draft.empty.after (opening ++ history) := by
  have begun : Draft.empty.after opening = start := by
    cases opens with
    | empty => rfl
    | catalogue loaded => exact Catalogue.loaded_after loaded
  rw [Draft.after, Draft.after, List.foldl_append, ← begun]
  rfl

theorem opening_reaches {start : Draft} {opening : List Operation} (opens : Opening start opening)
    (history : List Operation) :
    Reaches Draft.empty (Draft.empty.writes (opening ++ history)) (start.after history) := by
  rw [opening_after opens history]
  exact history_reaches Draft.empty (opening ++ history)

theorem mem_registered_names_iff (name : String) (writes : List Write) :
    name ∈ registeredNames writes ↔ ∃ shape, .register name shape ∈ writes := by
  rw [registeredNames, List.mem_filterMap]
  constructor
  · intro brought
    rcases brought with ⟨write, member, isNew⟩
    cases write with
    | register other shape =>
        obtain rfl := Option.some.inj isNew
        exact ⟨shape, member⟩
    | replace other shape => cases isNew
    | designate other => cases isNew
    | setStrict strict => cases isNew
  · intro listed
    rcases listed with ⟨shape, member⟩
    exact ⟨_, member, rfl⟩

theorem registered_entries_names (writes : List Write) :
    Entry.names (registered writes) = registeredNames writes := by
  induction writes with
  | nil => rfl
  | cons write rest ih =>
      cases write with
      | register name shape =>
          rw [registered, Entry.names, List.map_cons]
          exact congrArg (name :: ·) ih
      | replace name shape => exact ih
      | designate name => exact ih
      | setStrict strict => exact ih

theorem last_written_cons (name : String) (write : Write) (rest : List Write) :
    lastWritten name (write :: rest) = (lastWritten name rest).or (write.shapeUnder? name) :=
  last_brought_cons (Write.shapeUnder? name) write rest

theorem step_keeps_entries (holds : String → Shape → Prop) {draft next : Draft} {write : Write}
    (step : Step draft write next) (sound : draft.Sound)
    (puts : ∀ name shape, write.shapeUnder? name = some shape → holds name shape)
    (before : ∀ entry ∈ draft.entries, holds entry.name entry.shape) :
    ∀ entry ∈ next.entries, holds entry.name entry.shape := by
  cases step with
  | @register name shape taken =>
      intro entry member
      rcases List.mem_append.mp member with old | new
      · exact before entry old
      · rw [List.mem_singleton.mp new]
        exact puts name shape (if_pos rfl)
  | @replace name position old shape found taken =>
      have present := (sound.find_eq_some_iff name position old).mp found
      intro entry member
      rw [swap_entries present] at member
      rcases List.mem_or_eq_of_mem_set member with other | new
      · exact before entry other
      · rw [new]
        exact puts name shape (if_pos rfl)
  | designate found => exact before
  | setStrict => exact before

theorem reached_keeps_entries (holds : String → Shape → Prop) {draft last : Draft}
    {writes : List Write} (reaches : Reaches draft writes last) (sound : draft.Sound)
    (puts : ∀ write ∈ writes, ∀ name shape, write.shapeUnder? name = some shape → holds name shape)
    (before : ∀ entry ∈ draft.entries, holds entry.name entry.shape) :
    ∀ entry ∈ last.entries, holds entry.name entry.shape := by
  induction reaches with
  | done => exact before
  | @step draft next last write rest first others ih =>
      have kept := step_keeps_entries holds first sound (puts write List.mem_cons_self) before
      exact ih (step_sound first sound)
        (fun later member => puts later (List.mem_cons_of_mem write member)) kept

theorem last_written_eq_last_replacement {name : String} {writes : List Write}
    (unregistered : name ∉ registeredNames writes) :
    lastWritten name writes = lastReplacement name writes := by
  induction writes with
  | nil => rfl
  | cons write rest ih =>
      rw [last_written_cons, last_replacement_cons]
      cases write with
      | register other shape =>
          have apart : name ≠ other ∧ name ∉ registeredNames rest := by
            simpa [registeredNames, Write.newName?] using unregistered
          rw [ih apart.2, Write.shapeUnder?, if_neg (Ne.symm apart.1), Write.replacement?]
      | replace other shape =>
          rw [ih unregistered]
          rfl
      | designate other =>
          rw [ih unregistered]
          rfl
      | setStrict strict =>
          rw [ih unregistered]
          rfl

theorem registered_entry_last_written {writes : List Write}
    (distinct : (registeredNames writes).Nodup) {entry : Entry} (member : entry ∈ registered writes) :
    lastWritten entry.name writes = some entry.shape := by
  induction writes with
  | nil => cases member
  | cons write rest ih =>
      rw [last_written_cons]
      cases write with
      | register name shape =>
          have apart := List.nodup_cons.mp distinct
          rcases List.mem_cons.mp member with isNew | later
          · -- Behind its registration the name is not registered again, so only replacements count.
            subst isNew
            rw [settled, last_written_eq_last_replacement apart.1, Write.shapeUnder?, if_pos rfl]
            cases lastReplacement name rest <;> rfl
          · rw [ih apart.2 later, Option.some_or]
      | replace name shape => rw [ih distinct member, Option.some_or]
      | designate name => rw [ih distinct member, Option.some_or]
      | setStrict strict => rw [ih distinct member, Option.some_or]

/-- The names of a draft stay where they are, and those registered come behind them. -/
theorem reached_names {draft last : Draft} {writes : List Write}
    (reaches : Reaches draft writes last) (sound : draft.Sound) :
    Entry.names last.entries = Entry.names draft.entries ++ registeredNames writes := by
  rw [reached_entries reaches sound, ← registered_entries_names, Entry.names, List.map_append,
    List.map_map]
  rfl

theorem written_name_reached {draft last : Draft} {writes : List Write}
    (reaches : Reaches draft writes last) (sound : draft.Sound) {name : String} {shape : Shape}
    (written : lastWritten name writes = some shape) : name ∈ Entry.names last.entries := by
  induction reaches generalizing shape with
  | done => cases written
  | @step draft next last write rest first others ih =>
      have nextSound := step_sound first sound
      have kept := reached_names others nextSound
      rw [last_written_cons] at written
      -- Either something is written under the name later, or this write is the last one under it
      -- and leaves the name there for good.
      cases later : lastWritten name rest with
      | some other => exact ih nextSound later
      | none =>
          rw [later, Option.none_or] at written
          rw [kept, List.mem_append]
          left
          cases first with
          | @register other fresh taken =>
              obtain ⟨rfl, _⟩ := Option.ite_none_right_eq_some.mp written
              simp [Entry.names, Draft.append]
          | @replace other position old new found taken =>
              obtain ⟨rfl, _⟩ := Option.ite_none_right_eq_some.mp written
              have present := (sound.find_eq_some_iff other position old).mp found
              rw [swap_names present]
              exact List.mem_map_of_mem (List.mem_of_getElem? present)
          | designate found => cases written
          | setStrict => cases written

/-- From nothing, the entries are the registered names in their order, each with the shape last
written under it. -/
theorem entries_from_nothing {last : Draft} {writes : List Write}
    (reaches : Reaches Draft.empty writes last) :
    Entry.names last.entries = registeredNames writes ∧
      (registeredNames writes).Nodup ∧
      ∀ name shape, ⟨name, shape⟩ ∈ last.entries ↔ lastWritten name writes = some shape := by
  have names : Entry.names last.entries = registeredNames writes :=
    reached_names reaches empty_draft_sound
  have distinct : (registeredNames writes).Nodup :=
    names ▸ (reached_sound reaches empty_draft_sound).names.keys_nodup
  have listed : last.entries = registered writes := reached_entries reaches empty_draft_sound
  have written (entry : Entry) (member : entry ∈ last.entries) :
      lastWritten entry.name writes = some entry.shape :=
    registered_entry_last_written distinct (listed ▸ member)
  refine ⟨names, distinct, ?_⟩
  intro name shape
  constructor
  · exact written ⟨name, shape⟩
  · intro last
    obtain ⟨entry, member, rfl⟩ :=
      List.mem_map.mp (written_name_reached reaches empty_draft_sound last)
    have same := (written entry member).symm.trans last
    exact Option.some.inj same ▸ member

/-- However a history begins and whatever is refused in it, the registry that it ends in holds
exactly the registered names, each with the shape last written under it and at the place of its
registration, and an opcode is the opcode of exactly the one name under which it was written
last. -/
theorem registry_tells_last_writes {start : Draft} {opening : List Operation}
    (opens : Opening start opening) (history : List Operation) {registry : Registry}
    (built : (start.after history).build = .ok registry) :
    let writes := Draft.empty.writes (opening ++ history)
    (∀ name, (∃ shape, registry.named name = .ok shape) ↔ ∃ shape, .register name shape ∈ writes) ∧
      (∀ name shape, registry.named name = .ok shape ↔ lastWritten name writes = some shape) ∧
      (∀ opcode shape, registry.findOpcode? opcode = some shape ↔
        shape.opcode = opcode ∧ ∃ name, lastWritten name writes = some shape) ∧
      (∀ one other first second, lastWritten one writes = some first →
        lastWritten other writes = some second → first.opcode = second.opcode → one = other) ∧
      Entry.names registry.entries = registeredNames writes ∧
      (registeredNames writes).Nodup ∧
      ∀ entry ∈ registry.entries, lastWritten entry.name writes = some entry.shape := by
  intro writes
  have reaches : Reaches Draft.empty writes (start.after history) :=
    opening_after opens history ▸ history_reaches Draft.empty (opening ++ history)
  have copied := built_from built
  have sound : registry.Sound := copied.sound (reached_sound reaches empty_draft_sound)
  obtain ⟨names, distinct, written⟩ := entries_from_nothing reaches
  rw [← copied.entries] at names written
  have named (name : String) (shape : Shape) :
      registry.named name = .ok shape ↔ lastWritten name writes = some shape :=
    (sound.named_eq_ok_iff name shape).trans (written name shape)
  refine ⟨?_, named, ?_, ?_, names, distinct, ?_⟩
  · intro name
    rw [← mem_registered_names_iff, ← names]
    constructor
    · intro known
      rcases known with ⟨shape, answered⟩
      exact List.mem_map_of_mem ((sound.named_eq_ok_iff name shape).mp answered)
    · intro listed
      obtain ⟨entry, member, rfl⟩ := List.mem_map.mp listed
      exact ⟨entry.shape, (sound.named_eq_ok_iff entry.name entry.shape).mpr member⟩
  · intro opcode shape
    rw [sound.find_opcode_eq_some_iff]
    constructor
    · intro found
      rcases found with ⟨name, member, holds⟩
      exact ⟨holds, name, (written name shape).mp member⟩
    · intro last
      rcases last with ⟨holds, name, under⟩
      exact ⟨name, (written name shape).mpr under, holds⟩
  · intro one other first second ofOne ofOther same
    have holdsOne := (sound.opcodes.find_eq_some_iff first.opcode ⟨one, first⟩).mpr
      ⟨(written one first).mpr ofOne, rfl⟩
    have holdsOther := (sound.opcodes.find_eq_some_iff first.opcode ⟨other, second⟩).mpr
      ⟨(written other second).mpr ofOther, same.symm⟩
    exact congrArg Entry.name (Option.some.inj (holdsOne.symm.trans holdsOther))
  · intro entry member
    exact (written entry.name entry.shape).mp member

/-- Three opcodes go round by way of a spare one, which an addition takes over in the end. Both
batches are refused halfway. -/
def rotatedOpcodes : List Operation :=
  [.extend [⟨"START", "event_start", Flags.hatCap⟩, ⟨"SAY", "looks_say", Flags.none⟩,
     ⟨"THINK", "looks_think", Flags.none⟩, ⟨"SAY", "looks_show", Flags.none⟩,
     ⟨"SHOW", "looks_show", Flags.none⟩],
   .designate "START",
   .replace "START" ⟨"looks_spare", Flags.hatCap, by decide⟩,
   .replace "SAY" ⟨"event_start", Flags.none, by decide⟩,
   .replace "THINK" ⟨"looks_say", Flags.none, by decide⟩,
   .register "HIDE" ⟨"looks_say", Flags.none, by decide⟩,
   .change [⟨"START", ⟨"looks_think", Flags.hatCap, by decide⟩, .replace⟩,
     ⟨"HIDE", ⟨"looks_spare", Flags.none, by decide⟩, .add⟩,
     ⟨"GONE", ⟨"looks_gone", Flags.none, by decide⟩, .replace⟩,
     ⟨"SHOW", ⟨"looks_show", Flags.none, by decide⟩, .add⟩]]

theorem rotated_opcodes_tell_last_writes :
    ∃ registry, (Draft.empty.after rotatedOpcodes).build = .ok registry ∧
      Entry.names registry.entries = ["START", "SAY", "THINK", "HIDE"] ∧
      registry.named "START" = .ok ⟨"looks_think", Flags.hatCap, by decide⟩ ∧
      registry.findOpcode? "looks_spare" = some ⟨"looks_spare", Flags.none, by decide⟩ ∧
      ¬ ∃ shape, registry.named "SHOW" = .ok shape := by
  obtain ⟨registry, built⟩ : ∃ registry, (Draft.empty.after rotatedOpcodes).build = .ok registry :=
    exists_built (by decide +kernel)
  obtain ⟨known, named, held, _, names, _, _⟩ :=
    registry_tells_last_writes .empty rotatedOpcodes built
  refine ⟨registry, built, names.trans (by decide +kernel), (named _ _).mpr (by decide +kernel),
    (held _ _).mpr ⟨rfl, "HIDE", by decide +kernel⟩, ?_⟩
  rw [known, ← mem_registered_names_iff]
  decide +kernel

end OpcodeShapes
