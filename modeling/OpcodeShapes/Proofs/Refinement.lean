import OpcodeShapes.Proofs.Built
import OpcodeShapes.Registry.Ledger

/-!
# Drafts as ledgers

A sound draft forgets its indexes and becomes a ledger. Whatever is done to the
draft can be done to the ledger instead: the answers are the same, refusals and
their order included, and the ledger that is left is the one of the draft that
is left.
-/

namespace OpcodeShapes

set_option autoImplicit false

def Draft.ledger (draft : Draft) : Ledger where
  entries := draft.entries
  fallback := draft.fallbackName
  strict := draft.strict

/-- There is no more to a sound draft than its ledger. -/
theorem ledger_injective {one other : Draft} (sound : one.Sound) (also : other.Sound)
    (same : one.ledger = other.ledger) : one = other := by
  have entries : one.entries = other.entries := congrArg Ledger.entries same
  have fallbackName : one.fallbackName = other.fallbackName := congrArg Ledger.fallback same
  have strict : one.strict = other.strict := congrArg Ledger.strict same
  have byName : one.byName = other.byName := sound.names.unique (entries ▸ also.names)
  have byOpcode : one.byOpcode = other.byOpcode := sound.opcodes.unique (entries ▸ also.opcodes)
  have fallback : one.fallback = other.fallback := by
    apply Option.ext
    intro position
    rw [fallback_eq_some_iff sound, fallback_eq_some_iff also, fallbackName, entries]
  rw [Draft.mk.injEq]
  exact ⟨entries, byName, byOpcode, fallback, strict⟩

section Lookups

variable {draft : Draft}

theorem ledger_named (sound : draft.Sound) (name : String) :
    draft.ledger.named? name = (draft.find? name).map fun place => ⟨name, place.2⟩ := by
  apply Option.ext
  intro entry
  rw [Ledger.named?, Option.map_eq_some_iff]
  constructor
  · intro listed
    obtain ⟨member, rfl⟩ := (sound.names.find_eq_some_iff name entry).mp listed
    obtain ⟨position, found⟩ := sound.exists_found member
    exact ⟨_, found, rfl⟩
  · intro answered
    rcases answered with ⟨⟨position, shape⟩, found, rfl⟩
    have present := (sound.find_eq_some_iff name position shape).mp found
    have member := List.mem_of_getElem? present
    exact (sound.names.find_eq_some_iff name ⟨name, shape⟩).mpr ⟨member, rfl⟩

theorem ledger_holder (sound : draft.Sound) (opcode : String) :
    (draft.ledger.holder? opcode).map Entry.name = (draft.holder? opcode).map Prod.snd := by
  apply Option.ext
  intro name
  simp only [Option.map_eq_some_iff, Ledger.holder?]
  constructor
  · intro answered
    rcases answered with ⟨entry, found, rfl⟩
    obtain ⟨member, rfl⟩ := (sound.opcodes.find_eq_some_iff opcode entry).mp found
    obtain ⟨position, held⟩ := sound.exists_holder member
    exact ⟨_, held, rfl⟩
  · intro answered
    rcases answered with ⟨⟨position, holder⟩, found, rfl⟩
    obtain ⟨shape, present, holds⟩ := (sound.holder_eq_some_iff opcode position holder).mp found
    have member := List.mem_of_getElem? present
    exact ⟨_, (sound.opcodes.find_eq_some_iff opcode _).mpr ⟨member, holds⟩, rfl⟩

theorem ledger_contains_name (sound : draft.Sound) (name : String) :
    draft.ledger.containsName name = draft.containsName name := by
  rw [Bool.eq_iff_iff, sound.contains_name_iff, Ledger.containsName, Ledger.named?,
    List.find?_isSome]
  simp [Draft.ledger, Entry.names]

end Lookups

theorem ledger_append {draft : Draft} (sound : draft.Sound) (name : String) (shape : Shape) :
    (draft.append name shape).ledger =
      { draft.ledger with entries := draft.entries ++ [⟨name, shape⟩] } := by
  rw [Draft.ledger, append_fallback_name sound]
  rfl

theorem ledger_swap {draft : Draft} (sound : draft.Sound) {name : String} {position : Nat}
    {old : Shape} (present : draft.entries[position]? = some ⟨name, old⟩) (new : Shape) :
    (draft.swap position old new).ledger =
      { draft.ledger with entries := Ledger.reshaped name new draft.entries } := by
  rw [Draft.ledger, swap_fallback_name present, swap_entries_eq_map sound present]
  rfl

theorem ledger_designate {draft : Draft} {name : String} {position : Nat} {shape : Shape}
    (present : draft.entries[position]? = some ⟨name, shape⟩) :
    ({ draft with fallback := some position } : Draft).ledger =
      { draft.ledger with fallback := some name } := by
  rw [Draft.ledger, designate_fallback_name present]
  rfl

theorem outcome_accept {draft : Draft} (name : String) (shape : Shape) :
    outcome (Ledger.accept name shape) draft.ledger =
      match draft.invalid? name shape with
      | some reason => (.error reason, draft.ledger)
      | none => (.ok (), draft.ledger) := by
  unfold Ledger.accept Draft.invalid?
  rw [outcome_bind, outcome_get]
  have strictness : draft.ledger.strict = draft.strict := rfl
  simp only [strictness]
  split_ifs
  · cases shape.validate <;> rfl
  · rfl

theorem ledger_register {draft : Draft} (sound : draft.Sound) (name : String) (shape : Shape) :
    outcome (Ledger.register name shape) draft.ledger =
      match draft.refusesNew? name shape with
      | some reason => (.error reason, draft.ledger)
      | none => (.ok (), (draft.append name shape).ledger) := by
  have holder := ledger_holder sound shape.opcode
  unfold Ledger.register Draft.refusesNew?
  rw [outcome_bind, outcome_get]
  simp only [ledger_contains_name sound]
  by_cases blank : Text.Blank name
  · simp only [if_pos blank]
    rfl
  · simp only [if_neg blank]
    by_cases known : draft.containsName name = true
    · simp only [if_pos known]
      rfl
    · simp only [if_neg known]
      cases held : draft.holder? shape.opcode with
      | some place =>
          rw [held] at holder
          obtain ⟨entry, listed, same⟩ := Option.map_eq_some_iff.mp holder
          simp only [listed, same]
          rfl
      | none =>
          rw [held, Option.map_none, Option.map_eq_none_iff] at holder
          simp only [holder]
          change outcome (Ledger.accept name shape >>= fun _ => set _) draft.ledger = _
          rw [outcome_bind, outcome_accept]
          cases draft.invalid? name shape with
          | some reason => rfl
          | none =>
              simp only [ledger_append sound]
              rfl

theorem holder_is_own_iff {draft : Draft} (sound : draft.Sound) {name opcode owner : String}
    {position other : Nat} {old : Shape} (found : draft.find? name = some (position, old))
    (held : draft.holder? opcode = some (other, owner)) : owner = name ↔ other = position := by
  have present := (sound.find_eq_some_iff name position old).mp found
  obtain ⟨shape, place, _⟩ := (sound.holder_eq_some_iff opcode other owner).mp held
  constructor
  · intro same
    subst same
    exact sound.position_unique place present
  · intro same
    subst same
    rw [present, Option.some_inj] at place
    exact (congrArg Entry.name place).symm

/-- The ledger looks for another holder by name, the draft by position. -/
theorem ledger_other_holder {draft : Draft} (sound : draft.Sound) {name : String} {position : Nat}
    {old : Shape} (found : draft.find? name = some (position, old)) (opcode : String) :
    ((draft.ledger.holder? opcode).filter fun holder => holder.name ≠ name).map Entry.name =
      ((draft.holder? opcode).filter fun place => place.1 ≠ position).map Prod.snd := by
  have holder := ledger_holder sound opcode
  cases held : draft.holder? opcode with
  | none =>
      rw [held, Option.map_none, Option.map_eq_none_iff] at holder
      simp [holder]
  | some place =>
      obtain ⟨other, owner⟩ := place
      rw [held] at holder
      obtain ⟨entry, listed, rfl⟩ := Option.map_eq_some_iff.mp holder
      have own := holder_is_own_iff sound found held
      by_cases here : other = position
      · simp [Option.filter_some, listed, own, here]
      · simp [Option.filter_some, listed, own, here]

theorem ledger_replace {draft : Draft} (sound : draft.Sound) (name : String) (shape : Shape) :
    outcome (Ledger.replace name shape) draft.ledger =
      match draft.find? name with
      | none => (.error (.unknownName name), draft.ledger)
      | some (position, old) =>
        match draft.refusesSwap? position name shape with
        | some reason => (.error reason, draft.ledger)
        | none => (.ok old, (draft.swap position old shape).ledger) := by
  unfold Ledger.replace
  rw [outcome_bind, outcome_get]
  simp only [ledger_named sound]
  cases found : draft.find? name with
  | none => rfl
  | some place =>
      obtain ⟨position, old⟩ := place
      have present := (sound.find_eq_some_iff name position old).mp found
      have holder := ledger_other_holder sound found shape.opcode
      simp only [Option.map_some, refuses_swap_eq]
      cases held : (draft.holder? shape.opcode).filter fun place => place.1 ≠ position with
      | some place =>
          rw [held] at holder
          obtain ⟨entry, listed, same⟩ := Option.map_eq_some_iff.mp holder
          simp only [listed, same]
          rfl
      | none =>
          rw [held, Option.map_none, Option.map_eq_none_iff] at holder
          simp only [holder]
          change outcome (Ledger.accept name shape >>= fun _ => set _ >>= fun _ => pure old)
            draft.ledger = _
          rw [outcome_bind, outcome_accept]
          cases draft.invalid? name shape with
          | some reason => rfl
          | none =>
              simp only [ledger_swap sound present]
              rfl

/-- On the ledger of a sound draft the plain step answers as the other one does on the draft, and
leaves the ledger of the draft that the other one leaves. -/
def Refines {Answer : Type} (step : Registration Answer) (plain : Bookkeeping Answer) : Prop :=
  ∀ draft : Draft, draft.Sound →
    outcome plain draft.ledger = ((outcome step draft).1, (outcome step draft).2.ledger)

theorem Refines.answer {Answer Other : Type} {step : Registration Answer}
    {plain : Bookkeeping Answer} (refines : Refines step plain) (f : Answer → Other) :
    Refines (step >>= fun answer => pure (f answer)) (plain >>= fun answer => pure (f answer)) := by
  intro draft sound
  rw [outcome_answer, outcome_answer, refines draft sound]

theorem Refines.map {Answer Other : Type} {step : Registration Answer} {plain : Bookkeeping Answer}
    (refines : Refines step plain) (f : Answer → Other) : Refines (f <$> step) (f <$> plain) := by
  intro draft sound
  rw [outcome_map, outcome_map, refines draft sound]

theorem register_refines (name : String) (shape : Shape) :
    Refines (Draft.register name shape) (Ledger.register name shape) := by
  intro draft sound
  rw [ledger_register sound, outcome_register]
  cases draft.refusesNew? name shape <;> rfl

theorem replace_refines (name : String) (shape : Shape) :
    Refines (Draft.replace name shape) (Ledger.replace name shape) := by
  intro draft sound
  rw [ledger_replace sound, outcome_replace]
  cases draft.find? name with
  | none => rfl
  | some place =>
      obtain ⟨position, old⟩ := place
      dsimp only
      cases draft.refusesSwap? position name shape <;> rfl

theorem designate_refines (name : String) :
    Refines (Draft.designate name) (Ledger.designate name) := by
  intro draft sound
  rw [outcome_designate]
  unfold Ledger.designate
  rw [outcome_bind, outcome_get]
  simp only [Ledger.containsName, ledger_named sound]
  cases found : draft.find? name with
  | none => rfl
  | some place =>
      obtain ⟨position, shape⟩ := place
      have present := (sound.find_eq_some_iff name position shape).mp found
      simp only [ledger_designate present]
      rfl

theorem row_refines (row : Row) : Refines row.register (Ledger.registerRow row) := by
  unfold Row.register Ledger.registerRow
  cases row.shape with
  | error cause => exact fun draft _ => rfl
  | ok shape => exact register_refines row.name shape

theorem change_refines (change : Change) : Refines change.perform (Ledger.performChange change) := by
  unfold Change.perform Ledger.performChange
  cases change.mode with
  | add => exact register_refines change.name change.shape
  | replace => exact (replace_refines change.name change.shape).map fun _ => ()

theorem batch_refines {Item : Type} {step : Item → Registration Unit}
    {plain : Item → Bookkeeping Unit} {writes : Item → Draft → List Write}
    (reaches : ∀ item draft, Reaches draft (writes item draft) (outcome (step item) draft).2)
    (each : ∀ item, Refines (step item) (plain item)) (items : List Item) :
    Refines (items.forM step) (items.forM plain) := by
  induction items with
  | nil => exact fun draft _ => rfl
  | cons item rest ih =>
      intro draft sound
      have next := reached_sound (reaches item draft) sound
      rw [outcome_batch_cons, outcome_batch_cons, each item draft sound]
      cases result : outcome (step item) draft with
      | mk answer after =>
          rw [result] at next
          cases answer with
          | error reason => rfl
          | ok answer => exact ih after next

theorem perform_refines (operation : Operation) :
    Refines operation.perform (Ledger.perform operation) := by
  cases operation with
  | register name shape => exact (register_refines name shape).answer _
  | replace name shape => exact (replace_refines name shape).answer _
  | designate name => exact (designate_refines name).answer _
  | setStrict strict => exact fun draft _ => rfl
  | extend rows => exact (batch_refines row_reaches row_refines rows).answer _
  | change changes => exact (batch_refines change_reaches change_refines changes).answer _

def Registry.book (registry : Registry) : Book := ⟨registry.entries, registry.fallback⟩

theorem ledger_build {draft : Draft} (sound : draft.Sound) :
    draft.ledger.build = draft.build.map Registry.book := by
  cases designated : draft.fallback with
  | none =>
      rw [build_undesignated designated]
      simp [Ledger.build, Draft.ledger, Draft.fallbackName, designated, Except.map]
  | some position =>
      have inside := sound.fallback_inside position designated
      have present := List.getElem?_eq_getElem inside
      have remembered : draft.ledger.fallback = some draft.entries[position].name := by
        simp [Draft.ledger, Draft.fallbackName, Entry.names, designated, inside]
      have listed : draft.ledger.named? draft.entries[position].name =
          some draft.entries[position] :=
        (sound.names.find_eq_some_iff _ _).mpr ⟨List.getElem_mem inside, rfl⟩
      rw [build_eq sound designated present]
      simp only [Ledger.build, remembered, Option.bind_some, listed]
      split_ifs <;> rfl

end OpcodeShapes
