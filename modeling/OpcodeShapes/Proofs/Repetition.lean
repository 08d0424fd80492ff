import OpcodeShapes.Proofs.Leniency
import OpcodeShapes.Proofs.Order

/-!
# Replacements made again

A shape that a name has already can be put under it again: its opcode is held
by this very name, and nothing moves. Behind replacements that write each name
once every name that they wrote still has what it got, whichever opcodes went
from name to name on the way. So all of them can be made again, as often as one
likes, in any order and in part, and the draft stays what it is. Where a name
is written twice this fails, because an opcode that it had in between may be
held by another name in the end.
-/

namespace OpcodeShapes

set_option autoImplicit false

section Present

variable {draft : Draft} {name : String} {position : Nat} {shape : Shape}

theorem swap_present_taken (sound : draft.Sound) (found : draft.find? name = some (position, shape))
    (valid : draft.strict = true → shape.validate = .ok ()) :
    draft.refusesSwap? position name shape = none := by
  have present := (sound.find_eq_some_iff name position shape).mp found
  -- The only holder of the opcode is the entry that is written.
  have own := (sound.holder_eq_some_iff shape.opcode position name).mpr ⟨shape, present, rfl⟩
  rw [refuses_swap_eq_none_iff, invalid_eq_none_iff]
  refine ⟨?_, valid⟩
  intro place holder held
  rw [own] at held
  exact (congrArg Prod.fst (Option.some.inj held)).symm

theorem swap_present (sound : draft.Sound) (found : draft.find? name = some (position, shape))
    (taken : draft.refusesSwap? position name shape = none) :
    draft.swap position shape shape = draft := by
  have present := (sound.find_eq_some_iff name position shape).mp found
  have entries : (draft.swap position shape shape).entries = draft.entries := by
    obtain ⟨inside, value⟩ := List.getElem?_eq_some_iff.mp present
    rw [swap_entries present, ← value]
    exact List.set_getElem_self inside
  apply ledger_injective (swap_sound sound found taken) sound
  simp only [Draft.ledger, Draft.fallbackName, entries]
  rfl

theorem replace_present (sound : draft.Sound) (present : ⟨name, shape⟩ ∈ draft.entries)
    (valid : draft.strict = true → shape.validate = .ok ()) :
    outcome (Draft.replace name shape) draft = (.ok shape, draft) := by
  obtain ⟨position, found⟩ := sound.exists_found present
  have taken := swap_present_taken sound found valid
  rw [replace_eq_ok_iff]
  exact ⟨position, found, taken, swap_present sound found taken⟩

end Present

/-- A replacement by what is there, which the draft would take. -/
structure Change.Idle (draft : Draft) (change : Change) : Prop where
  replaces : change.mode = .replace
  present : change.entry ∈ draft.entries
  valid : draft.strict = true → change.shape.validate = .ok ()

theorem Change.Idle.outcome_eq {draft : Draft} {change : Change} (idle : change.Idle draft)
    (sound : draft.Sound) : outcome change.perform draft = (.ok (), draft) := by
  rw [outcome_change, idle.replaces]
  dsimp only
  rw [replace_present sound idle.present idle.valid]
  rfl

theorem idle_changes_eq {draft : Draft} (sound : draft.Sound) {changes : List Change}
    (idle : ∀ change ∈ changes, change.Idle draft) :
    outcome (Draft.change changes) draft = (.ok (), draft) := by
  unfold Draft.change
  -- Each change finds the draft as the first of them did.
  induction changes with
  | nil => rfl
  | cons change rest ih =>
      have first := (idle change List.mem_cons_self).outcome_eq sound
      have others := ih fun later member => idle later (List.mem_cons_of_mem change member)
      rw [outcome_batch_cons, first]
      exact others

theorem strict_changes_valid {draft last : Draft} {changes : List Change}
    (reaches : Reaches draft (changes.map Change.write) last) (strict : draft.strict = true)
    {change : Change} (member : change ∈ changes) : change.shape.validate = .ok () := by
  obtain ⟨before, after, rfl⟩ := List.append_of_mem member
  rw [List.map_append, List.map_cons] at reaches
  obtain ⟨between, next, earlier, step, _⟩ := reaches.at_write
  have stillStrict : between.strict = true := by
    rw [reached_strictness earlier, last_strictness_changes, strict]
  exact strict_step_puts_valid step stillStrict
    ((change_write_puts change change.name change.shape).mpr ⟨rfl, rfl⟩)

theorem replacements_idle_behind {draft last : Draft} (sound : draft.Sound) {changes : List Change}
    (replacing : ∀ change ∈ changes, change.mode = .replace)
    (once : (changes.map Change.name).Nodup)
    (reaches : Reaches draft (changes.map Change.write) last) :
    ∀ change ∈ changes, change.Idle last := by
  intro change member
  refine ⟨replacing change member, ?_, ?_⟩
  -- What a name got stays until it gets something else, and here it gets nothing else.
  · rw [changes_put_entries reaches sound once]
    exact .inl ⟨change, member, rfl⟩
  · intro strict
    rw [reached_strictness reaches, last_strictness_changes] at strict
    exact strict_changes_valid reaches strict member

/-- If a configuration replaces shapes under different names and adds none, and a draft takes it,
then the draft that it leads to takes it again and is left as it is in all of its parts. The same holds
of any of its changes, in any order and as often as they are made. -/
theorem replacements_made_again {draft : Draft} (reachable : draft.Reachable) {config : Config}
    (replacing : ∀ change ∈ config.shapes, change.mode = .replace)
    (once : (config.shapes.map Change.name).Nodup) {last : Draft}
    (applied : outcome config.apply draft = (.ok (), last)) :
    outcome config.apply last = (.ok (), last) ∧
      ∀ again : List Change, (∀ change ∈ again, change ∈ config.shapes) →
        outcome (Draft.change again) last = (.ok (), last) := by
  have reaches := change_batch_reaches applied
  have sound := reached_sound reaches reachable.sound
  have idle := replacements_idle_behind reachable.sound replacing once reaches
  constructor
  · exact idle_changes_eq sound idle
  · intro again asked
    exact idle_changes_eq sound fun change member => idle change (asked change member)

def shelves : List Operation :=
  [.setStrict true,
   .register "TOP" ⟨"shelf_books", Flags.hatCap, by decide⟩,
   .register "MIDDLE" ⟨"shelf_jars", Flags.none, by decide⟩,
   .register "BOTTOM" ⟨"shelf_shoes", Flags.none, by decide⟩]

/-- What is on a shelf goes to the next one below. -/
def shelvesMoved : Config where
  shapes :=
    [⟨"BOTTOM", ⟨"shelf_boxes", Flags.none, by decide⟩, .replace⟩,
     ⟨"MIDDLE", ⟨"shelf_shoes", Flags.none, by decide⟩, .replace⟩,
     ⟨"TOP", ⟨"shelf_jars", Flags.hatCap, by decide⟩, .replace⟩]

/-- The boxes rest on the bottom shelf on their way to the top one. -/
def boxesCarried : Config where
  shapes :=
    [⟨"BOTTOM", ⟨"shelf_boxes", Flags.none, by decide⟩, .replace⟩,
     ⟨"BOTTOM", ⟨"shelf_tools", Flags.none, by decide⟩, .replace⟩,
     ⟨"TOP", ⟨"shelf_boxes", Flags.none, by decide⟩, .replace⟩]

/-- The shelves can be filled again as they are. What is written under one name twice is refused the
second time. -/
theorem shelves_filled_again :
    (∃ last, (Draft.empty.after shelves).Reachable ∧
      (∀ change ∈ shelvesMoved.shapes, change.mode = .replace) ∧
      (shelvesMoved.shapes.map Change.name).Nodup ∧
      outcome shelvesMoved.apply (Draft.empty.after shelves) = (.ok (), last) ∧
      outcome shelvesMoved.apply last = (.ok (), last) ∧
      outcome (Draft.change (shelvesMoved.shapes.reverse ++ shelvesMoved.shapes)) last =
        (.ok (), last)) ∧
    ∃ last, outcome boxesCarried.apply (Draft.empty.after shelves) = (.ok (), last) ∧
      (outcome boxesCarried.apply last).1 = .error (.duplicateOpcode "shelf_boxes" "TOP") := by
  constructor
  · have reachable : (Draft.empty.after shelves).Reachable := ⟨shelves, rfl⟩
    have replacing : ∀ change ∈ shelvesMoved.shapes, change.mode = .replace := by decide
    have once : (shelvesMoved.shapes.map Change.name).Nodup := by decide
    have applied : outcome shelvesMoved.apply (Draft.empty.after shelves) = (.ok (), _) := rfl
    rcases replacements_made_again reachable replacing once applied with ⟨whole, part⟩
    refine ⟨_, reachable, replacing, once, applied, whole, part _ ?_⟩
    intro change member
    simpa using member
  · exact ⟨_, rfl, rfl⟩

end OpcodeShapes
