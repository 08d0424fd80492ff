import OpcodeShapes.Proofs.Configured

/-!
# What strictness adds

Strictness is one more reason to refuse a shape, and it is asked last. For
valid shapes it makes no difference, to no answer and to nothing that is left.
An invalid one is refused at the latest by it. So a strict configuration makes
the registry of the lenient one if all of its shapes are valid, those that are
replaced later included, and otherwise none.
-/

namespace OpcodeShapes

set_option autoImplicit false

def Draft.under (draft : Draft) (strict : Bool) : Draft := { draft with strict }

@[simp]
theorem under_under (draft : Draft) (earlier strict : Bool) :
    (draft.under earlier).under strict = draft.under strict := rfl

@[simp]
theorem under_contains_name (draft : Draft) (strict : Bool) (name : String) :
    (draft.under strict).containsName name = draft.containsName name := rfl

@[simp]
theorem under_find (draft : Draft) (strict : Bool) (name : String) :
    (draft.under strict).find? name = draft.find? name := rfl

@[simp]
theorem under_holder (draft : Draft) (strict : Bool) (opcode : String) :
    (draft.under strict).holder? opcode = draft.holder? opcode := rfl

theorem invalid_eq_none_of_valid {shape : Shape} (valid : shape.validate = .ok ()) (draft : Draft)
    (name : String) : draft.invalid? name shape = none :=
  (invalid_eq_none_iff draft name shape).mpr fun _ => valid

theorem strict_invalid_eq {shape : Shape} {cause : ShapeError}
    (invalid : shape.validate = .error cause) (draft : Draft) (name : String) :
    (draft.under true).invalid? name shape = some (.invalidShape name cause) := by
  unfold Draft.invalid? Draft.under
  rw [invalid]
  rfl

/-- A lenient draft refuses for all reasons but the last. -/
theorem refuses_new_eq_or (draft : Draft) (name : String) (shape : Shape) :
    draft.refusesNew? name shape =
      ((draft.under false).refusesNew? name shape).or (draft.invalid? name shape) := by
  unfold Draft.refusesNew?
  rw [under_contains_name, under_holder]
  split_ifs
  · rfl
  · rfl
  · cases draft.holder? shape.opcode <;> rfl

theorem refuses_swap_eq_or (draft : Draft) (position : Nat) (name : String) (shape : Shape) :
    draft.refusesSwap? position name shape =
      ((draft.under false).refusesSwap? position name shape).or (draft.invalid? name shape) := by
  unfold Draft.refusesSwap?
  rw [under_holder]
  cases draft.holder? shape.opcode with
  | none => rfl
  | some place =>
      dsimp only
      split_ifs <;> rfl

/-- A step that does the same under either strictness. -/
def Indifferent {Answer : Type} (step : Registration Answer) : Prop :=
  ∀ (draft : Draft) (strict : Bool),
    outcome step (draft.under strict) =
      ((outcome step draft).1, (outcome step draft).2.under strict)

section Indifference

variable {shape : Shape}

theorem register_indifferent (valid : shape.validate = .ok ()) (name : String) :
    Indifferent (Draft.register name shape) := by
  intro draft strict
  have same : (draft.under strict).refusesNew? name shape = draft.refusesNew? name shape := by
    rw [refuses_new_eq_or, refuses_new_eq_or draft, invalid_eq_none_of_valid valid,
      invalid_eq_none_of_valid valid, under_under]
  rw [outcome_register, outcome_register, same]
  cases draft.refusesNew? name shape <;> rfl

theorem replace_indifferent (valid : shape.validate = .ok ()) (name : String) :
    Indifferent (Draft.replace name shape) := by
  intro draft strict
  have same (position : Nat) : (draft.under strict).refusesSwap? position name shape =
      draft.refusesSwap? position name shape := by
    rw [refuses_swap_eq_or, refuses_swap_eq_or draft, invalid_eq_none_of_valid valid,
      invalid_eq_none_of_valid valid, under_under]
  rw [outcome_replace, outcome_replace, under_find]
  cases draft.find? name with
  | none => rfl
  | some place =>
      obtain ⟨position, old⟩ := place
      dsimp only
      rw [same]
      cases draft.refusesSwap? position name shape <;> rfl

theorem designate_indifferent (name : String) : Indifferent (Draft.designate name) := by
  intro draft strict
  rw [outcome_designate, outcome_designate, under_find]
  cases draft.find? name <;> rfl

theorem row_indifferent {row : Row}
    (valid : ∀ shape, row.shape = .ok shape → shape.validate = .ok ()) :
    Indifferent row.register := by
  intro draft strict
  rw [outcome_row, outcome_row]
  cases made : row.shape with
  | error cause => rfl
  | ok shape => exact register_indifferent (valid shape made) row.name draft strict

theorem change_indifferent {change : Change} (valid : change.shape.validate = .ok ()) :
    Indifferent change.perform := by
  intro draft strict
  rw [outcome_change, outcome_change]
  cases change.mode with
  | add => exact register_indifferent valid change.name draft strict
  | replace =>
      dsimp only
      rw [replace_indifferent valid change.name draft strict]

theorem batch_indifferent {Item : Type} {step : Item → Registration Unit} {items : List Item}
    (each : ∀ item ∈ items, Indifferent (step item)) : Indifferent (items.forM step) := by
  induction items with
  | nil => exact fun draft strict => rfl
  | cons item rest ih =>
      intro draft strict
      rw [outcome_batch_cons, outcome_batch_cons, each item (by simp) draft strict]
      rcases outcome (step item) draft with ⟨reason | answer, between⟩
      · rfl
      · exact ih (fun other member => each other (by simp [member])) between strict

theorem changes_indifferent {changes : List Change}
    (valid : ∀ change ∈ changes, change.shape.validate = .ok ()) :
    Indifferent (Draft.change changes) :=
  batch_indifferent fun change member => change_indifferent (valid change member)

end Indifference

theorem strict_refuses_invalid {change : Change} {cause : ShapeError}
    (invalid : change.shape.validate = .error cause) (draft : Draft) :
    ∃ reason, outcome change.perform (draft.under true) = (.error reason, draft.under true) ∧
      ((outcome change.perform (draft.under false)).1 = .ok () →
        reason = .invalidShape change.name cause) := by
  have last := strict_invalid_eq invalid draft change.name
  rw [outcome_change, outcome_change]
  cases change.mode with
  | add =>
      dsimp only
      rw [outcome_register, outcome_register, refuses_new_eq_or (draft.under true), last, under_under]
      cases (draft.under false).refusesNew? change.name change.shape with
      | none => exact ⟨_, rfl, fun _ => rfl⟩
      | some reason => exact ⟨reason, rfl, fun taken => by cases taken⟩
  | replace =>
      dsimp only
      rw [outcome_replace, outcome_replace, under_find, under_find]
      cases draft.find? change.name with
      | none => exact ⟨_, rfl, fun taken => by cases taken⟩
      | some place =>
          obtain ⟨position, old⟩ := place
          dsimp only
          rw [refuses_swap_eq_or (draft.under true), last, under_under]
          cases (draft.under false).refusesSwap? position change.name change.shape with
          | none => exact ⟨_, rfl, fun _ => rfl⟩
          | some reason => exact ⟨reason, rfl, fun taken => by cases taken⟩

namespace Catalogue

theorem draft_under {draft : Draft} (loaded : Catalogue.draft false = .ok draft) (strict : Bool) :
    Catalogue.draft strict = .ok (draft.under strict) := by
  obtain ⟨full, extended, designated⟩ := draft_eq_ok_iff.mp loaded
  have rowsIndifferent : Indifferent (Draft.extend rows) := by
    apply batch_indifferent
    intro row member
    rw [← entries_row] at member
    obtain ⟨entry, listed, rfl⟩ := List.mem_map.mp member
    apply row_indifferent
    intro shape made
    obtain rfl := Except.ok.inj ((entry_row_shape entry).symm.trans made)
    exact entries_valid entry listed
  have filledUnder := rowsIndifferent { Draft.empty with strict := false } strict
  have designatedUnder := designate_indifferent fallbackName full strict
  rw [extended] at filledUnder
  rw [designated] at designatedUnder
  exact draft_eq_ok_iff.mpr ⟨full.under strict, filledUnder, designatedUnder⟩

end Catalogue

namespace Config

theorem registry_under {draft : Draft} (loaded : Catalogue.draft false = .ok draft)
    (strict : Bool) (shapes : List Change) :
    (Config.mk strict shapes).registry =
      match outcome (Draft.change shapes) (draft.under strict) with
      | (.ok _, last) => last.build
      | (.error reason, _) => .error reason :=
  registry_eq _ (Catalogue.draft_under loaded strict)

theorem registry_indifferent {shapes : List Change}
    (valid : ∀ change ∈ shapes, change.shape.validate = .ok ()) :
    (Config.mk true shapes).registry = (Config.mk false shapes).registry := by
  obtain ⟨draft, loaded⟩ := Catalogue.loads false
  -- Strictness is asked for nothing but an invalid shape.
  have same := changes_indifferent valid draft
  rw [registry_under loaded, registry_under loaded, same, same]
  rcases outcome (Draft.change shapes) draft with ⟨reason | answer, last⟩ <;> rfl

/-- With an invalid shape there is no strict registry. If there is a lenient one, the first invalid
shape is what the strict one fails for. -/
theorem first_invalid_refused {before : List Change} {change : Change} {cause : ShapeError}
    (valid : ∀ earlier ∈ before, earlier.shape.validate = .ok ())
    (invalid : change.shape.validate = .error cause) (after : List Change) :
    ∃ reason, (Config.mk true (before ++ change :: after)).registry = .error reason ∧
      ∀ registry, (Config.mk false (before ++ change :: after)).registry = .ok registry →
        reason = .invalidShape change.name cause := by
  obtain ⟨draft, loaded⟩ := Catalogue.loads false
  -- Up to the invalid shape both runs do the same and differ in the strictness alone.
  have same := changes_indifferent valid draft
  rw [registry_under loaded, registry_under loaded, Draft.change, outcome_batch_append,
    outcome_batch_append, ← Draft.change, same, same]
  rcases outcome (Draft.change before) draft with ⟨reason | answer, between⟩
  · exact ⟨reason, rfl, fun registry built => by cases built⟩
  · obtain ⟨reason, refused, named⟩ := strict_refuses_invalid invalid between
    refine ⟨reason, ?_, ?_⟩
    · dsimp only
      rw [outcome_batch_cons, refused]
    · intro registry built
      dsimp only at built
      rw [outcome_batch_cons] at built
      cases result : outcome change.perform (between.under false) with
      | mk answer next =>
          rw [result] at built named
          cases answer with
          | error other => cases built
          | ok answer => exact named rfl

end Config

def firstInvalid? (changes : List Change) : Option Change :=
  changes.find? fun change => change.shape.validate ≠ .ok ()

theorem first_invalid_eq_none_iff (changes : List Change) :
    firstInvalid? changes = none ↔ ∀ change ∈ changes, change.shape.validate = .ok () := by
  simp [firstInvalid?]

theorem first_invalid_splits {changes : List Change} {change : Change}
    (first : firstInvalid? changes = some change) :
    ∃ before after, changes = before ++ change :: after ∧
      (∀ earlier ∈ before, earlier.shape.validate = .ok ()) ∧
      change.shape.validate = .error (.booleanWithoutReporter change.shape.opcode) := by
  obtain ⟨fails, before, after, split, valid⟩ := List.find?_eq_some_iff_append.mp first
  refine ⟨before, after, split, fun earlier member => by simpa using valid earlier member, ?_⟩
  exact Shape.validate_eq_error_iff.mpr ⟨by simpa using fails, rfl⟩

/-- There is a strict registry exactly if there is a lenient one and all configured shapes are valid,
those that are replaced later included, and then it is the same. Where only the lenient one is there,
the strict one fails for the first shape of the file that is not valid. -/
theorem strict_registry_iff_lenient_and_valid (shapes : List Change) :
    (∀ registry, (Config.mk true shapes).registry = .ok registry ↔
        (Config.mk false shapes).registry = .ok registry ∧
          ∀ change ∈ shapes, change.shape.validate = .ok ()) ∧
      (∀ registry change, (Config.mk false shapes).registry = .ok registry →
        firstInvalid? shapes = some change →
          (Config.mk true shapes).registry =
            .error (.invalidShape change.name (.booleanWithoutReporter change.shape.opcode))) ∧
      ∀ shape : Shape, shape.validate = .ok () ↔
        (shape.get .boolean = .yes → shape.get .reporter = .yes) := by
  refine ⟨?_, ?_, fun shape => Shape.validate_eq_ok_iff⟩
  · intro registry
    cases first : firstInvalid? shapes with
    | none =>
        have valid := (first_invalid_eq_none_iff shapes).mp first
        rw [Config.registry_indifferent valid]
        exact ⟨fun built => ⟨built, valid⟩, fun both => both.1⟩
    | some change =>
        obtain ⟨before, after, rfl, earlierValid, invalid⟩ := first_invalid_splits first
        obtain ⟨reason, refused, _⟩ := Config.first_invalid_refused earlierValid invalid after
        rw [refused]
        constructor
        · intro built
          cases built
        · intro both
          rw [both.2 change (by simp)] at invalid
          cases invalid
  · intro registry change built first
    obtain ⟨before, after, rfl, earlierValid, invalid⟩ := first_invalid_splits first
    obtain ⟨reason, refused, named⟩ := Config.first_invalid_refused earlierValid invalid after
    rw [refused, named registry built]

/-- The second shape is no reporter although it reports a truth value; the third makes up for it. -/
def repairedShapes : List Change :=
  [⟨"TURN", ⟨"turn_block", Flags.none, by decide⟩, .add⟩,
   ⟨"TOUCHING", ⟨"touching_block", Flags.none.set .boolean .yes, by decide⟩, .add⟩,
   ⟨"TOUCHING", ⟨"touching_block", (Flags.none.set .boolean .yes).set .reporter .yes, by decide⟩,
     .replace⟩]

theorem repaired_shapes_lenient_only :
    ∃ registry, (Config.mk false repairedShapes).registry = .ok registry ∧
      (Config.mk true repairedShapes).registry =
        .error (.invalidShape "TOUCHING" (.booleanWithoutReporter "touching_block")) := by
  obtain ⟨registry, built⟩ : ∃ registry, (Config.mk false repairedShapes).registry = .ok registry :=
    Config.exists_registry (by decide +kernel)
  exact ⟨registry, built,
    (strict_registry_iff_lenient_and_valid repairedShapes).2.1 registry _ built rfl⟩

end OpcodeShapes
