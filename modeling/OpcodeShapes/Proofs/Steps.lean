import Mathlib.Tactic.SplitIfs
import OpcodeShapes.Registry.Operation

/-!
# What a step on a draft can do

However long a history is and whatever is refused in it, a draft changes in
four ways only: an entry is appended, a shape is swapped, an entry is
designated, the strictness is set. This module says once when each of them
happens, and that a step which is refused changes nothing. A batch is opened
item by item or cut in two.
-/

namespace OpcodeShapes

set_option autoImplicit false

theorem invalid_eq_none_iff (draft : Draft) (name : String) (shape : Shape) :
    draft.invalid? name shape = none ↔ (draft.strict = true → shape.validate = .ok ()) := by
  unfold Draft.invalid?
  cases draft.strict with
  | false => simp
  | true => cases shape.validate <;> simp

theorem refuses_new_eq_none_iff (draft : Draft) (name : String) (shape : Shape) :
    draft.refusesNew? name shape = none ↔
      ¬ Text.Blank name ∧ draft.containsName name = false ∧
        draft.holder? shape.opcode = none ∧ draft.invalid? name shape = none := by
  unfold Draft.refusesNew?
  split_ifs with blank known
  · simp [blank]
  · simp [known]
  · cases draft.holder? shape.opcode <;> simp [blank, known]

theorem refuses_swap_eq (draft : Draft) (position : Nat) (name : String) (shape : Shape) :
    draft.refusesSwap? position name shape =
      match (draft.holder? shape.opcode).filter fun place => place.1 ≠ position with
      | some (_, holder) => some (.duplicateOpcode shape.opcode holder)
      | none => draft.invalid? name shape := by
  unfold Draft.refusesSwap?
  cases draft.holder? shape.opcode with
  | none => rfl
  | some place =>
      obtain ⟨other, holder⟩ := place
      by_cases here : other = position
      · simp [Option.filter_some, here]
      · simp [Option.filter_some, here]

theorem refuses_swap_eq_none_iff (draft : Draft) (position : Nat) (name : String) (shape : Shape) :
    draft.refusesSwap? position name shape = none ↔
      (∀ other holder, draft.holder? shape.opcode = some (other, holder) → other = position) ∧
        draft.invalid? name shape = none := by
  unfold Draft.refusesSwap?
  cases draft.holder? shape.opcode with
  | none => simp
  | some place =>
      obtain ⟨other, holder⟩ := place
      by_cases here : other = position
      · simp [here]
      · simp [here]

theorem outcome_register (name : String) (shape : Shape) (draft : Draft) :
    outcome (Draft.register name shape) draft =
      match draft.refusesNew? name shape with
      | some reason => (.error reason, draft)
      | none => (.ok (), draft.append name shape) := by
  unfold Draft.register
  rw [outcome_bind, outcome_get]
  dsimp only
  cases draft.refusesNew? name shape <;> rfl

theorem outcome_replace (name : String) (shape : Shape) (draft : Draft) :
    outcome (Draft.replace name shape) draft =
      match draft.find? name with
      | none => (.error (.unknownName name), draft)
      | some (position, old) =>
        match draft.refusesSwap? position name shape with
        | some reason => (.error reason, draft)
        | none => (.ok old, draft.swap position old shape) := by
  unfold Draft.replace
  rw [outcome_bind, outcome_get]
  dsimp only
  cases draft.find? name with
  | none => rfl
  | some found =>
      obtain ⟨position, old⟩ := found
      dsimp only
      cases draft.refusesSwap? position name shape <;> rfl

theorem outcome_designate (name : String) (draft : Draft) :
    outcome (Draft.designate name) draft =
      match draft.find? name with
      | none => (.error (.unknownName name), draft)
      | some (position, _) => (.ok (), { draft with fallback := some position }) := by
  unfold Draft.designate
  rw [outcome_bind, outcome_get]
  dsimp only
  cases draft.find? name <;> rfl

theorem register_eq_ok_iff (name : String) (shape : Shape) (draft after : Draft) :
    outcome (Draft.register name shape) draft = (.ok (), after) ↔
      draft.refusesNew? name shape = none ∧ draft.append name shape = after := by
  rw [outcome_register]
  cases draft.refusesNew? name shape <;> simp

theorem replace_eq_ok_iff (name : String) (shape old : Shape) (draft after : Draft) :
    outcome (Draft.replace name shape) draft = (.ok old, after) ↔
      ∃ position, draft.find? name = some (position, old) ∧
        draft.refusesSwap? position name shape = none ∧ draft.swap position old shape = after := by
  rw [outcome_replace]
  cases draft.find? name with
  | none => simp
  | some place =>
      rcases place with ⟨position, held⟩
      dsimp only
      cases taken : draft.refusesSwap? position name shape with
      | some reason =>
          constructor
          · intro refused
            cases refused
          · rintro ⟨_, ⟨⟩, other, _⟩
            rw [taken] at other
            cases other
      | none =>
          constructor
          · rintro ⟨⟩
            exact ⟨position, rfl, taken, rfl⟩
          · rintro ⟨_, ⟨⟩, _, rfl⟩
            rfl

@[simp]
theorem outcome_set_strict (strict : Bool) (draft : Draft) :
    outcome (Draft.setStrict strict) draft = (.ok (), { draft with strict }) := rfl

theorem outcome_row (row : Row) (draft : Draft) :
    outcome row.register draft =
      match row.shape with
      | .error cause => (.error (.invalidShape row.name cause), draft)
      | .ok shape => outcome (Draft.register row.name shape) draft := by
  unfold Row.register
  cases row.shape <;> rfl

theorem outcome_change (change : Change) (draft : Draft) :
    outcome change.perform draft =
      match change.mode with
      | .add => outcome (Draft.register change.name change.shape) draft
      | .replace =>
        ((outcome (Draft.replace change.name change.shape) draft).1.map fun _ => (),
          (outcome (Draft.replace change.name change.shape) draft).2) := by
  unfold Change.perform
  cases change.mode with
  | add => rfl
  | replace => exact outcome_map _ _ _

/-- A step that leaves the draft as it found it when it is refused. -/
def Atomic {Answer : Type} (step : Registration Answer) : Prop :=
  ∀ (draft : Draft) (reason : RegistryError), (outcome step draft).1 = .error reason →
    (outcome step draft).2 = draft

theorem register_atomic (name : String) (shape : Shape) : Atomic (Draft.register name shape) := by
  intro draft reason refused
  rw [outcome_register] at refused ⊢
  cases taken : draft.refusesNew? name shape with
  | some reason => rfl
  | none =>
      rw [taken] at refused
      cases refused

theorem replace_atomic (name : String) (shape : Shape) : Atomic (Draft.replace name shape) := by
  intro draft reason refused
  rw [outcome_replace] at refused ⊢
  cases found : draft.find? name with
  | none => rfl
  | some place =>
      obtain ⟨position, old⟩ := place
      rw [found] at refused
      dsimp only at refused ⊢
      cases taken : draft.refusesSwap? position name shape with
      | some reason => rfl
      | none =>
          rw [taken] at refused
          cases refused

theorem designate_atomic (name : String) : Atomic (Draft.designate name) := by
  intro draft reason refused
  rw [outcome_designate] at refused ⊢
  cases found : draft.find? name with
  | none => rfl
  | some place =>
      rw [found] at refused
      cases refused

theorem row_atomic (row : Row) : Atomic row.register := by
  intro draft reason refused
  rw [outcome_row] at refused ⊢
  cases made : row.shape with
  | error cause => rfl
  | ok shape =>
      rw [made] at refused
      exact register_atomic row.name shape draft reason refused

theorem Atomic.of_map {Answer Other : Type} {step : Registration Answer} (atomic : Atomic step)
    (f : Answer → Other) {draft : Draft} {reason : RegistryError}
    (refused : (outcome step draft).1.map f = .error reason) : (outcome step draft).2 = draft := by
  cases result : (outcome step draft).1 with
  | error cause => exact atomic draft cause result
  | ok answer =>
      rw [result] at refused
      cases refused

theorem change_atomic (change : Change) : Atomic change.perform := by
  intro draft reason refused
  rw [outcome_change] at refused ⊢
  cases mode : change.mode with
  | add =>
      rw [mode] at refused
      exact register_atomic change.name change.shape draft reason refused
  | replace =>
      rw [mode] at refused
      exact (replace_atomic change.name change.shape).of_map _ refused

theorem outcome_bind_eq_ok_iff {Reason State Answer Other : Type}
    (step : EStateM Reason State Answer) (next : Answer → EStateM Reason State Other)
    (state last : State) (answer : Other) :
    outcome (step >>= next) state = (.ok answer, last) ↔
      ∃ first between, outcome step state = (.ok first, between) ∧
        outcome (next first) between = (.ok answer, last) := by
  rw [outcome_bind]
  rcases outcome step state with ⟨reason | first, between⟩
  · simp
  · constructor
    · exact fun taken => ⟨first, between, rfl, taken⟩
    · rintro ⟨_, _, ⟨⟩, taken⟩
      exact taken

section Batch

variable {Reason State Item : Type}

theorem outcome_batch_cons (step : Item → EStateM Reason State Unit) (item : Item)
    (rest : List Item) (state : State) :
    outcome ((item :: rest).forM step) state =
      match outcome (step item) state with
      | (.ok _, after) => outcome (rest.forM step) after
      | (.error reason, after) => (.error reason, after) := by
  change outcome (step item >>= fun _ => rest.forM step) state = _
  rw [outcome_bind]
  rcases outcome (step item) state with ⟨reason | answer, after⟩ <;> rfl

theorem outcome_batch_append (step : Item → EStateM Reason State Unit) (earlier later : List Item)
    (state : State) :
    outcome ((earlier ++ later).forM step) state =
      match outcome (earlier.forM step) state with
      | (.ok _, between) => outcome (later.forM step) between
      | (.error reason, after) => (.error reason, after) := by
  have parts : (earlier ++ later).forM step = (do earlier.forM step; later.forM step) :=
    List.forM_append
  rw [parts, outcome_bind]
  rcases outcome (earlier.forM step) state with ⟨reason | answer, after⟩ <;> rfl

theorem outcome_batch_map {Source : Type} (step : Item → EStateM Reason State Unit)
    (f : Source → Item) (sources : List Source) (state : State) :
    outcome ((sources.map f).forM step) state =
      outcome (sources.forM fun source => step (f source)) state := by
  induction sources generalizing state with
  | nil => rfl
  | cons source rest ih =>
      rw [List.map_cons, outcome_batch_cons, outcome_batch_cons]
      rcases outcome (step (f source)) state with ⟨reason | answer, after⟩
      · rfl
      · exact ih after

end Batch

end OpcodeShapes
