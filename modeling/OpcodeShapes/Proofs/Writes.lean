import OpcodeShapes.Proofs.Steps

/-!
# The writes of a history

Single writes with their guards, and for every history the list of the writes
that it really makes: one for each register, replacement, designation or switch
that was not refused, those inside of batches included. Invariants are proved
for one write and then hold after every history.
-/

namespace OpcodeShapes

set_option autoImplicit false

/-- A change of a draft that was not refused. -/
inductive Write where
  | register (name : String) (shape : Shape)
  | replace (name : String) (shape : Shape)
  | designate (name : String)
  | setStrict (strict : Bool)
  deriving DecidableEq

/-- All that a single write can do, with what the draft checks before it. -/
inductive Step : Draft → Write → Draft → Prop where
  | register {draft : Draft} {name : String} {shape : Shape}
      (taken : draft.refusesNew? name shape = none) :
      Step draft (.register name shape) (draft.append name shape)
  | replace {draft : Draft} {name : String} {position : Nat} {old shape : Shape}
      (found : draft.find? name = some (position, old))
      (taken : draft.refusesSwap? position name shape = none) :
      Step draft (.replace name shape) (draft.swap position old shape)
  | designate {draft : Draft} {name : String} {position : Nat} {shape : Shape}
      (found : draft.find? name = some (position, shape)) :
      Step draft (.designate name) { draft with fallback := some position }
  | setStrict {draft : Draft} {strict : Bool} :
      Step draft (.setStrict strict) { draft with strict }

/-- A list of writes, one after another, leads from one draft to another. -/
inductive Reaches : Draft → List Write → Draft → Prop where
  | done {draft : Draft} : Reaches draft [] draft
  | step {draft next last : Draft} {write : Write} {rest : List Write}
      (first : Step draft write next) (others : Reaches next rest last) :
      Reaches draft (write :: rest) last

namespace Reaches

theorem single {draft next : Draft} {write : Write} (first : Step draft write next) :
    Reaches draft [write] next :=
  .step first .done

theorem append {draft middle last : Draft} {earlier later : List Write}
    (before : Reaches draft earlier middle) (after : Reaches middle later last) :
    Reaches draft (earlier ++ later) last := by
  induction before with
  | done => exact after
  | step first _ ih => exact .step first (ih after)

theorem keeps {holds : Draft → Prop}
    (step : ∀ {draft write next}, Step draft write next → holds draft → holds next)
    {draft last : Draft} {writes : List Write} (reaches : Reaches draft writes last)
    (before : holds draft) : holds last := by
  induction reaches with
  | done => exact before
  | step first _ ih => exact ih (step first before)

end Reaches

def writeOf {Answer : Type} (step : Registration Answer) (write : Write) (draft : Draft) :
    List Write :=
  match (outcome step draft).1 with
  | .ok _ => [write]
  | .error _ => []

/-- The writes of a batch: those of each item on the draft that the items before it left. Nothing
comes behind an item that is refused. -/
def batchWrites {Item : Type} (step : Item → Registration Unit)
    (writes : Item → Draft → List Write) : List Item → Draft → List Write
  | [], _ => []
  | item :: rest, draft =>
    match outcome (step item) draft with
    | (.ok _, next) => writes item draft ++ batchWrites step writes rest next
    | (.error _, _) => writes item draft

def Row.writes (row : Row) (draft : Draft) : List Write :=
  match row.shape with
  | .ok shape => writeOf (Draft.register row.name shape) (.register row.name shape) draft
  | .error _ => []

def Change.writes (change : Change) (draft : Draft) : List Write :=
  match change.mode with
  | .add =>
    writeOf (Draft.register change.name change.shape) (.register change.name change.shape) draft
  | .replace =>
    writeOf (Draft.replace change.name change.shape) (.replace change.name change.shape) draft

def Operation.writes (operation : Operation) (draft : Draft) : List Write :=
  match operation with
  | .register name shape => writeOf (Draft.register name shape) (.register name shape) draft
  | .replace name shape => writeOf (Draft.replace name shape) (.replace name shape) draft
  | .designate name => writeOf (Draft.designate name) (.designate name) draft
  | .setStrict strict => [.setStrict strict]
  | .extend rows => batchWrites Row.register Row.writes rows draft
  | .change changes => batchWrites Change.perform Change.writes changes draft

def Draft.writes (draft : Draft) : List Operation → List Write
  | [] => []
  | operation :: rest =>
    operation.writes draft ++ Draft.writes (outcome operation.perform draft).2 rest

theorem register_reaches (name : String) (shape : Shape) (draft : Draft) :
    Reaches draft (writeOf (Draft.register name shape) (.register name shape) draft)
      (outcome (Draft.register name shape) draft).2 := by
  unfold writeOf
  rw [outcome_register]
  cases taken : draft.refusesNew? name shape with
  | none => exact .single (.register taken)
  | some reason => exact .done

theorem replace_reaches (name : String) (shape : Shape) (draft : Draft) :
    Reaches draft (writeOf (Draft.replace name shape) (.replace name shape) draft)
      (outcome (Draft.replace name shape) draft).2 := by
  unfold writeOf
  rw [outcome_replace]
  cases found : draft.find? name with
  | none => exact .done
  | some place =>
      obtain ⟨position, old⟩ := place
      dsimp only
      cases taken : draft.refusesSwap? position name shape with
      | none => exact .single (.replace found taken)
      | some reason => exact .done

theorem designate_reaches (name : String) (draft : Draft) :
    Reaches draft (writeOf (Draft.designate name) (.designate name) draft)
      (outcome (Draft.designate name) draft).2 := by
  unfold writeOf
  rw [outcome_designate]
  cases found : draft.find? name with
  | none => exact .done
  | some place =>
      obtain ⟨position, shape⟩ := place
      exact .single (.designate found)

theorem row_reaches (row : Row) (draft : Draft) :
    Reaches draft (row.writes draft) (outcome row.register draft).2 := by
  rw [Row.writes, outcome_row]
  cases row.shape with
  | error cause => exact .done
  | ok shape => exact register_reaches row.name shape draft

theorem change_reaches (change : Change) (draft : Draft) :
    Reaches draft (change.writes draft) (outcome change.perform draft).2 := by
  rw [Change.writes, outcome_change]
  cases change.mode with
  | add => exact register_reaches change.name change.shape draft
  | replace => exact replace_reaches change.name change.shape draft

theorem batch_reaches {Item : Type} {step : Item → Registration Unit}
    {writes : Item → Draft → List Write}
    (each : ∀ item draft, Reaches draft (writes item draft) (outcome (step item) draft).2)
    (items : List Item) (draft : Draft) :
    Reaches draft (batchWrites step writes items draft) (outcome (items.forM step) draft).2 := by
  induction items generalizing draft with
  | nil => exact .done
  | cons item rest ih =>
      have first := each item draft
      rw [batchWrites, outcome_batch_cons]
      cases result : outcome (step item) draft with
      | mk answer next =>
          rw [result] at first
          cases answer with
          | ok answer => exact first.append (ih next)
          | error reason => exact first

section Performed

variable {Item : Type} {step : Item → Registration Unit} {writes : Item → Draft → List Write}

theorem batch_writes_eq {write : Item → Write}
    (each : ∀ {item draft next}, outcome (step item) draft = (.ok (), next) →
      writes item draft = [write item])
    {items : List Item} {draft last : Draft}
    (performed : outcome (items.forM step) draft = (.ok (), last)) :
    batchWrites step writes items draft = items.map write := by
  induction items generalizing draft with
  | nil => rfl
  | cons item rest ih =>
      rw [outcome_batch_cons] at performed
      rw [batchWrites]
      cases result : outcome (step item) draft with
      | mk answer next =>
          rw [result] at performed
          cases answer with
          | error reason => cases performed
          | ok answer => simp only [each result, ih performed, List.map_cons, List.singleton_append]

theorem batch_reaches_all {write : Item → Write}
    (reaches : ∀ item draft, Reaches draft (writes item draft) (outcome (step item) draft).2)
    (each : ∀ {item draft next}, outcome (step item) draft = (.ok (), next) →
      writes item draft = [write item])
    {items : List Item} {draft last : Draft}
    (performed : outcome (items.forM step) draft = (.ok (), last)) :
    Reaches draft (items.map write) last := by
  have reached := batch_reaches reaches items draft
  rwa [batch_writes_eq each performed, performed] at reached

end Performed

def Change.write (change : Change) : Write :=
  match change.mode with
  | .add => .register change.name change.shape
  | .replace => .replace change.name change.shape

theorem change_batch_reaches {changes : List Change} {draft last : Draft}
    (performed : outcome (Draft.change changes) draft = (.ok (), last)) :
    Reaches draft (changes.map Change.write) last := by
  refine batch_reaches_all change_reaches ?_ performed
  intro change draft next done
  rw [outcome_change] at done
  unfold Change.writes Change.write
  cases mode : change.mode with
  | add =>
      rw [mode] at done
      simp only [writeOf, done]
  | replace =>
      rw [mode] at done
      simp only [writeOf]
      cases answered : (outcome (Draft.replace change.name change.shape) draft).1 with
      | ok old => rfl
      | error reason =>
          simp only [answered] at done
          cases done

def Entry.row (entry : Entry) : Row := ⟨entry.name, entry.shape.opcode, entry.shape.flags⟩

def Entry.write (entry : Entry) : Write := .register entry.name entry.shape

@[simp]
theorem entry_row_shape (entry : Entry) : entry.row.shape = .ok entry.shape :=
  Shape.make_eq_ok_iff.mpr ⟨rfl, rfl⟩

theorem extend_batch_reaches {entries : List Entry} {draft last : Draft}
    (performed : outcome (Draft.extend (entries.map Entry.row)) draft = (.ok (), last)) :
    Reaches draft (entries.map Entry.write) last := by
  rw [Draft.extend, outcome_batch_map] at performed
  have each {entry : Entry} {draft next : Draft}
      (done : outcome entry.row.register draft = (.ok (), next)) :
      entry.row.writes draft = [entry.write] := by
    simp only [outcome_row, entry_row_shape] at done
    simp only [Row.writes, entry_row_shape, writeOf]
    rw [done]
    rfl
  have reaches (entry : Entry) := row_reaches entry.row
  exact batch_reaches_all reaches each performed

theorem perform_reaches (operation : Operation) (draft : Draft) :
    Reaches draft (operation.writes draft) (outcome operation.perform draft).2 := by
  cases operation with
  | register name shape =>
      rw [Operation.perform, outcome_answer]
      exact register_reaches name shape draft
  | replace name shape =>
      rw [Operation.perform, outcome_answer]
      exact replace_reaches name shape draft
  | designate name =>
      rw [Operation.perform, outcome_answer]
      exact designate_reaches name draft
  | setStrict strict =>
      rw [Operation.perform, outcome_answer]
      exact .single .setStrict
  | extend rows =>
      rw [Operation.perform, outcome_answer]
      exact batch_reaches row_reaches rows draft
  | change changes =>
      rw [Operation.perform, outcome_answer]
      exact batch_reaches change_reaches changes draft

theorem history_reaches (draft : Draft) (history : List Operation) :
    Reaches draft (draft.writes history) (draft.after history) := by
  induction history generalizing draft with
  | nil => exact .done
  | cons operation rest ih => exact (perform_reaches operation draft).append (ih _)

end OpcodeShapes
