import OpcodeShapes.Registry.Error
import Std.Data.ExtTreeMap

/-!
# A registry in the making

A draft holds its entries in the order in which they were registered, and two
indexes into them, by name and by opcode. Every step first looks for a reason
to refuse and writes only if there is none, so what a refused step leaves
behind is what it found. A batch is its steps one after another: it stops at
the first refusal and keeps what was done before.

The operations are total on every draft, also on one whose indexes are out of
step with its entries. No operation produces such a draft.
-/

namespace OpcodeShapes

set_option autoImplicit false

structure Entry where
  name : String
  shape : Shape
  deriving DecidableEq

structure Draft where
  entries : List Entry := []
  byName : Std.ExtTreeMap String Nat := ∅
  byOpcode : Std.ExtTreeMap String Nat := ∅
  /-- The position of the designated fallback. -/
  fallback : Option Nat := none
  /-- Whether shapes are validated before they are written. -/
  strict : Bool := false

/-- A step on a draft. A step that fails leaves a draft behind too. -/
abbrev Registration (α : Type) := EStateM RegistryError Draft α

namespace Draft

def empty : Draft := {}

/-- The position and the shape registered under a name. -/
def find? (draft : Draft) (name : String) : Option (Nat × Shape) := do
  let position ← draft.byName[name]?
  let entry ← draft.entries[position]?
  return (position, entry.shape)

/-- The position and the name of the entry that has an opcode. -/
def holder? (draft : Draft) (opcode : String) : Option (Nat × String) := do
  let position ← draft.byOpcode[opcode]?
  let entry ← draft.entries[position]?
  return (position, entry.name)

def containsName (draft : Draft) (name : String) : Bool :=
  draft.byName.contains name

def invalid? (draft : Draft) (name : String) (shape : Shape) : Option RegistryError :=
  if draft.strict then
    match shape.validate with
    | .ok _ => none
    | .error cause => some (.invalidShape name cause)
  else none

/-- The first reason not to register a shape under a name. -/
def refusesNew? (draft : Draft) (name : String) (shape : Shape) : Option RegistryError :=
  if Text.Blank name then some .blankName
  else if draft.containsName name then some (.duplicateName name)
  else
    match draft.holder? shape.opcode with
    | some (_, holder) => some (.duplicateOpcode shape.opcode holder)
    | none => draft.invalid? name shape

/-- The first reason not to put a shape in the place of the one at a position. -/
def refusesSwap? (draft : Draft) (position : Nat) (name : String) (shape : Shape) :
    Option RegistryError :=
  match draft.holder? shape.opcode with
  | some (other, holder) =>
    if other = position then draft.invalid? name shape
    else some (.duplicateOpcode shape.opcode holder)
  | none => draft.invalid? name shape

def append (draft : Draft) (name : String) (shape : Shape) : Draft :=
  let position := draft.entries.length
  { draft with
    entries := draft.entries ++ [⟨name, shape⟩]
    byName := draft.byName.insert name position
    byOpcode := draft.byOpcode.insert shape.opcode position }

/-- Puts a shape in the place of `old` and moves the opcode index along. -/
def swap (draft : Draft) (position : Nat) (old new : Shape) : Draft :=
  { draft with
    entries := draft.entries.modify position fun entry => { entry with shape := new }
    byOpcode := (draft.byOpcode.erase old.opcode).insert new.opcode position }

def register (name : String) (shape : Shape) : Registration Unit := do
  let draft ← get
  match draft.refusesNew? name shape with
  | some reason => throw reason
  | none => set (draft.append name shape)

/-- Puts another shape under a known name, at the same position, and gives back the old one. -/
def replace (name : String) (shape : Shape) : Registration Shape := do
  let draft ← get
  match draft.find? name with
  | none => throw (.unknownName name)
  | some (position, old) =>
    match draft.refusesSwap? position name shape with
    | some reason => throw reason
    | none => do
      set (draft.swap position old shape)
      return old

/-- Makes the entry of a name the one that answers for unknown opcodes. -/
def designate (name : String) : Registration Unit := do
  let draft ← get
  match draft.find? name with
  | none => throw (.unknownName name)
  | some (position, _) => set { draft with fallback := some position }

def setStrict (strict : Bool) : Registration Unit :=
  modify fun draft => { draft with strict := strict }

end Draft

/-- An entry that nothing has checked yet. -/
structure Row where
  name : String
  opcode : String
  flags : Flags
  deriving DecidableEq, Repr

namespace Row

def shape (row : Row) : Except ShapeError Shape := Shape.make row.opcode row.flags

/-- Registers one row. A blank opcode is found before the name is looked at. -/
def register (row : Row) : Registration Unit :=
  match row.shape with
  | .error cause => throw (.invalidShape row.name cause)
  | .ok shape => Draft.register row.name shape

end Row

/-- Whether a change brings a new name or gives a known one another shape. -/
inductive ChangeMode where
  | add
  | replace
  deriving DecidableEq, Repr

structure Change where
  name : String
  shape : Shape
  mode : ChangeMode
  deriving DecidableEq

def Change.perform (change : Change) : Registration Unit :=
  match change.mode with
  | .add => Draft.register change.name change.shape
  | .replace => discard (Draft.replace change.name change.shape)

namespace Draft

def extend (rows : List Row) : Registration Unit := rows.forM Row.register

def change (changes : List Change) : Registration Unit := changes.forM Change.perform

end Draft

/-- What a step answers and the state it leaves. -/
def outcome {Reason State Answer : Type} (step : EStateM Reason State Answer) (state : State) :
    Except Reason Answer × State :=
  match step state with
  | .ok answer after => (.ok answer, after)
  | .error reason after => (.error reason, after)

section Outcome

variable {Reason State Answer Other : Type}

@[simp]
theorem outcome_pure (answer : Answer) (state : State) :
    outcome (pure answer : EStateM Reason State Answer) state = (.ok answer, state) := rfl

@[simp]
theorem outcome_get (state : State) :
    outcome (get : EStateM Reason State State) state = (.ok state, state) := rfl

/-- A refused step ends what follows it; an answer is handed on with the state it left. -/
theorem outcome_bind (step : EStateM Reason State Answer) (next : Answer → EStateM Reason State Other)
    (state : State) :
    outcome (step >>= next) state =
      match outcome step state with
      | (.ok answer, after) => outcome (next answer) after
      | (.error reason, after) => (.error reason, after) := by
  simp only [outcome, bind, EStateM.bind]
  cases step state <;> rfl

theorem outcome_map (f : Answer → Other) (step : EStateM Reason State Answer) (state : State) :
    outcome (f <$> step) state = ((outcome step state).1.map f, (outcome step state).2) := by
  simp only [outcome, Functor.map, EStateM.map]
  cases step state <;> rfl

theorem outcome_adapt_except (told : Reason → Other) (step : EStateM Reason State Answer)
    (state : State) :
    outcome (step.adaptExcept told) state =
      ((outcome step state).1.mapError told, (outcome step state).2) := by
  simp only [outcome, EStateM.adaptExcept]
  cases step state <;> rfl

theorem outcome_of_except (answer : Except Reason Answer) (state : State) :
    outcome (MonadExcept.ofExcept answer : EStateM Reason State Answer) state = (answer, state) := by
  cases answer <;> rfl

theorem outcome_answer (step : EStateM Reason State Answer) (f : Answer → Other) (state : State) :
    outcome (step >>= fun answer => pure (f answer)) state =
      ((outcome step state).1.map f, (outcome step state).2) := by
  rw [outcome_bind]
  rcases outcome step state with ⟨reason | answer, after⟩ <;> rfl

end Outcome

end OpcodeShapes
