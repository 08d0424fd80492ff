import OpcodeShapes.Registry.Operation

/-!
# Ledgers

The same registry kept the plain way: one list of entries, the name of the
fallback, and no index. Every question is answered by going through the list.
A ledger takes the same operations as a draft and can be finished like one; it
is slow and easy to believe.
-/

namespace OpcodeShapes

set_option autoImplicit false

structure Ledger where
  entries : List Entry := []
  fallback : Option String := none
  strict : Bool := false
  deriving DecidableEq

abbrev Bookkeeping (α : Type) := EStateM RegistryError Ledger α

/-- A finished ledger: its entries and the one that answers for unknown opcodes. -/
structure Book where
  entries : List Entry
  fallback : Shape
  deriving DecidableEq

namespace Ledger

def named? (ledger : Ledger) (name : String) : Option Entry :=
  ledger.entries.find? fun entry => entry.name = name

def holder? (ledger : Ledger) (opcode : String) : Option Entry :=
  ledger.entries.find? fun entry => entry.shape.opcode = opcode

def containsName (ledger : Ledger) (name : String) : Bool := (ledger.named? name).isSome

/-- A strict ledger takes valid shapes only. -/
def accept (name : String) (shape : Shape) : Bookkeeping Unit := do
  if (← get).strict then
    match shape.validate with
    | .ok _ => return
    | .error cause => throw (.invalidShape name cause)

def register (name : String) (shape : Shape) : Bookkeeping Unit := do
  let ledger ← get
  if Text.Blank name then throw .blankName
  if ledger.containsName name then throw (.duplicateName name)
  match ledger.holder? shape.opcode with
  | some holder => throw (.duplicateOpcode shape.opcode holder.name)
  | none =>
    accept name shape
    set ({ ledger with entries := ledger.entries ++ [Entry.mk name shape] } : Ledger)

def reshaped (name : String) (shape : Shape) (entries : List Entry) : List Entry :=
  entries.map fun entry => if entry.name = name then ⟨name, shape⟩ else entry

def replace (name : String) (shape : Shape) : Bookkeeping Shape := do
  let ledger ← get
  match ledger.named? name with
  | none => throw (.unknownName name)
  | some old =>
    match (ledger.holder? shape.opcode).filter fun holder => holder.name ≠ name with
    | some holder => throw (.duplicateOpcode shape.opcode holder.name)
    | none =>
      accept name shape
      set ({ ledger with entries := reshaped name shape ledger.entries } : Ledger)
      return old.shape

def designate (name : String) : Bookkeeping Unit := do
  let ledger ← get
  if ledger.containsName name then set ({ ledger with fallback := some name } : Ledger)
  else throw (.unknownName name)

def setStrict (strict : Bool) : Bookkeeping Unit :=
  modify fun ledger => { ledger with strict := strict }

def registerRow (row : Row) : Bookkeeping Unit :=
  match row.shape with
  | .error cause => throw (.invalidShape row.name cause)
  | .ok shape => register row.name shape

def performChange (change : Change) : Bookkeeping Unit :=
  match change.mode with
  | .add => register change.name change.shape
  | .replace => discard (replace change.name change.shape)

def perform : Operation → Bookkeeping Reply
  | .register name shape => do register name shape; return .done
  | .replace name shape => do return .replaced (← replace name shape)
  | .designate name => do designate name; return .done
  | .setStrict strict => do setStrict strict; return .done
  | .extend rows => do rows.forM registerRow; return .done
  | .change changes => do changes.forM performChange; return .done

def build (ledger : Ledger) : Except RegistryError Book :=
  match ledger.fallback.bind ledger.named? with
  | none => .error .missingFallback
  | some entry =>
    if entry.shape.flags = Flags.hatCap then .ok ⟨ledger.entries, entry.shape⟩
    else .error (.invalidFallback entry.name entry.shape.opcode)

end Ledger

namespace Book

def named (book : Book) (name : String) : Except RegistryError Shape :=
  match book.entries.find? fun entry => entry.name = name with
  | some entry => .ok entry.shape
  | none => .error (.unknownName name)

def findOpcode? (book : Book) (opcode : String) : Option Shape :=
  (book.entries.find? fun entry => entry.shape.opcode = opcode).map Entry.shape

def containsOpcode (book : Book) (opcode : String) : Bool :=
  book.entries.any fun entry => entry.shape.opcode = opcode

def ofOpcode (book : Book) (opcode : String) : Shape :=
  (book.findOpcode? opcode).getD book.fallback

end Book

end OpcodeShapes
