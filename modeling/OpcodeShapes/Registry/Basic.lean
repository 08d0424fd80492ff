import OpcodeShapes.Registry.Draft

/-!
# Registries

A registry is a finished draft. It always has a fallback, which is a hat and a
cap and nothing else, so a block whose opcode nobody knows is never attachable.
Nothing changes a registry; all functions here read it.
-/

namespace OpcodeShapes

set_option autoImplicit false

structure Registry where
  entries : List Entry
  byName : Std.ExtTreeMap String Nat
  byOpcode : Std.ExtTreeMap String Nat
  fallbackAt : Fin entries.length

/-- Finishes a draft. It needs a designated entry with the flags of a fallback at this moment. -/
def Draft.build (draft : Draft) : Except RegistryError Registry :=
  match draft.fallback with
  | none => .error .missingFallback
  | some position =>
    if inside : position < draft.entries.length then
      let entry := draft.entries[position]
      if entry.shape.flags = Flags.hatCap then
        .ok ⟨draft.entries, draft.byName, draft.byOpcode, ⟨position, inside⟩⟩
      else .error (.invalidFallback entry.name entry.shape.opcode)
    else .error .missingFallback

namespace Registry

def size (registry : Registry) : Nat := registry.entries.length

def isEmpty (registry : Registry) : Bool := registry.entries.isEmpty

def shapes (registry : Registry) : List Shape := registry.entries.map Entry.shape

def findName? (registry : Registry) (name : String) : Option Shape := do
  let position ← registry.byName[name]?
  let entry ← registry.entries[position]?
  return entry.shape

def named (registry : Registry) (name : String) : Except RegistryError Shape :=
  match registry.findName? name with
  | some shape => .ok shape
  | none => .error (.unknownName name)

def findOpcode? (registry : Registry) (opcode : String) : Option Shape := do
  let position ← registry.byOpcode[opcode]?
  let entry ← registry.entries[position]?
  return entry.shape

def containsOpcode (registry : Registry) (opcode : String) : Bool :=
  registry.byOpcode.contains opcode

def fallback (registry : Registry) : Shape := registry.entries[registry.fallbackAt].shape

/-- The shape of an opcode; an unknown opcode has the shape of the fallback. -/
def ofOpcode (registry : Registry) (opcode : String) : Shape :=
  (registry.findOpcode? opcode).getD registry.fallback

/-- The texts of a list without repetition, each where it first appears. -/
def firstAppearances : List String → List String
  | [] => []
  | text :: rest => text :: (firstAppearances rest).filter (· ≠ text)

def categories (registry : Registry) : List String :=
  firstAppearances (registry.shapes.map Shape.category)

def inCategory (registry : Registry) (category : String) : List Shape :=
  registry.shapes.filter fun shape => shape.category = category

end Registry

theorem mem_first_appearances (text : String) (texts : List String) :
    text ∈ Registry.firstAppearances texts ↔ text ∈ texts := by
  induction texts with
  | nil => simp [Registry.firstAppearances]
  | cons head rest ih =>
    by_cases h : text = head <;> simp [Registry.firstAppearances, ih, h]

theorem nodup_first_appearances (texts : List String) :
    (Registry.firstAppearances texts).Nodup := by
  induction texts with
  | nil => exact List.nodup_nil
  | cons head rest ih =>
    exact List.nodup_cons.mpr ⟨by simp, ih.filter _⟩

end OpcodeShapes
