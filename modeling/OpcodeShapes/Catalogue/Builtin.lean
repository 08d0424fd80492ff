import OpcodeShapes.Catalogue.Core
import OpcodeShapes.Catalogue.Extension
import OpcodeShapes.Registry.Basic

/-!
# The built-in catalogue

All rows in registration order, the fallback last, and the drafts and the
registry that start from them.
-/

namespace OpcodeShapes.Catalogue

set_option autoImplicit false

def fallbackName : String := "UNDEFINED"

/-- Menus that several categories share, and the fallback. -/
def shared : List Row :=
  [⟨"NOTE", "note", menu⟩,
   ⟨"MATRIX", "matrix", menu⟩,
   ⟨fallbackName, "red_hat_block", Flags.hatCap⟩]

def rows : List Row := core ++ extensions ++ shared

def load : Registration Unit := do
  Draft.extend rows
  Draft.designate fallbackName

def draft (strict : Bool) : Except RegistryError Draft :=
  match load { Draft.empty with strict } with
  | .ok _ draft => .ok draft
  | .error reason _ => .error reason

def registry : Except RegistryError Registry := do
  (← draft false).build

end OpcodeShapes.Catalogue
