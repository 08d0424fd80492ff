import OpcodeShapes.Catalogue.Builtin

/-!
# The shared registry

One cell for a whole process, empty at first and set at most once: by the first
registry that is installed, or by the first use, which puts the built-in one
there. Whoever comes later with another registry gets it back.
-/

namespace OpcodeShapes

set_option autoImplicit false

structure SharedRegistry where
  registry : Option Registry := none

namespace SharedRegistry

/-- Sets the cell if it is empty; otherwise the argument comes back. -/
def install (registry : Registry) : EStateM Registry SharedRegistry Unit := do
  match (← get).registry with
  | some _ => throw registry
  | none => set (SharedRegistry.mk registry)

/-- The registry of the process. It fails only if the built-in catalogue does not build. -/
def current : EStateM RegistryError SharedRegistry Registry := do
  match (← get).registry with
  | some registry => return registry
  | none =>
    match Catalogue.registry with
    | .error reason => throw reason
    | .ok registry => do
      set (SharedRegistry.mk registry)
      return registry

end SharedRegistry

end OpcodeShapes
