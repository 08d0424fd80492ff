import OpcodeShapes.Shape

/-!
# What a registry refuses

The causes for which an entry, a fallback or a whole registry is refused. Each
carries the name or opcode at fault as it was given.
-/

namespace OpcodeShapes

set_option autoImplicit false

inductive RegistryError where
  /-- The opcode belongs to the entry called `holder`. -/
  | duplicateOpcode (opcode holder : String)
  | duplicateName (name : String)
  | unknownName (name : String)
  | blankName
  | missingFallback
  | invalidFallback (name opcode : String)
  | invalidShape (name : String) (cause : ShapeError)
  deriving DecidableEq, Repr

namespace RegistryError

def message : RegistryError → String
  | .duplicateOpcode opcode holder =>
    "opcode `" ++ opcode ++ "` is already registered as `" ++ holder ++ "`"
  | .duplicateName name => "shape name `" ++ name ++ "` is already registered"
  | .unknownName name => "unknown shape name `" ++ name ++ "`"
  | .blankName => "shape name must not be empty"
  | .missingFallback => "no fallback shape designated"
  | .invalidFallback name opcode =>
    "fallback shape `" ++ name ++ "` (`" ++ opcode ++ "`) must be a hat and a cap with no other flags"
  | .invalidShape name cause => "invalid shape `" ++ name ++ "`: " ++ cause.message

def chain (e : RegistryError) : List String :=
  match e with
  | .invalidShape _ cause => [e.message, cause.message]
  | _ => [e.message]

end RegistryError

end OpcodeShapes
