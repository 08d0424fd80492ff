import OpcodeShapes.Registry.Basic

/-!
# Scripts of operations

The steps a draft can take, as data, so that whole histories can be talked
about. A history goes on after a refused step with whatever that step left.
-/

namespace OpcodeShapes

set_option autoImplicit false

inductive Operation where
  | register (name : String) (shape : Shape)
  | replace (name : String) (shape : Shape)
  | designate (name : String)
  | setStrict (strict : Bool)
  | extend (rows : List Row)
  | change (changes : List Change)

inductive Reply where
  | done
  | replaced (old : Shape)
  deriving DecidableEq

def Operation.perform : Operation → Registration Reply
  | .register name shape => do Draft.register name shape; return .done
  | .replace name shape => do return .replaced (← Draft.replace name shape)
  | .designate name => do Draft.designate name; return .done
  | .setStrict strict => do Draft.setStrict strict; return .done
  | .extend rows => do Draft.extend rows; return .done
  | .change changes => do Draft.change changes; return .done

namespace Draft

/-- The draft after a history of operations. -/
def after (draft : Draft) (history : List Operation) : Draft :=
  history.foldl (fun draft operation => (outcome operation.perform draft).2) draft

/-- What each operation of a history answers. -/
def answers (draft : Draft) : List Operation → List (Except RegistryError Reply)
  | [] => []
  | operation :: rest =>
    let (answer, next) := outcome operation.perform draft
    answer :: next.answers rest

end Draft

end OpcodeShapes
