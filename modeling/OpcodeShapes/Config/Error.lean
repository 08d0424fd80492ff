import OpcodeShapes.Shape

/-!
# Why a value is no configuration

The causes a decoder reports, and how they read. What was found is kept as the
words that describe it, because those words differ between documents.
-/

namespace OpcodeShapes.Config

set_option autoImplicit false

/-- What stood to be read. -/
inductive Wanted where
  | string
  | boolean
  | sequence
  | config
  | settings
  | shape
  deriving DecidableEq, Repr

def Wanted.text : Wanted → String
  | .string => "a string"
  | .boolean => "a boolean"
  | .sequence => "a sequence"
  | .config => "struct BlockshapeConfig"
  | .settings => "struct RegistrySettings"
  | .shape => "struct RawShapeEntry"

inductive DecodeError where
  | unknownField (key : String) (known : List String)
  | missingField (key : String)
  | invalidType (found : String) (wanted : Wanted)
  /-- A shape written as a list ends before its opcode. -/
  | tooShort (length : Nat)
  /-- A record written as a list goes on after its last field. -/
  | tooLong (length : Nat)
  | trilean (cause : Trilean.ValueError)
  | blankName
  | invalidShape (name : String) (cause : ShapeError)
  deriving DecidableEq, Repr

def oneOf (keys : List String) : String :=
  match keys.map fun key => "`" ++ key ++ "`" with
  | [] => "there are no fields"
  | [a] => "expected " ++ a
  | [a, b] => "expected " ++ a ++ " or " ++ b
  | quoted => "expected one of " ++ ", ".intercalate quoted

def DecodeError.message : DecodeError → String
  | .unknownField key known => "unknown field `" ++ key ++ "`, " ++ oneOf known
  | .missingField key => "missing field `" ++ key ++ "`"
  | .invalidType found wanted => "invalid type: " ++ found ++ ", expected " ++ wanted.text
  | .tooShort length =>
    "invalid length " ++ toString length ++ ", expected " ++ Wanted.shape.text ++ " with 10 elements"
  | .tooLong length =>
    "invalid length " ++ toString length ++ ", expected fewer elements in array"
  | .trilean cause => cause.message
  | .blankName => "shape name must not be empty"
  | .invalidShape name cause => "shape `" ++ name ++ "`: " ++ cause.message

end OpcodeShapes.Config
