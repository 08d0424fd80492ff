import OpcodeShapes.Value

/-!
# Flags

Seven properties of a block's shape, each with one name. A flag is read from a
text leniently, blanks and case aside and with or without a leading `is_`, and
from a value strictly: only the bare name, or an object that has the name as
its single key and null under it.
-/

namespace OpcodeShapes

set_option autoImplicit false

inductive Flag where
  /-- Sits in a vertical stack of commands. -/
  | stack
  /-- Encloses a nested sequence of blocks. -/
  | cMouth
  /-- Takes nothing below it. -/
  | cap
  /-- Starts a stack; nothing stands above it. -/
  | hat
  | reporter
  /-- Reports one of two values; such a block is a reporter as well. -/
  | boolean
  /-- Only feeds a fixed option into another input. -/
  | menu
  deriving DecidableEq, Repr

namespace Flag

def all : List Flag := [.stack, .cMouth, .cap, .hat, .reporter, .boolean, .menu]

def name : Flag → String
  | .stack => "stack"
  | .cMouth => "c_mouth"
  | .cap => "cap"
  | .hat => "hat"
  | .reporter => "reporter"
  | .boolean => "boolean"
  | .menu => "menu"

def named? (name : String) : Option Flag :=
  all.find? fun flag => flag.name = name

/-- A text that names no flag, as it was given. -/
structure ParseError where
  raw : String
  deriving DecidableEq, Repr

def ParseError.message (e : ParseError) : String :=
  "invalid shape flag '" ++ e.raw ++ "'; expected one of: " ++ Text.quotedList (all.map name)

def withoutIs (word : String) : String :=
  match word.toList with
  | 'i' :: 's' :: '_' :: rest => String.ofList rest
  | _ => word

def parse (text : String) : Except ParseError Flag :=
  match named? (withoutIs (Text.word text)) with
  | some flag => .ok flag
  | none => .error ⟨text⟩

inductive ValueError where
  | unknownName (name : String)
  | severalKeys
  | payload (found : String)
  | kind (found : String)
  deriving DecidableEq, Repr

def ValueError.message : ValueError → String
  | .unknownName name =>
    "unknown variant `" ++ name ++ "`, expected one of " ++
      ", ".intercalate (all.map fun flag => "`" ++ flag.name ++ "`")
  | .severalKeys => "invalid value: map, expected map with a single key"
  | .payload found => "invalid type: " ++ found ++ ", expected unit"
  | .kind found => "invalid type: " ++ found ++ ", expected string or map"

def ofName (name : String) : Except ValueError Flag :=
  match named? name with
  | some flag => .ok flag
  | none => .error (.unknownName name)

def ofValue : Value → Except ValueError Flag
  | .string s => ofName s
  | .object members =>
    match inKeyOrder members with
    | [(key, payload)] => do
      let flag ← ofName key
      match payload with
      | .null => return flag
      | v => throw (.payload (v.describe .compact))
    | _ => .error .severalKeys
  | v => .error (.kind (v.describe .compact))

def toValue (flag : Flag) : Value := .string flag.name

theorem mem_all (flag : Flag) : flag ∈ all := by
  cases flag <;> decide

theorem named_name (flag : Flag) : named? flag.name = some flag := by
  cases flag <;> decide

theorem name_injective {f g : Flag} (h : f.name = g.name) : f = g := by
  have named := named_name f
  rw [h, named_name g] at named
  exact (Option.some.inj named).symm

end Flag

end OpcodeShapes
