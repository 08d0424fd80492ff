import OpcodeShapes.Config.Error
import OpcodeShapes.Registry.Draft

/-!
# Decoding a configuration

A configuration is a record with settings and a list of shapes. Each record is
an object, whose keys are visited in key order, or a list of its fields in the
order of declaration, which may end early. The first fault met is the one
reported; a field is missed only after everything present has been read, and
the name and the opcode of a shape are checked only after that.
-/

namespace OpcodeShapes

set_option autoImplicit false

/-- A catalogue's settings and the changes that make it. -/
structure Config where
  strict : Bool := false
  shapes : List Change := []
  deriving DecidableEq

namespace Config

/-- In what two sources of values differ. -/
structure Dialect where
  /-- How a message writes a number. -/
  layout : Decimal.Layout
  /-- Whether a list with more items than the record has fields is refused. -/
  refusesSurplus : Bool

def Dialect.json : Dialect := ⟨.compact, true⟩

def Dialect.toml : Dialect := ⟨.plain, false⟩

def Dialect.wrongType (dialect : Dialect) (found : Value) (wanted : Wanted) : DecodeError :=
  .invalidType (found.describe dialect.layout) wanted

def readText (dialect : Dialect) : Value → Except DecodeError String
  | .string s => .ok s
  | v => .error (dialect.wrongType v .string)

def readBool (dialect : Dialect) : Value → Except DecodeError Bool
  | .bool b => .ok b
  | v => .error (dialect.wrongType v .boolean)

def readTrilean (v : Value) : Except DecodeError Trilean :=
  (Trilean.ofValue v).mapError .trilean

/-- A record: its fields in the order of declaration, their keys, and how one is read. -/
structure Record (Field Raw : Type) where
  wanted : Wanted
  fields : List Field
  key : Field → String
  read : Raw → Field → Value → Except DecodeError Raw

namespace Record

variable {Field Raw : Type}

def field? (record : Record Field Raw) (key : String) : Option Field :=
  record.fields.find? fun field => record.key field = key

/-- Reads one member of the keyed form. An unknown key is refused without a look at its value. -/
def readMember (record : Record Field Raw) (raw : Raw) (member : String × Value) :
    Except DecodeError Raw :=
  match record.field? member.1 with
  | some field => record.read raw field member.2
  | none => .error (.unknownField member.1 (record.fields.map record.key))

def readMembers (record : Record Field Raw) (raw : Raw) (members : List (String × Value)) :
    Except DecodeError Raw :=
  members.foldlM record.readMember raw

def readItems (record : Record Field Raw) (raw : Raw) (items : List Value) :
    Except DecodeError Raw :=
  (record.fields.zip items).foldlM (fun raw pair => record.read raw pair.1 pair.2) raw

def checkLength (record : Record Field Raw) (dialect : Dialect) (items : List Value) :
    Except DecodeError Unit :=
  if dialect.refusesSurplus && record.fields.length < items.length then
    .error (.tooLong items.length)
  else .ok ()

/-- Reads a record none of whose fields is required. -/
def decode (record : Record Field Raw) (dialect : Dialect) (start : Raw) :
    Value → Except DecodeError Raw
  | .object members => record.readMembers start (inKeyOrder members)
  | .list items => do
    let raw ← record.readItems start items
    record.checkLength dialect items
    return raw
  | v => .error (dialect.wrongType v record.wanted)

end Record

inductive ShapeField where
  | name
  | opcode
  | flag (flag : Flag)
  | replace
  deriving DecidableEq, Repr

def ShapeField.all : List ShapeField :=
  [.name, .opcode] ++ Flag.all.map .flag ++ [.replace]

def ShapeField.key : ShapeField → String
  | .name => "name"
  | .opcode => "opcode"
  | .flag f => f.name
  | .replace => "replace"

/-- What has been read of a shape so far. -/
structure RawShape where
  name : Option String := none
  opcode : Option String := none
  flags : Flags := {}
  replace : Bool := false

def RawShape.read (dialect : Dialect) (raw : RawShape) (field : ShapeField) (v : Value) :
    Except DecodeError RawShape :=
  match field with
  | .name => do return { raw with name := some (← readText dialect v) }
  | .opcode => do return { raw with opcode := some (← readText dialect v) }
  | .flag f => do return { raw with flags := raw.flags.set f (← readTrilean v) }
  | .replace => do return { raw with replace := ← readBool dialect v }

def shapeRecord (dialect : Dialect) : Record ShapeField RawShape :=
  ⟨.shape, ShapeField.all, ShapeField.key, RawShape.read dialect⟩

def RawShape.change (raw : RawShape) (name opcode : String) : Except DecodeError Change :=
  if Text.Blank name then .error .blankName
  else
    match Shape.make opcode raw.flags with
    | .error cause => .error (.invalidShape name cause)
    | .ok shape => .ok ⟨name, shape, if raw.replace then .replace else .add⟩

def RawShape.ofMembers (raw : RawShape) : Except DecodeError Change :=
  match raw.name, raw.opcode with
  | none, _ => .error (.missingField ShapeField.name.key)
  | some _, none => .error (.missingField ShapeField.opcode.key)
  | some name, some opcode => raw.change name opcode

def decodeShape (dialect : Dialect) : Value → Except DecodeError Change
  | .object members => do
    ((← (shapeRecord dialect).readMembers {} (inKeyOrder members))).ofMembers
  | .list items => do
    let raw ← (shapeRecord dialect).readItems {} items
    match raw.name, raw.opcode with
    | some name, some opcode => do
      (shapeRecord dialect).checkLength dialect items
      raw.change name opcode
    | _, _ => .error (.tooShort items.length)
  | v => .error (dialect.wrongType v .shape)

def decodeShapes (dialect : Dialect) : Value → Except DecodeError (List Change)
  | .list items => items.mapM (decodeShape dialect)
  | v => .error (dialect.wrongType v .sequence)

def settingsRecord (dialect : Dialect) : Record Unit Bool :=
  ⟨.settings, [()], fun _ => "strict", fun _ _ v => readBool dialect v⟩

def decodeSettings (dialect : Dialect) (v : Value) : Except DecodeError Bool :=
  (settingsRecord dialect).decode dialect false v

inductive Section where
  | registry
  | shapes
  deriving DecidableEq, Repr

def Section.key : Section → String
  | .registry => "registry"
  | .shapes => "shapes"

def readSection (dialect : Dialect) (config : Config) (part : Section) (v : Value) :
    Except DecodeError Config :=
  match part with
  | .registry => do return { config with strict := ← decodeSettings dialect v }
  | .shapes => do return { config with shapes := ← decodeShapes dialect v }

def configRecord (dialect : Dialect) : Record Section Config :=
  ⟨.config, [.registry, .shapes], Section.key, readSection dialect⟩

def decode (dialect : Dialect) (v : Value) : Except DecodeError Config :=
  (configRecord dialect).decode dialect {} v

end Config

end OpcodeShapes
