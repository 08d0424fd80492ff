import OpcodeShapes.Toml.Scalar

/-!
# Sound documents

A well-formed document can still hold what stands for nothing: a number without
a value, or a table that is marked as a date by the reserved key and has none
there. The mark counts where it is the first key of the table in key order, and
then the other keys of the table do not. The document itself is never a date.
-/

namespace OpcodeShapes.Toml

set_option autoImplicit false

/-- What a table has under the reserved key, if no other key comes first. -/
def marked? (members : List (String × Value)) : Option Value :=
  if members.all fun member => !decide (member.1 < dateTimeKey) then
    (members.find? fun member => member.1 = dateTimeKey).map Prod.snd
  else none

def holdsDateTime : Value → Bool
  | .string s => isDateTime s.toList
  | _ => false

mutual

def isSound : Value → Bool
  | .null => false
  | .list items => allSound items
  | .object members =>
    match marked? members with
    | some v => holdsDateTime v
    | none => membersSound members
  | _ => true

def allSound : List Value → Bool
  | [] => true
  | v :: rest => isSound v && allSound rest

def membersSound : List (String × Value) → Bool
  | [] => true
  | (_, v) :: rest => isSound v && membersSound rest

end

def isSoundDocument : Value → Bool
  | .object members => membersSound members
  | v => isSound v

end OpcodeShapes.Toml
