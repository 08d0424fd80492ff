import OpcodeShapes.Value

/-!
# Writing JSON

The compact form: no white space, members in the order of the object, and in a
string only the quote, the backslash and the controls below U+0020 escaped,
five of them by a letter and the others by four lower-case hexadecimal digits.
So no written text holds a control below U+0020, a line break included.
-/

namespace OpcodeShapes.Json

set_option autoImplicit false

def hexDigit (n : Nat) : Char :=
  if n < 10 then Char.ofNat (48 + n) else Char.ofNat (87 + n)

def escaped (c : Char) : List Char :=
  if c = '"' then ['\\', '"']
  else if c = '\\' then ['\\', '\\']
  else if c = '\x08' then ['\\', 'b']
  else if c = '\x0c' then ['\\', 'f']
  else if c = '\n' then ['\\', 'n']
  else if c = '\r' then ['\\', 'r']
  else if c = '\t' then ['\\', 't']
  else if c.toNat < 0x20 then
    ['\\', 'u', '0', '0', hexDigit (c.toNat / 16), hexDigit (c.toNat % 16)]
  else [c]

def stringText (s : String) : List Char :=
  '"' :: s.toList.flatMap escaped ++ ['"']

mutual

def characters : Value → List Char
  | .null => "null".toList
  | .bool b => if b then "true".toList else "false".toList
  | .integer n => (toString n).toList
  | .float x => (Decimal.Layout.compact.text x).toList
  | .string s => stringText s
  | .list items => '[' :: itemsText items ++ [']']
  | .object members => '\x7b' :: membersText members ++ ['\x7d']

def itemsText : List Value → List Char
  | [] => []
  | [v] => characters v
  | v :: rest => characters v ++ ',' :: itemsText rest

def membersText : List (String × Value) → List Char
  | [] => []
  | [(k, v)] => stringText k ++ ':' :: characters v
  | (k, v) :: rest => stringText k ++ ':' :: characters v ++ ',' :: membersText rest

end

def print (v : Value) : String := String.ofList (characters v)

end OpcodeShapes.Json
