import OpcodeShapes.Decimal.Layout
import OpcodeShapes.Text.Quoted

/-!
# Values

The trees that configuration files and messages are made of. An object keeps
its members in the order of the document and may repeat a key; whoever reads
one asks for its members in key order, where the last of equal keys counts.
Keys are ordered by code point, which is also the order of their UTF-8 bytes.
-/

namespace OpcodeShapes

set_option autoImplicit false

inductive Value where
  | null
  | bool (b : Bool)
  | integer (n : Int)
  | float (x : Float)
  | string (s : String)
  | list (items : List Value)
  | object (members : List (String × Value))
  deriving Inhabited

/-- Puts a member into a list in key order, over an equal key. -/
def putMember (key : String) (value : Value) : List (String × Value) → List (String × Value)
  | [] => [(key, value)]
  | (k, v) :: rest =>
    if key < k then (key, value) :: (k, v) :: rest
    else if key = k then (key, value) :: rest
    else (k, v) :: putMember key value rest

def inKeyOrder (members : List (String × Value)) : List (String × Value) :=
  members.foldl (fun ordered member => putMember member.1 member.2 ordered) []

mutual

def Value.ordered : Value → Value
  | .list items => .list (orderedItems items)
  | .object members => .object (inKeyOrder (orderedMembers members))
  | v => v

def orderedItems : List Value → List Value
  | [] => []
  | v :: rest => v.ordered :: orderedItems rest

def orderedMembers : List (String × Value) → List (String × Value)
  | [] => []
  | (k, v) :: rest => (k, v.ordered) :: orderedMembers rest

end

/-- How a message names a value that it did not want. -/
def Value.describe (layout : Decimal.Layout) : Value → String
  | .null => "null"
  | .bool b => "boolean `" ++ (if b then "true" else "false") ++ "`"
  | .integer n => "integer `" ++ toString n ++ "`"
  | .float x => "floating point `" ++ layout.text x ++ "`"
  | .string s => "string " ++ Text.quoted s
  | .list _ => "sequence"
  | .object _ => "map"

end OpcodeShapes
