import OpcodeShapes.Value

/-!
# Tables of TOML

What may be defined where. A table comes to be in one of three ways: its own
header names it, it lies on the way to the table that a header names, or dotted
keys lead into it. A header may name a table only if the table lies on such a
way so far. A header for an element always begins a new last element of an
array of tables. The way of a header goes through tables of any kind and
through the last elements of arrays of tables.

Dotted keys go through tables that no header named and through the last elements
of arrays of tables, but no key is defined in such an element from outside. The
tables that a dotted key goes through belong to the dotted keys from then on,
and no header may name them any more. No key is defined twice, and what is
written as a value in one piece is closed.
-/

namespace OpcodeShapes.Toml

set_option autoImplicit false

inductive Origin where
  | header
  | implied
  | dotted
  deriving DecidableEq, Repr

/-- What a key can stand for while a document is read. -/
inductive Node where
  | closed (value : Value)
  | table (origin : Origin) (members : List (String × Node))
  /-- An array of tables, the last one first. -/
  | elements (tables : List (List (String × Node)))

abbrev Members := List (String × Node)

def find? (key : String) (members : Members) : Option Node :=
  (members.find? fun member => member.1 = key).map Prod.snd

/-- Puts a node under a key, in the place of the one there or at the end. -/
def put (key : String) (members : Members) (node : Node) : Members :=
  match members with
  | [] => [(key, node)]
  | (k, old) :: rest => if k = key then (k, node) :: rest else (k, old) :: put key rest node

def define (value : Value) : List String → Members → Option Members
  | [], _ => none
  | [key], members =>
    match find? key members with
    | none => some (put key members (.closed value))
    | some _ => none
  | key :: next :: path, members =>
    match find? key members with
    | none => (define value (next :: path) []).map (put key members <| .table .dotted ·)
    | some (.table .header _) => none
    | some (.table _ inner) =>
      (define value (next :: path) inner).map (put key members <| .table .dotted ·)
    | some (.elements (last :: earlier)) =>
      if path.isEmpty then none
      else
        (define value (next :: path) last).map fun last =>
          put key members (.elements (last :: earlier))
    | some _ => none

def defineAll (pairs : List (List String × Value)) (members : Members) : Option Members :=
  pairs.foldlM (fun members pair => define pair.2 pair.1 members) members

/-- Changes the table at the end of the way of a header. -/
def along (change : Members → Option Members) : List String → Members → Option Members
  | [], members => change members
  | key :: way, members =>
    match find? key members with
    | none => (along change way []).map (put key members <| .table .implied ·)
    | some (.table origin inner) =>
      (along change way inner).map (put key members <| .table origin ·)
    | some (.elements (last :: earlier)) =>
      (along change way last).map fun last => put key members (.elements (last :: earlier))
    | _ => none

def openTable (pairs : List (List String × Value)) (key : String) (members : Members) :
    Option Members :=
  match find? key members with
  | none => (defineAll pairs []).map (put key members <| .table .header ·)
  | some (.table .implied inner) =>
    (defineAll pairs inner).map (put key members <| .table .header ·)
  | _ => none

def openElement (pairs : List (List String × Value)) (key : String) (members : Members) :
    Option Members :=
  match find? key members with
  | none => (defineAll pairs []).map fun element => put key members (.elements [element])
  | some (.elements earlier) =>
    (defineAll pairs []).map fun element => put key members (.elements (element :: earlier))
  | _ => none

/-- A header and the keys below it. `way` leads to the table in which `key` is opened. -/
structure Block where
  isElement : Bool
  way : List String
  key : String
  pairs : List (List String × Value)

def Block.define (block : Block) (members : Members) : Option Members :=
  let opened := if block.isElement then openElement else openTable
  along (opened block.pairs block.key) block.way members

mutual

def Node.value : Node → Value
  | .closed v => v
  | .table _ members => .object (memberValues members)
  | .elements tables => .list (tableValues tables).reverse

def memberValues : List (String × Node) → List (String × Value)
  | [] => []
  | (key, node) :: rest => (key, node.value) :: memberValues rest

def tableValues : List (List (String × Node)) → List Value
  | [] => []
  | members :: rest => .object (memberValues members) :: tableValues rest

end

def tables? (pairs : List (List String × Value)) (blocks : List Block) : Option Value := do
  let members ← blocks.foldlM (fun members block => block.define members) (← defineAll pairs [])
  return .object (memberValues members)

end OpcodeShapes.Toml
