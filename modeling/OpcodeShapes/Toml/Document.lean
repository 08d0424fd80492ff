import OpcodeShapes.Text.Scanner
import OpcodeShapes.Toml.Scalar
import OpcodeShapes.Toml.Table
import OpcodeShapes.Toml.Text

/-!
# Documents of TOML

A document is a sequence of lines: headers and pairs of a key and a value, each
perhaps followed by a comment. Arrays and inline tables go over several lines
and may have comments and a comma at the end. They nest at most 80 deep, and a
dotted key has at most 80 parts. A byte order mark in front is skipped. `read?`
gives the value of a well-formed document and nothing for any other text; where
a text goes wrong is not told.
-/

namespace OpcodeShapes.Toml

set_option autoImplicit false

open Text (Scanner)
open Text.Scanner

def skipped : Bool → List Char → Option (List Char)
  | _, [] => some []
  | false, '\r' :: '\n' :: rest => skipped false rest
  | false, '#' :: rest => skipped true rest
  | false, c :: rest =>
    if isSpace c || c = '\n' then skipped false rest else some (c :: rest)
  | true, '\r' :: '\n' :: rest => skipped false rest
  | true, c :: rest =>
    if c = '\n' then skipped false rest
    else if isPlain c then skipped true rest
    else none

def gap : Scanner Unit := fun chars => (skipped false chars).map fun rest => ((), rest)

def spaces : Scanner Unit := discard (run isSpace)

/-- The end of a line, perhaps with a comment before it; the end of the text will do. -/
def lineEnd : Scanner Unit := do
  spaces
  if ← take? '#' then
    discard (run isPlain)
  match ← peek? with
  | none => return
  | some '\r' => expect ['\r', '\n']
  | some _ => expect ['\n']

def isBareKey (c : Char) : Bool :=
  c.isAlphanum || c = '_' || c = '-'

def quoted : Scanner String := fun chars =>
  (quoted? chars).map fun read => (String.ofList read.1, read.2)

def simpleKey : Scanner String := fun chars =>
  match chars with
  | '"' :: rest => (basic rest).map fun read => (String.ofList read.1, read.2)
  | '\'' :: rest => (literal rest).map fun read => (String.ofList read.1, read.2)
  | _ =>
    let word := chars.takeWhile isBareKey
    if word.isEmpty then none else some (String.ofList word, chars.dropWhile isBareKey)

def keyParts : Nat → Scanner (List String)
  | 0 => failure
  | depth + 1 => do
    spaces
    let part ← simpleKey
    spaces
    if ← take? '.' then
      return part :: (← keyParts depth)
    return [part]

/-- How deep values may nest, and how deep one key may lead. -/
def maxDepth : Nat := 80

def key : Scanner (List String) := keyParts maxDepth

def isScalar (c : Char) : Bool :=
  !(isSpace c || c = '\n' || c = '\r' || c = '#' || c = ',' || c = '=' || c = '[' || c = ']' ||
    c = '\x7b' || c = '\x7d')

/-- Whether a scalar goes on after white space, which it does not with a quote. -/
def goesOn (chars : List Char) : Bool :=
  match chars.dropWhile isSpace with
  | c :: _ => isScalar c && c ≠ '"' && c ≠ '\''
  | [] => false

/-- The run of characters of a scalar and the rest. White space with more of the scalar behind it
belongs to the run. -/
def scalarRun : List Char → List Char × List Char
  | [] => ([], [])
  | c :: rest =>
    if isScalar c || (isSpace c && goesOn rest) then before [c] (scalarRun rest)
    else ([], c :: rest)

def scalar : Scanner Value := fun chars =>
  let (front, rest) := scalarRun chars
  (scalar? front).map fun v => (v, rest)

/-- A key and its value. `around` skips what may stand on either side of the sign between them. -/
def pair (around : Scanner Unit) (value : Scanner Value) : Scanner (List String × Value) := do
  let path ← key
  around
  expect ['=']
  around
  return (path, ← value)

def inlineTable (pairs : List (List String × Value)) : Option Value :=
  (defineAll pairs []).map fun members => .object (memberValues members)

/-- A value whose arrays and inline tables nest at most `depth` deep. -/
def value (depth : Nat) : Scanner Value := do
  match ← peek? with
  | some '"' | some '\'' => return .string (← quoted)
  | some '[' =>
    match depth with
    | 0 => failure
    | depth + 1 =>
      expect ['[']
      return .list (← items gap (value depth) ']' true)
  | some '\x7b' =>
    match depth with
    | 0 => failure
    | depth + 1 =>
      expect ['\x7b']
      inlineTable (← items gap (pair gap (value depth)) '\x7d' true)
  | _ => scalar

inductive Line where
  | blank
  | pair (path : List String) (value : Value)
  | header (isElement : Bool) (path : List String)

def header : Scanner Line := do
  let isElement ← take? '['
  let path ← key
  expect (if isElement then [']', ']'] else [']'])
  return .header isElement path

def line : Scanner Line := do
  spaces
  let read ← (do
    match ← peek? with
    | none | some '\n' | some '\r' | some '#' => return .blank
    | some '[' => expect ['[']; header
    | some _ =>
      let (path, v) ← pair spaces (value maxDepth)
      return .pair path v)
  lineEnd
  return read

/-- The lines up to the end of the text, at most `fuel` of them. -/
def linesTo : Nat → Scanner (List Line)
  | 0 => failure
  | fuel + 1 => do
    if (← peek?).isNone then
      return []
    return (← line) :: (← linesTo fuel)

def lines : Scanner (List Line) := fun chars => linesTo (chars.length + 1) chars

def blocks : List Line → List (List String × Value) × List Block
  | [] => ([], [])
  | .blank :: rest => blocks rest
  | .pair path v :: rest =>
    let (pairs, more) := blocks rest
    ((path, v) :: pairs, more)
  | .header isElement path :: rest =>
    let (pairs, more) := blocks rest
    ([], ⟨isElement, path.dropLast, path.getLast?.getD "", pairs⟩ :: more)

def withoutMark (text : String) : String :=
  match text.toList with
  | '\uFEFF' :: rest => String.ofList rest
  | _ => text

def read? (text : String) : Option Value := do
  let (pairs, headed) := blocks (← whole? lines (withoutMark text))
  tables? pairs headed

end OpcodeShapes.Toml
