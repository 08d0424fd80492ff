import OpcodeShapes.Flag

/-!
# Three truth values

A property of a shape is there, is not there, or cannot be told without more
context. The third value never turns into one of the other two on its own:
whoever wants a boolean gets an error instead. Negation is Kleene's.

In a document the determinate values are booleans and the third one is a word.
Reading also takes a word for each of the three, blanks and case aside.
-/

namespace OpcodeShapes

set_option autoImplicit false

inductive Trilean where
  | no
  | yes
  | indeterminate
  deriving DecidableEq, Repr, Inhabited

/-- A boolean was wanted of an indeterminate value, perhaps the value of a known flag. -/
structure Indeterminate where
  flag : Option Flag
  deriving DecidableEq, Repr

def Indeterminate.message (e : Indeterminate) : String :=
  match e.flag with
  | none => "indeterminate value cannot be collapsed to a boolean"
  | some flag => "`" ++ flag.name ++ "` is indeterminate and cannot be collapsed to a boolean"

namespace Trilean

def ofBool (b : Bool) : Trilean := if b then .yes else .no

def toBool : Trilean → Except Indeterminate Bool
  | .yes => .ok true
  | .no => .ok false
  | .indeterminate => .error ⟨none⟩

def toBool? : Trilean → Option Bool
  | .yes => some true
  | .no => some false
  | .indeterminate => none

def not : Trilean → Trilean
  | .yes => .no
  | .no => .yes
  | .indeterminate => .indeterminate

def text : Trilean → String
  | .yes => "true"
  | .no => "false"
  | .indeterminate => "indeterminate"

def all : List Trilean := [.yes, .no, .indeterminate]

structure ParseError where
  raw : String
  deriving DecidableEq, Repr

def ParseError.message (e : ParseError) : String :=
  "invalid tri-state value '" ++ e.raw ++ "'; expected one of: " ++ Text.quotedList (all.map text)

def parse (text : String) : Except ParseError Trilean :=
  match all.find? fun t => t.text = Text.word text with
  | some t => .ok t
  | none => .error ⟨text⟩

/-- Why a value is no trilean: a wrong word, or a value of another kind. -/
inductive ValueError where
  | word (cause : ParseError)
  | kind
  deriving DecidableEq, Repr

def ValueError.message : ValueError → String
  | .word cause => cause.message
  | .kind => "data did not match any variant of untagged enum RawTriState"

def ofValue : Value → Except ValueError Trilean
  | .bool b => .ok (ofBool b)
  | .string s => (parse s).mapError .word
  | _ => .error .kind

def toValue (t : Trilean) : Value :=
  match t.toBool? with
  | some b => .bool b
  | none => .string t.text

theorem of_value_to_value (t : Trilean) : ofValue t.toValue = .ok t := by
  cases t <;> rfl

end Trilean

end OpcodeShapes
