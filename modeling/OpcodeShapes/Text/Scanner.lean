/-!
# Scanners

A scanner takes what it understands off the front of a list of characters and
hands on the rest, or fails. Choice tries the second scanner at the place where
the first began. Repetition is bounded by the characters that are left, which
is no bound in practice because every item takes at least one.
-/

namespace OpcodeShapes.Text

set_option autoImplicit false

abbrev Scanner (α : Type) := StateT (List Char) Option α

namespace Scanner

variable {α : Type}

def peek? : Scanner (Option Char) := fun chars => some (chars.head?, chars)

def take? (c : Char) : Scanner Bool := fun chars =>
  match chars with
  | d :: rest => if d = c then some (true, rest) else some (false, chars)
  | [] => some (false, [])

def expect : List Char → Scanner Unit
  | [] => fun chars => some ((), chars)
  | c :: more => fun chars =>
    match chars with
    | d :: rest => if d = c then expect more rest else none
    | [] => none

def run (ofClass : Char → Bool) : Scanner (List Char) := fun chars =>
  some (chars.takeWhile ofClass, chars.dropWhile ofClass)

def whole? (scanner : Scanner α) (text : String) : Option α :=
  match scanner text.toList with
  | some (a, []) => some a
  | _ => none

/-- Items with commas between them, up to and with the closing character. `gap` skips what may
stand around an item. `mayClose` says whether the closing character may come next, as it may at
the start, and after a comma where `trailing` allows it. -/
def itemsTo (gap : Scanner Unit) (item : Scanner α) (close : Char) (trailing : Bool) :
    Nat → Bool → Scanner (List α)
  | 0, _ => failure
  | fuel + 1, mayClose => do
    gap
    if ← (if mayClose then take? close else pure false) then
      return []
    let x ← item
    gap
    if ← take? close then
      return [x]
    expect [',']
    return x :: (← itemsTo gap item close trailing fuel trailing)

def items (gap : Scanner Unit) (item : Scanner α) (close : Char) (trailing : Bool) :
    Scanner (List α) := fun chars =>
  itemsTo gap item close trailing (chars.length + 1) true chars

end Scanner

end OpcodeShapes.Text
