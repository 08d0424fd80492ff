import OpcodeShapes.Decimal.Shortest

/-!
# How a number is laid out

The digits of a number are fixed by `Decimal.Shortest`; a layout says how they
are written: from which exponent on without a point in place, and to which of
two equally near decimals a tie goes. Integral numbers always keep one zero
after the point when they are written in place.
-/

namespace OpcodeShapes.Decimal

set_option autoImplicit false

/-- The decisions of one written form. -/
structure Layout where
  /-- Whether a number whose leading digit has this exponent is written in place. -/
  inPlace : Int → Bool
  /-- Whether a tie just above these digits goes up. -/
  tieUp : Nat → Bool

/-- Every number stands in place, however long, and a tie goes away from zero. -/
def Layout.plain : Layout := ⟨fun _ => true, fun _ => true⟩

/-- Numbers from 10^-5 up to 10^16 stand in place, the others have an exponent; a tie goes to the
even digit. -/
def Layout.compact : Layout := ⟨fun e => decide (-5 ≤ e ∧ e < 16), fun d => d % 2 == 1⟩

def inPlaceText (digits : List Char) (exponent : Int) : List Char :=
  match exponent with
  | .ofNat k => digits ++ List.replicate k '0' ++ ['.', '0']
  | .negSucc k =>
    let places := k + 1
    if places < digits.length then
      digits.take (digits.length - places) ++ '.' :: digits.drop (digits.length - places)
    else
      ['0', '.'] ++ List.replicate (places - digits.length) '0' ++ digits

def signedText (e : Int) : List Char :=
  if 0 ≤ e then '+' :: (toString e).toList else (toString e).toList

def exponentText (digits : List Char) (leading : Int) : List Char :=
  let mantissa := match digits with
    | [] => []
    | [d] => [d]
    | d :: rest => d :: '.' :: rest
  mantissa ++ 'e' :: signedText leading

def Layout.magnitude (layout : Layout) (b : Binary) : List Char :=
  let s := (b.shortest layout.tieUp).strip
  let digits := Nat.toDigits 10 s.digits
  let leading := s.exponent + digits.length - 1
  if layout.inPlace leading then inPlaceText digits s.exponent else exponentText digits leading

def sign (negative : Bool) : List Char :=
  if negative then ['-'] else []

/-- The text of a number. Zero keeps its sign, a number that is none has no sign. -/
def Layout.text (layout : Layout) (x : Float) : String :=
  String.ofList <|
    match Parts.ofFloat x with
    | .nan => "NaN".toList
    | .infinity negative => sign negative ++ "inf".toList
    | .zero negative => sign negative ++ "0.0".toList
    | .finite negative b => sign negative ++ layout.magnitude b

end OpcodeShapes.Decimal
