import OpcodeShapes.Text.Digits

/-!
# Quoted strings of TOML

Basic strings have escapes and literal strings have none. The forms on one line
end at the first quote. The forms on several lines end at three quotes, up to
two more of which belong to the text; they lose a line break at the start, and
in the basic form a backslash at the end of a line takes all white space after
it away. Line breaks are kept as they are written. Controls other than the tab
are refused everywhere, and a carriage return needs its line feed.
-/

namespace OpcodeShapes.Toml

set_option autoImplicit false

open Text (hexChar?)

def isSpace (c : Char) : Bool := c = ' ' || c = '\t'

def isPlain (c : Char) : Bool :=
  c = '\t' || (decide (0x20 ≤ c.toNat) && c.toNat ≠ 0x7F)

def shortEscape? : Char → Option Char
  | 'b' => some '\x08'
  | 't' => some '\t'
  | 'n' => some '\n'
  | 'f' => some '\x0c'
  | 'r' => some '\r'
  | 'e' => some '\x1b'
  | '"' => some '"'
  | '\\' => some '\\'
  | _ => none

def before (chars : List Char) (read : List Char × List Char) : List Char × List Char :=
  (chars ++ read.1, read.2)

def basic : List Char → Option (List Char × List Char)
  | '"' :: rest => some ([], rest)
  | '\\' :: 'x' :: a :: b :: rest => do
    let c ← hexChar? [a, b]
    return before [c] (← basic rest)
  | '\\' :: 'u' :: a :: b :: c :: d :: rest => do
    let c ← hexChar? [a, b, c, d]
    return before [c] (← basic rest)
  | '\\' :: 'U' :: a :: b :: c :: d :: e :: f :: g :: h :: rest => do
    let c ← hexChar? [a, b, c, d, e, f, g, h]
    return before [c] (← basic rest)
  | '\\' :: e :: rest => do
    let c ← shortEscape? e
    return before [c] (← basic rest)
  | c :: rest => do
    guard (isPlain c && c ≠ '\\')
    return before [c] (← basic rest)
  | [] => none

def literal : List Char → Option (List Char × List Char)
  | '\'' :: rest => some ([], rest)
  | c :: rest => do
    guard (isPlain c)
    return before [c] (← literal rest)
  | [] => none

def withoutBreak (chars : List Char) : List Char :=
  match chars with
  | '\n' :: rest => rest
  | '\r' :: '\n' :: rest => rest
  | _ => chars

def endsLine (chars : List Char) : Bool :=
  match chars.dropWhile isSpace with
  | '\n' :: _ => true
  | '\r' :: '\n' :: _ => true
  | _ => false

/-- A basic string on several lines, after its quotes. `skipping` says that a backslash has taken
the white space away up to here. -/
def longBasic : Bool → List Char → Option (List Char × List Char)
  | _, '"' :: '"' :: '"' :: '"' :: '"' :: rest => some (['"', '"'], rest)
  | _, '"' :: '"' :: '"' :: '"' :: rest => some (['"'], rest)
  | _, '"' :: '"' :: '"' :: rest => some ([], rest)
  | _, '\\' :: 'x' :: a :: b :: rest => do
    let c ← hexChar? [a, b]
    return before [c] (← longBasic false rest)
  | _, '\\' :: 'u' :: a :: b :: c :: d :: rest => do
    let c ← hexChar? [a, b, c, d]
    return before [c] (← longBasic false rest)
  | _, '\\' :: 'U' :: a :: b :: c :: d :: e :: f :: g :: h :: rest => do
    let c ← hexChar? [a, b, c, d, e, f, g, h]
    return before [c] (← longBasic false rest)
  | _, '\\' :: e :: rest =>
    if endsLine (e :: rest) then
      longBasic true rest
    else do
      let c ← shortEscape? e
      return before [c] (← longBasic false rest)
  | skipping, '\r' :: '\n' :: rest => do
    if skipping then longBasic true rest
    else return before ['\r', '\n'] (← longBasic false rest)
  | skipping, c :: rest => do
    if skipping && (isSpace c || c = '\n') then longBasic true rest
    else do
      guard ((isPlain c || c = '\n') && c ≠ '\\')
      return before [c] (← longBasic false rest)
  | _, [] => none

def longLiteral : List Char → Option (List Char × List Char)
  | '\'' :: '\'' :: '\'' :: '\'' :: '\'' :: rest => some (['\'', '\''], rest)
  | '\'' :: '\'' :: '\'' :: '\'' :: rest => some (['\''], rest)
  | '\'' :: '\'' :: '\'' :: rest => some ([], rest)
  | '\r' :: '\n' :: rest => do return before ['\r', '\n'] (← longLiteral rest)
  | c :: rest => do
    guard (isPlain c || c = '\n')
    return before [c] (← longLiteral rest)
  | [] => none

def quoted? (chars : List Char) : Option (List Char × List Char) :=
  match chars with
  | '"' :: '"' :: '"' :: rest => longBasic false (withoutBreak rest)
  | '"' :: rest => basic rest
  | '\'' :: '\'' :: '\'' :: rest => longLiteral (withoutBreak rest)
  | '\'' :: rest => literal rest
  | _ => none

end OpcodeShapes.Toml
