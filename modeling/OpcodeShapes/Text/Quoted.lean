import OpcodeShapes.Text.Hidden

/-!
# Quoted text

The form in which a message shows a text: between double quotes, with the
quote, the backslash and four controls by their short escapes, and every other
hidden character by its code point in hexadecimal. The single quote stands for
itself. This form is for a reader; nothing here reads it back.
-/

namespace OpcodeShapes.Text

set_option autoImplicit false

def quotedChar (c : Char) : List Char :=
  match c with
  | '"' => ['\\', '"']
  | '\\' => ['\\', '\\']
  | '\n' => ['\\', 'n']
  | '\r' => ['\\', 'r']
  | '\t' => ['\\', 't']
  | '\x00' => ['\\', '0']
  | c =>
    if isHidden c then
      ['\\', 'u', '\x7b'] ++ Nat.toDigits 16 c.toNat ++ ['\x7d']
    else [c]

def quoted (text : String) : String :=
  String.ofList (['"'] ++ text.toList.flatMap quotedChar ++ ['"'])

def quotedList (texts : List String) : String :=
  "[" ++ ", ".intercalate (texts.map quoted) ++ "]"

end OpcodeShapes.Text
