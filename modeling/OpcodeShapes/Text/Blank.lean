/-!
# Blank characters and plain words

A character is blank when it has the Unicode property `White_Space`: 25 code
points in ten ranges. The zero width space, the byte order mark and the
separators U+001C to U+001F are not blank. Letters are lowered one by one and
only if they are ASCII, so a text that only folds to ASCII in a wider case map
never spells an ASCII word. Nothing is normalized.
-/

namespace OpcodeShapes.Text

set_option autoImplicit false

/-- First and last code point of each range of `White_Space`. -/
def blankRanges : List (Nat × Nat) :=
  [(0x0009, 0x000D), (0x0020, 0x0020), (0x0085, 0x0085), (0x00A0, 0x00A0), (0x1680, 0x1680),
   (0x2000, 0x200A), (0x2028, 0x2029), (0x202F, 0x202F), (0x205F, 0x205F), (0x3000, 0x3000)]

def inRanges (ranges : List (Nat × Nat)) (code : Nat) : Bool :=
  ranges.any fun range => decide (range.1 ≤ code) && decide (code ≤ range.2)

def isBlank (c : Char) : Bool :=
  inRanges blankRanges c.toNat

/-- A text is blank when every character of it is, as in the empty text. -/
def Blank (text : String) : Prop :=
  ∀ c ∈ text.toList, isBlank c = true

instance (text : String) : Decidable (Blank text) :=
  decidable_of_iff (text.toList.all isBlank = true) List.all_eq_true

def trimmed (chars : List Char) : List Char :=
  ((chars.dropWhile isBlank).reverse.dropWhile isBlank).reverse

/-- The word a text spells: without the blanks around it and in lower-case ASCII letters. -/
def word (text : String) : String :=
  String.ofList ((trimmed text.toList).map Char.toLower)

theorem drop_blanks_eq_nil_iff (chars : List Char) :
    chars.dropWhile isBlank = [] ↔ ∀ c ∈ chars, isBlank c = true := by
  induction chars with
  | nil => simp
  | cons c rest ih => by_cases h : isBlank c = true <;> simp [h, ih]

end OpcodeShapes.Text
