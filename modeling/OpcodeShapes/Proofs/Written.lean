import OpcodeShapes.Json.Printer
import OpcodeShapes.Json.Reader
import Mathlib.Data.Option.Basic
import Mathlib.Tactic.SplitIfs

/-!
# Written JSON is read back

A scanner reads a text if it takes all of it, whatever stands behind it. That is
put together the way scanners are, so a value is read back because its parts
are. Only spaces and the choice of a kind of value look at what comes next, and
for them it is enough that no value begins with a space or a bracket that
closes. Numbers are left out: a binary64 number has several spellings, and
what it is read back as is a matter of rounding. Written text holds no control
below U+0020, so it has no line break.
-/

namespace OpcodeShapes.Json

set_option autoImplicit false

open Text (Scanner isDigitOf numberIn)
open Text.Scanner

variable {α β : Type}

/-- A scanner takes all of a text, whatever stands behind it. -/
def Reads (scanner : Scanner α) (text : List Char) (answer : α) : Prop :=
  ∀ rest, scanner (text ++ rest) = some (answer, rest)

namespace Reads

theorem pure (answer : α) : Reads (pure answer) [] answer := by
  intro rest
  rfl

theorem bind {first : Scanner α} {next : α → Scanner β} {text more : List Char} {a : α} {b : β}
    (reads : Reads first text a) (continues : Reads (next a) more b) :
    Reads (first >>= next) (text ++ more) b := by
  intro rest
  rw [List.append_assoc]
  change (first (text ++ (more ++ rest))).bind (fun found => next found.1 found.2) = _
  rw [reads]
  exact continues rest

theorem returns {first : Scanner α} {text : List Char} {a : α} (make : α → β)
    (reads : Reads first text a) : Reads (do return make (← first)) text (make a) := by
  intro rest
  change (first (text ++ rest)).bind (fun found => some (make found.1, found.2)) = _
  rw [reads]
  rfl

theorem after {first : Scanner α} {next : α → Scanner β} {text : List Char} {a : α} {b : β}
    (looks : ∀ rest, first (text ++ rest) = some (a, text ++ rest))
    (continues : Reads (next a) text b) : Reads (first >>= next) text b := by
  intro rest
  change (first (text ++ rest)).bind (fun found => next found.1 found.2) = _
  rw [looks]
  exact continues rest

theorem expect (text : List Char) : Reads (expect text) text () := by
  intro rest
  induction text with
  | nil => rfl
  | cons c text ih =>
      rw [Text.Scanner.expect, List.cons_append]
      simpa using ih

theorem take (c : Char) : Reads (take? c) [c] true := by
  intro rest
  simp [take?]

end Reads

theorem peek_looks (c : Char) (text rest : List Char) :
    peek? (c :: text ++ rest) = some (some c, c :: text ++ rest) := rfl

theorem take_looks {c d : Char} (other : c ≠ d) (text rest : List Char) :
    take? d (c :: text ++ rest) = some (false, c :: text ++ rest) := by
  simp [take?, other]

theorem gap_looks {c : Char} (solid : isSpace c = false) (text rest : List Char) :
    gap (c :: text ++ rest) = some ((), c :: text ++ rest) := by
  simp [gap, solid]

def separated (write : α → List Char) : List α → List Char
  | [] => []
  | [a] => write a
  | a :: rest => write a ++ ',' :: separated write rest

theorem items_text_eq (items : List Value) : itemsText items = separated characters items := by
  induction items with
  | nil => rfl
  | cons v rest ih =>
      cases rest with
      | nil => rfl
      | cons w rest => rw [itemsText, separated, ih] <;> simp

def memberText (member : String × Value) : List Char :=
  stringText member.1 ++ ':' :: characters member.2

theorem members_text_eq (members : List (String × Value)) :
    membersText members = separated memberText members := by
  induction members with
  | nil => rfl
  | cons member rest ih =>
      cases rest with
      | nil => rfl
      | cons other rest => rw [membersText, separated, ih, memberText] <;> simp

/-- A text whose first character is no space and does not close a list. -/
def Opens (close : Char) (text : List Char) : Prop :=
  ∃ first more, text = first :: more ∧ isSpace first = false ∧ first ≠ close

section Items

variable {item : Scanner α} {write : α → List Char} {close : Char}

/-- Up to the character behind its first item, a list is read in the same way whether or not it may
be closed at once. -/
theorem items_to_begins {a : α} (opens : Opens close (write a)) (reads : Reads item (write a) a)
    (mayClose : Bool) (fuel : Nat) {c : Char} {text : List Char} {items : List α}
    (solid : isSpace c = false)
    (continues : Reads (do
      if ← take? close then
        return [a]
      Text.Scanner.expect [',']
      return a :: (← itemsTo gap item close false fuel false)) (c :: text) items) :
    Reads (itemsTo gap item close false (fuel + 1) mayClose) (write a ++ c :: text) items := by
  rw [itemsTo]
  refine Reads.after (a := ()) ?_ (Reads.after (a := false) ?_ (reads.bind ?_))
  · rcases opens with ⟨first, more, begins, firstSolid, _⟩
    rw [begins]
    exact gap_looks firstSolid _
  · rcases opens with ⟨first, more, begins, _, firstOpens⟩
    rw [begins]
    intro rest
    cases mayClose with
    | false => rfl
    | true => exact take_looks firstOpens _ rest
  · exact Reads.after (gap_looks solid text) continues

theorem items_to_reads (solid : isSpace close = false) (noComma : ',' ≠ close) (a : α)
    (others : List α) (mayClose : Bool) (fuel : Nat) (enough : others.length < fuel)
    (reads : ∀ b ∈ a :: others, Reads item (write b) b)
    (opens : ∀ b ∈ a :: others, Opens close (write b)) :
    Reads (itemsTo gap item close false fuel mayClose) (separated write (a :: others) ++ [close])
      (a :: others) := by
  induction others generalizing a mayClose fuel with
  | nil =>
      cases fuel with
      | zero => cases enough
      | succ fuel =>
          refine items_to_begins (opens a List.mem_cons_self) (reads a List.mem_cons_self) mayClose
            fuel solid ?_
          exact (Reads.take close).bind (Reads.pure [a])
  | cons b others ih =>
      cases fuel with
      | zero => cases enough
      | succ fuel =>
          have inside : others.length < fuel := Nat.lt_of_succ_lt_succ enough
          have tail := ih b false fuel inside
            (fun c member => reads c (List.mem_cons_of_mem a member))
            (fun c member => opens c (List.mem_cons_of_mem a member))
          rw [separated, List.append_assoc, List.cons_append]
          · refine items_to_begins (opens a List.mem_cons_self) (reads a List.mem_cons_self)
              mayClose fuel (by decide) (Reads.after (take_looks noComma _) ?_)
            exact (Reads.expect [',']).bind (tail.returns (a :: ·))
          · simp

theorem length_le_separated (items : List α) (opens : ∀ a ∈ items, Opens close (write a)) :
    items.length ≤ (separated write items).length := by
  induction items with
  | nil => exact Nat.zero_le _
  | cons a others ih =>
      rcases opens a List.mem_cons_self with ⟨first, more, begins, _⟩
      cases others with
      | nil => simp [separated, begins]
      | cons b others =>
          have behind := ih fun c member => opens c (List.mem_cons_of_mem a member)
          rw [separated, begins]
          · simp only [List.length_cons, List.length_append] at behind ⊢
            omega
          · simp

theorem items_reads (solid : isSpace close = false) (noComma : ',' ≠ close) (items : List α)
    (reads : ∀ a ∈ items, Reads item (write a) a)
    (opens : ∀ a ∈ items, Opens close (write a)) :
    Reads (Text.Scanner.items gap item close false) (separated write items ++ [close]) items := by
  intro rest
  cases items with
  | nil =>
      rw [Text.Scanner.items, itemsTo]
      refine Reads.after (a := ()) (gap_looks solid []) ?_ rest
      exact (Reads.take close).bind (Reads.pure [])
  | cons a others =>
      -- The characters of the text are fuel enough.
      have long := length_le_separated (a :: others) opens
      refine items_to_reads solid noComma a others true _ ?_ reads opens rest
      simp only [List.length_cons, List.length_append] at long ⊢
      omega

end Items

theorem hex_digits_read : ∀ code < 0x20,
    ['0', '0', hexDigit (code / 16), hexDigit (code % 16)].all (isDigitOf 16) = true ∧
      numberIn 16 ['0', '0', hexDigit (code / 16), hexDigit (code % 16)] = code := by
  decide +kernel

/-- The three ways a character is written: with a letter behind a backslash, with four hexadecimal
digits, and as it is. -/
theorem escaped_cases (c : Char) :
    (∃ letter, escaped c = ['\\', letter] ∧ shortEscape? letter = some c ∧ letter ≠ 'u' ∧
        0x20 ≤ letter.toNat) ∨
      (c.toNat < 0x20 ∧
        escaped c = ['\\', 'u', '0', '0', hexDigit (c.toNat / 16), hexDigit (c.toNat % 16)]) ∨
      (escaped c = [c] ∧ c ≠ '"' ∧ c ≠ '\\' ∧ 0x20 ≤ c.toNat) := by
  rcases eq_or_ne c '"' with rfl | quote
  · exact .inl ⟨'"', rfl, rfl, by decide, by decide⟩
  rcases eq_or_ne c '\\' with rfl | backslash
  · exact .inl ⟨'\\', rfl, rfl, by decide, by decide⟩
  rcases eq_or_ne c '\x08' with rfl | backspace
  · exact .inl ⟨'b', rfl, rfl, by decide, by decide⟩
  rcases eq_or_ne c '\x0c' with rfl | feed
  · exact .inl ⟨'f', rfl, rfl, by decide, by decide⟩
  rcases eq_or_ne c '\n' with rfl | newline
  · exact .inl ⟨'n', rfl, rfl, by decide, by decide⟩
  rcases eq_or_ne c '\r' with rfl | carriage
  · exact .inl ⟨'r', rfl, rfl, by decide, by decide⟩
  rcases eq_or_ne c '\t' with rfl | tab
  · exact .inl ⟨'t', rfl, rfl, by decide, by decide⟩
  right
  rw [escaped, if_neg quote, if_neg backslash, if_neg backspace, if_neg feed, if_neg newline,
    if_neg carriage, if_neg tab]
  by_cases control : c.toNat < 0x20
  · exact .inl ⟨control, if_pos control⟩
  · exact .inr ⟨if_neg control, quote, backslash, Nat.le_of_not_lt control⟩

def before (code : Nat) (found : List Nat × List Char) : List Nat × List Char :=
  (code :: found.1, found.2)

/-- The ways to write a code point or a code unit, and the number that each of them stands for. -/
inductive Stands : List Char → Nat → Prop where
  | short {letter c : Char} (noCode : letter ≠ 'u') (short : shortEscape? letter = some c) :
      Stands ['\\', letter] c.toNat
  | code {a b c d : Char} (hex : [a, b, c, d].all (isDigitOf 16) = true) :
      Stands ['\\', 'u', a, b, c, d] (numberIn 16 [a, b, c, d])
  | plain {c : Char} (noQuote : c ≠ '"') (noBackslash : c ≠ '\\') (printable : 0x20 ≤ c.toNat) :
      Stands [c] c.toNat

theorem Stands.units {text : List Char} {code : Nat} (stands : Stands text code)
    (rest : List Char) : units (text ++ rest) = (units rest).map (before code) := by
  cases stands with
  | short noCode short =>
      rw [List.cons_append, List.singleton_append, Json.units, short]
      · cases Json.units rest <;> rfl
      · intro a b c d rest same
        exact absurd same noCode
  | code hex =>
      simp only [List.cons_append, List.nil_append]
      rw [Json.units, hex]
      cases Json.units rest <;> rfl
  | @plain c noQuote noBackslash printable =>
      have accepted : (decide (0x20 ≤ c.toNat) && decide (c ≠ '\\')) = true := by
        simp [printable, noBackslash]
      rw [List.singleton_append, Json.units]
      · rw [accepted]
        cases Json.units rest <;> rfl
      all_goals grind

theorem escaped_stands (c : Char) : Stands (escaped c) c.toNat := by
  rcases escaped_cases c with ⟨letter, written, short, noCode, _⟩ | ⟨control, written⟩ |
    ⟨written, noQuote, noBackslash, printable⟩
  · rw [written]
    exact .short noCode short
  · rcases hex_digits_read c.toNat control with ⟨hex, code⟩
    have stands := Stands.code hex
    rw [code] at stands
    rw [written]
    exact stands
  · rw [written]
    exact .plain noQuote noBackslash printable

theorem units_reads (chars : List Char) (rest : List Char) :
    units (chars.flatMap escaped ++ '"' :: rest) = some (chars.map Char.toNat, rest) := by
  induction chars with
  | nil => rfl
  | cons c chars ih =>
      rw [List.flatMap_cons, List.append_assoc, (escaped_stands c).units, ih]
      rfl

theorem of_nat_aux_to_nat (c : Char) (valid : c.toNat.isValidChar) :
    Char.ofNatAux c.toNat valid = c := by
  have same := Char.ofNat_toNat c
  rwa [Char.ofNat, dif_pos valid] at same

theorem join_last {code : Nat} (valid : code.isValidChar) :
    join [code] = some [Char.ofNatAux code valid] :=
  dif_pos valid

theorem join_code_point {code : Nat} (valid : code.isValidChar) (next : Nat) (rest : List Nat) :
    join (code :: next :: rest) = (join (next :: rest)).map (Char.ofNatAux code valid :: ·) := by
  have whole : ¬ (decide (0xD800 ≤ code) && decide (code < 0xDC00)) = true := by
    simp only [Nat.isValidChar] at valid
    simp only [Bool.and_eq_true, decide_eq_true_eq]
    omega
  exact (if_neg whole).trans (dif_pos valid)

theorem join_code_points (chars : List Char) : join (chars.map Char.toNat) = some chars := by
  induction chars with
  | nil => rfl
  | cons c chars ih =>
      -- A character is no surrogate, so nothing has to be joined with what comes behind.
      have valid : c.toNat.isValidChar := c.valid
      cases chars with
      | nil => rw [List.map_cons, List.map_nil, join_last valid, of_nat_aux_to_nat]
      | cons d chars =>
          rw [List.map_cons, List.map_cons, join_code_point valid, ← List.map_cons, ih,
            of_nat_aux_to_nat]
          rfl

theorem string_reads (s : String) : Reads stringTail (s.toList.flatMap escaped ++ ['"']) s := by
  intro rest
  rw [List.append_assoc, List.singleton_append, stringTail, units_reads]
  change (join (s.toList.map Char.toNat)).bind (fun text => some (String.ofList text, rest)) = _
  rw [join_code_points, Option.bind_some, String.ofList_toList]

/-- Values without numbers whose lists and objects nest at most so deep. -/
def Plain : Nat → Value → Prop
  | _, .null => True
  | _, .bool _ => True
  | _, .string _ => True
  | depth + 1, .list items => ∀ v ∈ items, Plain depth v
  | depth + 1, .object members => ∀ member ∈ members, Plain depth member.2
  | _, _ => False

theorem value_opens {depth : Nat} {v : Value} (plain : Plain depth v) {close : Char}
    (closes : close = ']' ∨ close = '\x7d') : Opens close (characters v) := by
  cases v with
  | null => exact ⟨'n', _, rfl, rfl, by rcases closes with rfl | rfl <;> decide⟩
  | bool b =>
      cases b with
      | false => exact ⟨'f', _, rfl, rfl, by rcases closes with rfl | rfl <;> decide⟩
      | true => exact ⟨'t', _, rfl, rfl, by rcases closes with rfl | rfl <;> decide⟩
  | integer n => cases depth <;> exact plain.elim
  | float x => cases depth <;> exact plain.elim
  | string s => exact ⟨'"', _, rfl, rfl, by rcases closes with rfl | rfl <;> decide⟩
  | list items => exact ⟨'[', _, rfl, rfl, by rcases closes with rfl | rfl <;> decide⟩
  | object members => exact ⟨'\x7b', _, rfl, rfl, by rcases closes with rfl | rfl <;> decide⟩

theorem member_reads {value : Scanner Value} (member : String × Value)
    (opens : Opens ']' (characters member.2))
    (reads : Reads value (characters member.2) member.2) :
    Reads (Json.member value) (memberText member) member := by
  rcases opens with ⟨first, more, begins, solid, _⟩
  rw [begins] at reads
  have text : memberText member =
      ['"'] ++ ((member.1.toList.flatMap escaped ++ ['"']) ++ ([':'] ++ first :: more)) := by
    simp [memberText, stringText, begins]
  rw [text, Json.member]
  refine (Reads.expect ['"']).bind ((string_reads member.1).bind ?_)
  refine Reads.after (a := ()) (gap_looks (by decide) _) ?_
  refine (Reads.expect [':']).bind ?_
  refine Reads.after (a := ()) (gap_looks solid _) ?_
  exact reads.returns (Prod.mk member.1)

/-- The scanner that goes on once the first character of a value has been looked at. -/
inductive Decides : Nat → Char → Scanner Value → Prop where
  | string {depth : Nat} :
      Decides depth '"' (do expect ['"']; return .string (← stringTail))
  | null {depth : Nat} : Decides depth 'n' (do expect "null".toList; return .null)
  | yes {depth : Nat} : Decides depth 't' (do expect "true".toList; return .bool true)
  | no {depth : Nat} : Decides depth 'f' (do expect "false".toList; return .bool false)
  | list {depth : Nat} :
      Decides (depth + 1) '[' (do
        expect ['[']
        return .list (← Text.Scanner.items gap (value depth) ']' false))
  | object {depth : Nat} :
      Decides (depth + 1) '\x7b' (do
        expect ['\x7b']
        return .object (← Text.Scanner.items gap (Json.member (value depth)) '\x7d' false))

theorem Decides.reads {depth : Nat} {first : Char} {scanner : Scanner Value}
    (decides : Decides depth first scanner) {text : List Char} {v : Value}
    (reads : Reads scanner (first :: text) v) : Reads (value depth) (first :: text) v := by
  unfold value
  cases decides <;> exact Reads.after (peek_looks _ _) reads

theorem null_reads (depth : Nat) : Reads (value depth) (characters .null) .null :=
  Decides.null.reads ((Reads.expect "null".toList).returns fun _ => Value.null)

theorem bool_reads (depth : Nat) (b : Bool) :
    Reads (value depth) (characters (.bool b)) (.bool b) := by
  cases b with
  | false => exact Decides.no.reads ((Reads.expect "false".toList).returns fun _ => Value.bool false)
  | true => exact Decides.yes.reads ((Reads.expect "true".toList).returns fun _ => Value.bool true)

theorem quoted_reads (depth : Nat) (s : String) :
    Reads (value depth) (characters (.string s)) (.string s) :=
  Decides.string.reads ((Reads.expect ['"']).bind ((string_reads s).returns Value.string))

theorem list_reads {depth : Nat} {items : List Value}
    (reads : ∀ v ∈ items, Reads (value depth) (characters v) v)
    (opens : ∀ v ∈ items, Opens ']' (characters v)) :
    Reads (value (depth + 1)) (characters (.list items)) (.list items) := by
  have inside := items_reads (by decide) (by decide) items reads opens
  rw [characters, items_text_eq]
  exact Decides.list.reads ((Reads.expect ['[']).bind (inside.returns Value.list))

theorem object_reads {depth : Nat} {members : List (String × Value)}
    (reads : ∀ member ∈ members, Reads (value depth) (characters member.2) member.2)
    (opens : ∀ member ∈ members, Opens ']' (characters member.2)) :
    Reads (value (depth + 1)) (characters (.object members)) (.object members) := by
  have begins : ∀ member ∈ members, Opens '\x7d' (memberText member) := by
    intro member _
    exact ⟨'"', _, rfl, rfl, by decide⟩
  have inside := items_reads (by decide) (by decide) members
    (fun member listed => member_reads member (opens member listed) (reads member listed)) begins
  rw [characters, members_text_eq]
  exact Decides.object.reads ((Reads.expect ['\x7b']).bind (inside.returns Value.object))

theorem value_reads : ∀ (depth : Nat) (v : Value), Plain depth v →
    Reads (value depth) (characters v) v
  | depth, .null, _ => null_reads depth
  | depth, .bool b, _ => bool_reads depth b
  | depth, .string s, _ => quoted_reads depth s
  | _, .integer _, plain => absurd plain (by simp [Plain])
  | _, .float _, plain => absurd plain (by simp [Plain])
  | 0, .list _, plain => absurd plain (by simp [Plain])
  | 0, .object _, plain => absurd plain (by simp [Plain])
  -- A value is read with the depth that is left for what it holds.
  | depth + 1, .list _, plain =>
      list_reads (fun v member => value_reads depth v (plain v member))
        fun v member => value_opens (plain v member) (.inl rfl)
  | depth + 1, .object _, plain =>
      object_reads (fun member listed => value_reads depth member.2 (plain member listed))
        fun member listed => value_opens (plain member listed) (.inl rfl)

theorem read_print {v : Value} (plain : Plain 128 v) : read? (print v) = some v := by
  have reads := value_reads 128 v plain []
  rw [List.append_nil] at reads
  have begins : gap (characters v) = some ((), characters v) := by
    rcases value_opens plain (.inl rfl) with ⟨first, more, text, solid, _⟩
    rw [text]
    simpa using gap_looks solid more []
  have document : document (characters v) = some (v, []) := by
    change (gap (characters v)).bind (fun found => (value 128 found.2).bind fun found =>
      (gap found.2).bind fun behind => some (found.1, behind.2)) = _
    rw [begins, Option.bind_some, reads]
    rfl
  rw [read?, print, whole?, String.toList_ofList, document]

/-- No control below U+0020. -/
def Printable (text : List Char) : Prop := ∀ c ∈ text, 0x20 ≤ c.toNat

theorem Printable.append {first second : List Char} (left : Printable first)
    (right : Printable second) : Printable (first ++ second) := by
  intro c member
  rcases List.mem_append.mp member with inside | behind
  · exact left c inside
  · exact right c behind

theorem Printable.cons {c : Char} {text : List Char} (head : 0x20 ≤ c.toNat)
    (tail : Printable text) : Printable (c :: text) := by
  intro d member
  rcases List.mem_cons.mp member with rfl | behind
  · exact head
  · exact tail d behind

theorem hex_digits_printable : ∀ code < 0x20,
    ['\\', 'u', '0', '0', hexDigit (code / 16), hexDigit (code % 16)].all
      (fun c => 0x20 ≤ c.toNat) = true := by
  decide +kernel

theorem escaped_printable (c : Char) : Printable (escaped c) := by
  rcases escaped_cases c with ⟨letter, written, _, _, printable⟩ | ⟨control, written⟩ |
    ⟨written, _, _, printable⟩
  · simpa [written, Printable] using printable
  · rw [written, Printable]
    simpa only [List.all_eq_true, decide_eq_true_eq] using hex_digits_printable c.toNat control
  · simpa [written, Printable] using printable

theorem string_printable (s : String) : Printable (stringText s) := by
  refine Printable.cons (by decide) (Printable.append ?_ (by simp [Printable]))
  intro c member
  rcases List.mem_flatMap.mp member with ⟨d, _, inside⟩
  exact escaped_printable d c inside

theorem separated_printable {write : α → List Char} {items : List α}
    (printable : ∀ a ∈ items, Printable (write a)) : Printable (separated write items) := by
  induction items with
  | nil => simp [separated, Printable]
  | cons a others ih =>
      have head := printable a List.mem_cons_self
      have tail := ih fun b member => printable b (List.mem_cons_of_mem a member)
      cases others with
      | nil => exact head
      | cons b others => exact head.append (tail.cons (by decide))

theorem value_printable : ∀ (depth : Nat) (v : Value), Plain depth v → Printable (characters v)
  | _, .null, _ => by simp [characters, Printable]
  | _, .bool b, _ => by cases b <;> simp [characters, Printable]
  | _, .string s, _ => string_printable s
  | _, .integer _, plain => absurd plain (by simp [Plain])
  | _, .float _, plain => absurd plain (by simp [Plain])
  | 0, .list _, plain => absurd plain (by simp [Plain])
  | 0, .object _, plain => absurd plain (by simp [Plain])
  | depth + 1, .list items, plain => by
      have inside : Printable (itemsText items) := by
        rw [items_text_eq]
        exact separated_printable fun v member => value_printable depth v (plain v member)
      exact Printable.cons (by decide) (inside.append (by simp [Printable]))
  | depth + 1, .object members, plain => by
      have inside : Printable (membersText members) := by
        rw [members_text_eq]
        refine separated_printable fun member listed => (string_printable member.1).append ?_
        exact (value_printable depth member.2 (plain member listed)).cons (by decide)
      exact Printable.cons (by decide) (inside.append (by simp [Printable]))

end OpcodeShapes.Json
