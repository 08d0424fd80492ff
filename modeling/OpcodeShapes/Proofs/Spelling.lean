import Mathlib.Data.List.Nodup
import OpcodeShapes.Text.Blank
import Std.Data.TreeSet

/-!
# Texts as numbers

To compare the texts of a long table two by two is much work, to compare
numbers is little. The bytes of a text are the digits of a number, so texts
with different numbers are different, and the last digit alone can show that a
text is not blank.
-/

namespace OpcodeShapes.Text

set_option autoImplicit false

def bytes (text : String) : List UInt8 := text.toByteArray.data.toList

/-- The number whose digits to the base 256 are the bytes of a text. -/
def number (text : String) : Nat :=
  (bytes text).foldl (fun number byte => number * 256 + byte.toNat) 0

def printed (number : Nat) : Bool := decide (32 < number % 256) && decide (number % 256 < 128)

theorem bytes_eq (text : String) : bytes text = text.toList.flatMap String.utf8EncodeChar := by
  rw [bytes, ← String.utf8Encode_toList, List.utf8Encode, List.toList_data_toByteArray]

/-- A blank of ASCII is a space or comes before it, and no other character ends in a byte of ASCII. -/
theorem blank_last_byte {c : Char} (blank : isBlank c = true) :
    ∃ front last, String.utf8EncodeChar c = front ++ [last] ∧
      (last.toNat ≤ 32 ∨ 128 ≤ last.toNat) := by
  unfold String.utf8EncodeChar
  dsimp only
  -- One case for each length. In the longer ones the last byte has the continuation mark added.
  split_ifs with one two three
  · refine ⟨[], _, rfl, ?_⟩
    left
    simp only [isBlank, inRanges, blankRanges, List.any_cons, List.any_nil, Bool.or_false,
      Bool.or_eq_true, Bool.and_eq_true, decide_eq_true_eq, Char.toNat] at blank
    simp only [UInt8.toNat_ofNat']
    omega
  · refine ⟨[_], _, rfl, ?_⟩
    simp only [UInt8.toNat_ofNat']
    omega
  · refine ⟨[_, _], _, rfl, ?_⟩
    simp only [UInt8.toNat_ofNat']
    omega
  · refine ⟨[_, _, _], _, rfl, ?_⟩
    simp only [UInt8.toNat_ofNat']
    omega

theorem not_blank_of_printed {text : String} (shows : printed (number text) = true) :
    ¬ Blank text := by
  intro blank
  rw [printed, Bool.and_eq_true, decide_eq_true_eq, decide_eq_true_eq, number, bytes_eq] at shows
  rcases List.eq_nil_or_concat text.toList with none | ⟨chars, c, some⟩
  · rw [none] at shows
    simp at shows
  · obtain ⟨front, last, encoded, outside⟩ :=
      blank_last_byte (blank c (by rw [some]; simp))
    rw [some, List.concat_eq_append, List.flatMap_append, List.flatMap_singleton, encoded,
      ← List.append_assoc, List.foldl_append, List.foldl_cons, List.foldl_nil] at shows
    have byte := last.toNat_lt
    omega

/-- Whether each number is printed at its end and is neither a seen one nor repeated. -/
def apart (seen : Std.TreeSet Nat) : List Nat → Bool
  | [] => true
  | number :: rest =>
    printed number && !seen.contains number && apart (seen.insert number) rest

theorem apart_spec {seen : Std.TreeSet Nat} {numbers : List Nat}
    (holds : apart seen numbers = true) :
    numbers.Nodup ∧ ∀ number ∈ numbers, printed number = true ∧ number ∉ seen := by
  induction numbers generalizing seen with
  | nil => simp
  | cons number rest ih =>
      simp only [apart, Bool.and_eq_true, Bool.not_eq_true'] at holds
      obtain ⟨⟨shows, fresh⟩, others⟩ := holds
      obtain ⟨distinct, all⟩ := ih others
      have unseen : number ∉ seen := by
        rw [← Std.TreeSet.contains_iff_mem, fresh]
        simp
      constructor
      · rw [List.nodup_cons]
        refine ⟨?_, distinct⟩
        intro again
        exact (all number again).2 (by simp)
      · intro other member
        rcases List.mem_cons.mp member with rfl | later
        · exact ⟨shows, unseen⟩
        · obtain ⟨printedToo, notInserted⟩ := all other later
          rw [Std.TreeSet.mem_insert] at notInserted
          exact ⟨printedToo, fun old => notInserted (Or.inr old)⟩

theorem nodup_of_apart {texts : List String} (holds : apart ∅ (texts.map number) = true) :
    texts.Nodup ∧ ∀ text ∈ texts, ¬ Blank text := by
  obtain ⟨distinct, all⟩ := apart_spec holds
  refine ⟨distinct.of_map number, ?_⟩
  intro text member
  exact not_blank_of_printed (all (number text) (List.mem_map_of_mem member)).1

end OpcodeShapes.Text
