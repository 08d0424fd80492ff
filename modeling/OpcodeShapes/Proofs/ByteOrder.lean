import OpcodeShapes.Proofs.Spelling

/-!
# The order of bytes

The keys of a document are visited in the order of their bytes. That is the
order of texts by code points: of two different characters the one with the
smaller code has the smaller byte at the first place where their bytes differ,
and there is such a place, because no character is spelled by the first bytes
of another one.
-/

namespace OpcodeShapes.Text

set_option autoImplicit false

theorem digit_less_or_above {m n : Nat} (less : m < n) :
    m / 64 < n / 64 ∨ m / 64 = n / 64 ∧ m % 64 < n % 64 := by
  omega

/-- At the highest digit to the base 64 at which two numbers differ the smaller one has the smaller
digit. Four digits are enough for a code point. -/
theorem differing_digit {m n : Nat} (less : m < n) :
    m / 262144 < n / 262144 ∨ m / 262144 = n / 262144 ∧
      (m / 4096 % 64 < n / 4096 % 64 ∨ m / 4096 % 64 = n / 4096 % 64 ∧
        (m / 64 % 64 < n / 64 % 64 ∨ m / 64 % 64 = n / 64 % 64 ∧ m % 64 < n % 64)) := by
  rcases digit_less_or_above less with above | ⟨same, digit⟩
  · rcases digit_less_or_above above with higher | ⟨same, digit⟩
    · rcases digit_less_or_above higher with highest | ⟨same, digit⟩
      · simp only [Nat.div_div_eq_div_mul] at highest
        exact .inl highest
      · simp only [Nat.div_div_eq_div_mul] at same digit
        exact .inr ⟨same, .inl digit⟩
    · omega
  · omega

theorem encoded_char_lt {c d : Char} (before : c < d) (behind beyond : List UInt8) :
    String.utf8EncodeChar c ++ behind < String.utf8EncodeChar d ++ beyond := by
  have codes : c.val.toNat < d.val.toNat := UInt32.lt_iff_toNat_lt.mp (Char.lt_def.mp before)
  have largest : d.val.toNat < 0x110000 := by
    have valid := d.valid
    simp only [UInt32.isValidChar, Nat.isValidChar] at valid
    omega
  have digits := differing_digit codes
  unfold String.utf8EncodeChar
  dsimp only
  -- One case for each two lengths. Of different ones the first bytes differ, of equal ones the bytes
  -- of the differing digit.
  split_ifs <;>
    simp (disch := omega) only [List.cons_append, List.nil_append, List.cons_lt_cons_iff,
      UInt8.lt_iff_toNat_lt, ← UInt8.toNat_inj, UInt8.toNat_ofNat', Nat.mod_eq_of_lt]
  all_goals omega

theorem encoded_ne_nil (c : Char) : String.utf8EncodeChar c ≠ [] := by
  unfold String.utf8EncodeChar
  dsimp only
  split_ifs <;> exact List.cons_ne_nil _ _

theorem encoded_lt {chars others : List Char} (before : chars < others) :
    chars.flatMap String.utf8EncodeChar < others.flatMap String.utf8EncodeChar := by
  -- They begin with the same bytes as long as they begin with the same characters.
  induction chars generalizing others with
  | nil =>
      cases others with
      | nil => exact absurd before (List.lt_irrefl [])
      | cons d rest =>
          rw [List.flatMap_nil, List.flatMap_cons]
          cases bytes : String.utf8EncodeChar d with
          | nil => exact absurd bytes (encoded_ne_nil d)
          | cons byte behind => exact List.nil_lt_cons _ _
  | cons c rest ih =>
      cases others with
      | nil => exact absurd before (List.not_lt_nil _)
      | cons d later =>
          rw [List.flatMap_cons, List.flatMap_cons]
          rcases List.cons_lt_cons_iff.mp before with less | ⟨rfl, behind⟩
          · exact encoded_char_lt less _ _
          · exact List.append_left_lt (ih behind)

theorem bytes_lt_of_lt {one other : String} (before : one < other) : bytes one < bytes other := by
  rw [bytes_eq, bytes_eq]
  exact encoded_lt (String.lt_iff.mp before)

theorem bytes_lt_iff (one other : String) : bytes one < bytes other ↔ one < other := by
  constructor
  · intro less
    by_contra notBefore
    by_cases after : other < one
    · exact List.lt_asymm less (bytes_lt_of_lt after)
    · have same := String.le_antisymm (String.not_lt.mp after) (String.not_lt.mp notBefore)
      rw [same] at less
      exact List.lt_irrefl _ less
  · exact bytes_lt_of_lt

end OpcodeShapes.Text
