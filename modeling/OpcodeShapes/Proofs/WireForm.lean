import OpcodeShapes.Proofs.Precedence
import OpcodeShapes.Proofs.Words

/-!
# The written form of truth values

In a document two of the three truth values are booleans and each of them is a
word. A value stands for at most one of the three, and whatever is neither a
boolean nor a text stands for none. What is written for a truth value is its
normal form: it is read as the same truth value, and two values that can be read
are written alike exactly if they stand for the same one.
-/

namespace OpcodeShapes.Trilean

set_option autoImplicit false

theorem text_plain (t : Trilean) : t.text.toList.all Text.isPlain = true := by
  cases t <;> decide

theorem of_value_eq_ok_iff (v : Value) (t : Trilean) :
    ofValue v = .ok t ↔
      (∃ b, v = .bool b ∧ t = .ofBool b) ∨ ∃ s, v = .string s ∧ Text.Spells s t.text := by
  have read : ofValue v = .ok t ↔ SpellsTrilean v t := by
    rw [← Config.read_trilean_eq_ok_iff, Config.readTrilean, map_error_eq_ok_iff]
  rw [read]
  constructor
  · rintro (b | spelled)
    · exact .inl ⟨b, rfl, rfl⟩
    · exact .inr ⟨_, rfl, (Text.spells_iff _ t.text_plain).mpr spelled⟩
  · rintro (⟨b, rfl, rfl⟩ | ⟨s, rfl, spells⟩)
    · exact .boolean b
    · exact .word ((Text.spells_iff s t.text_plain).mp spells)

theorem words_listed : "'; expected one of: " ++ Text.quotedList (all.map text) =
    "'; expected one of: [\"true\", \"false\", \"indeterminate\"]" := by
  decide +kernel

theorem word_error_message (s : String) : (ValueError.word ⟨s⟩).message =
    "invalid tri-state value '" ++ s ++
      "'; expected one of: [\"true\", \"false\", \"indeterminate\"]" := by
  rw [← words_listed, ← String.append_assoc]
  rfl

theorem of_string_eq_error_iff (s : String) (e : ValueError) :
    ofValue (.string s) = .error e ↔ parse s = .error ⟨s⟩ ∧ e = .word ⟨s⟩ := by
  rw [ofValue, map_error_eq_error_iff]
  constructor
  · rintro ⟨cause, refused, rfl⟩
    obtain ⟨_, rfl⟩ := (parse_eq_error_iff s cause).mp refused
    exact ⟨refused, rfl⟩
  · rintro ⟨refused, rfl⟩
    exact ⟨⟨s⟩, refused, rfl⟩

theorem of_string_eq_ok_iff (s : String) (t : Trilean) :
    ofValue (.string s) = .ok t ↔ parse s = .ok t := by
  rw [ofValue, map_error_eq_ok_iff]

theorem of_value_eq_kind_iff (v : Value) :
    ofValue v = .error .kind ↔ (∀ b, v ≠ .bool b) ∧ ∀ s, v ≠ .string s := by
  cases v with
  | string s =>
      rw [of_string_eq_error_iff]
      simp
  | _ => simp [ofValue]

theorem to_value_cases (t : Trilean) :
    t.toValue = .bool true ∨ t.toValue = .bool false ∨ t.toValue = .string "indeterminate" := by
  cases t with
  | yes => exact .inl rfl
  | no => exact .inr (.inl rfl)
  | indeterminate => exact .inr (.inr rfl)

theorem to_value_injective {t u : Trilean} (same : t.toValue = u.toValue) : t = u := by
  have read := of_value_to_value t
  rw [same, of_value_to_value u] at read
  exact (Except.ok.inj read).symm

/-- The values that stand for a truth value are the booleans and the texts that spell one of the three
words, whatever the blanks around it and the case of its letters. A text is taken or refused as it is
by itself, and what is refused is told as it was given; whatever is neither a boolean nor a text is
refused for its kind. What is written for a truth value is one of three values and is read as the same
truth value, so that two values are written alike exactly if they stand for the same one. -/
theorem three_truth_values_written :
    (∀ v t, ofValue v = .ok t ↔
        (∃ b, v = .bool b ∧ t = .ofBool b) ∨ ∃ s, v = .string s ∧ Text.Spells s t.text) ∧
      (∀ s, (∀ t, ofValue (.string s) = .ok t ↔ parse s = .ok t) ∧
        (∀ e, ofValue (.string s) = .error e ↔ parse s = .error ⟨s⟩ ∧ e = .word ⟨s⟩) ∧
        (ValueError.word ⟨s⟩).message = "invalid tri-state value '" ++ s ++
          "'; expected one of: [\"true\", \"false\", \"indeterminate\"]") ∧
      (∀ v, ofValue v = .error .kind ↔ (∀ b, v ≠ .bool b) ∧ ∀ s, v ≠ .string s) ∧
      (∀ v t, ofValue v = .ok t →
        (t.toValue = .bool true ∨ t.toValue = .bool false ∨ t.toValue = .string "indeterminate") ∧
          ofValue t.toValue = .ok t) ∧
      ∀ v w t u, ofValue v = .ok t → ofValue w = .ok u → (t.toValue = u.toValue ↔ t = u) := by
  refine ⟨of_value_eq_ok_iff, ?_, of_value_eq_kind_iff, ?_, ?_⟩
  · intro s
    exact ⟨of_string_eq_ok_iff s, of_string_eq_error_iff s, word_error_message s⟩
  · intro v t _
    exact ⟨to_value_cases t, of_value_to_value t⟩
  · intro v w t u _ _
    exact ⟨to_value_injective, congrArg toValue⟩

/-- Two spellings of one truth value, a word of another one, and a word of none. -/
theorem loud_no_written :
    ofValue (.string "\u00A0FALSE\n") = .ok .no ∧ ofValue (.bool false) = .ok .no ∧
      Text.Spells "\u00A0FALSE\n" "false" ∧ ofValue (.string " Indeterminate") = .ok .indeterminate ∧
      Trilean.no.toValue ≠ Trilean.indeterminate.toValue ∧
      ofValue (.string " No ") = .error (.word ⟨" No "⟩) ∧ ofValue .null = .error .kind := by
  obtain ⟨stands, texts, kinds, _, alike⟩ := three_truth_values_written
  have loud : parse "\u00A0FALSE\n" = .ok .no := by decide
  have undecided : parse " Indeterminate" = .ok .indeterminate := by decide
  have unknown : parse " No " = .error ⟨" No "⟩ := by decide
  have loudRead := ((texts _).1 .no).mpr loud
  have undecidedRead := ((texts _).1 .indeterminate).mpr undecided
  refine ⟨loudRead, rfl, ?_, undecidedRead, ?_, ((texts _).2.1 _).mpr ⟨unknown, rfl⟩, ?_⟩
  · rcases (stands _ .no).mp loudRead with ⟨b, ⟨⟩, _⟩ | ⟨s, same, spells⟩
    obtain rfl := Value.string.inj same
    exact spells
  · intro same
    have equal := (alike _ _ _ _ loudRead undecidedRead).mp same
    cases equal
  · exact (kinds .null).mpr ⟨nofun, nofun⟩

end OpcodeShapes.Trilean
