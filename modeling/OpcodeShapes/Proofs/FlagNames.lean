import OpcodeShapes.Flag
import OpcodeShapes.Proofs.Words

/-!
# Which texts name a flag

A flag is read from the texts that spell its name, or its name behind `is_`,
and from no others. No name begins with `is_` itself, so one such mark is taken
off at most, and no text names two flags. The names are written in small ASCII
letters and low lines, so a blank within a name, a second mark or a letter that
only folds to ASCII leads to no flag. A text that names none comes back as it
was given.
-/

namespace OpcodeShapes

set_option autoImplicit false

namespace Flag

/-- A text names a flag, with or without an `is_` before the name. -/
inductive Spelled (text : String) (flag : Flag) : Prop where
  | bare (spells : Text.Spells text flag.name)
  | marked (spells : Text.Spells text ("is_" ++ flag.name))

theorem named_eq_some_iff (name : String) (flag : Flag) :
    named? name = some flag ↔ flag.name = name := by
  constructor
  · intro found
    simpa using List.find?_some found
  · rintro rfl
    exact named_name flag

theorem marked_to_list (rest : String) : ("is_" ++ rest).toList = 'i' :: 's' :: '_' :: rest.toList :=
  String.toList_append

theorem name_unmarked (flag : Flag) (rest : String) : flag.name ≠ "is_" ++ rest := by
  intro same
  have first : flag.name.toList.head? = some 'i' := by rw [same, marked_to_list, List.head?_cons]
  revert first
  cases flag <;> decide

theorem without_is_marked (rest : String) : withoutIs ("is_" ++ rest) = rest := by
  rw [withoutIs, marked_to_list]
  exact String.ofList_toList

theorem without_is_unmarked {text : String} (unmarked : ∀ rest, text ≠ "is_" ++ rest) :
    withoutIs text = text := by
  unfold withoutIs
  split
  · rename_i rest chars
    have marked : text = "is_" ++ String.ofList rest := by
      rw [← String.toList_inj, marked_to_list, chars, String.toList_ofList]
    exact absurd marked (unmarked _)
  · rfl

theorem without_is_eq_name_iff (text : String) (flag : Flag) :
    withoutIs text = flag.name ↔ text = flag.name ∨ text = "is_" ++ flag.name := by
  by_cases marked : ∃ rest, text = "is_" ++ rest
  · obtain ⟨rest, rfl⟩ := marked
    rw [without_is_marked]
    constructor
    · rintro rfl
      exact .inr rfl
    · rintro (same | same)
      · exact absurd same.symm (name_unmarked flag rest)
      · have stripped := congrArg withoutIs same
        rwa [without_is_marked, without_is_marked] at stripped
  · have unmarked : ∀ rest, text ≠ "is_" ++ rest := fun rest same => marked ⟨rest, same⟩
    rw [without_is_unmarked unmarked]
    constructor
    · exact .inl
    · rintro (same | same)
      · exact same
      · exact absurd same (unmarked _)

theorem marked_name_plain (flag : Flag) :
    ("is_" ++ flag.name).toList.all Text.isPlain = true := by
  cases flag <;> decide

theorem name_plain (flag : Flag) : flag.name.toList.all Text.isPlain = true := by
  cases flag <;> decide

theorem spelled_iff (text : String) (flag : Flag) :
    Spelled text flag ↔ withoutIs (Text.word text) = flag.name := by
  rw [without_is_eq_name_iff, ← Text.spells_iff text (name_plain flag),
    ← Text.spells_iff text (marked_name_plain flag)]
  constructor
  · rintro (spells | spells)
    · exact .inl spells
    · exact .inr spells
  · rintro (spells | spells)
    · exact .bare spells
    · exact .marked spells

theorem spelled_unique {text : String} {flag other : Flag} (spelled : Spelled text flag)
    (again : Spelled text other) : flag = other := by
  rw [spelled_iff] at spelled again
  exact name_injective (spelled.symm.trans again)

theorem parse_eq_ok_iff (text : String) (flag : Flag) :
    parse text = .ok flag ↔ Spelled text flag := by
  rw [spelled_iff, eq_comm (b := flag.name), ← named_eq_some_iff, parse]
  cases named? (withoutIs (Text.word text)) <;> simp

theorem parse_eq_error_iff (text : String) (e : ParseError) :
    parse text = .error e ↔ (∀ flag, ¬ Spelled text flag) ∧ e = ⟨text⟩ := by
  simp only [← parse_eq_ok_iff]
  unfold parse
  cases named? (withoutIs (Text.word text)) <;> simp [eq_comm]

theorem marked_twice_unspelled {text core rest : String} (trims : Text.Trims text core)
    (twice : Text.SameButCase core ("is_is_" ++ rest)) (flag : Flag) : ¬ Spelled text flag := by
  have word : Text.word text = "is_" ++ ("is_" ++ String.ofList (rest.toList.map Char.toLower)) := by
    rw [Text.same_but_case_iff, ← Text.word_of_trims trims] at twice
    rw [← String.toList_inj, twice]
    simp
  -- Only one mark is taken off, and no name begins with another.
  rw [spelled_iff, word, without_is_marked]
  exact fun same => name_unmarked flag _ same.symm

theorem strange_unspelled {text core : String} (trims : Text.Trims text core)
    (strange : ∃ c ∈ core.toList, Text.isBlank c = true ∨ 128 ≤ c.toNat) (flag : Flag) :
    ¬ Spelled text flag := by
  rw [spelled_iff, without_is_eq_name_iff]
  rintro (spelled | spelled)
  · exact Text.strange_spells_nothing trims strange (name_plain flag) spelled
  · exact Text.strange_spells_nothing trims strange (marked_name_plain flag) spelled

/-- The texts that name a flag are those that spell its name or its name behind `is_`, and none of them
names two. A text with the mark twice, with a blank inside or with a character that is not ASCII names
none, and a text that names none comes back as it was given. -/
theorem flag_names_read_exactly (text : String) :
    (∀ flag, parse text = .ok flag ↔ Spelled text flag) ∧
      (∀ flag other, Spelled text flag → Spelled text other → flag = other) ∧
      (∀ core, Text.Trims text core →
        (∃ rest, Text.SameButCase core ("is_is_" ++ rest)) ∨
          (∃ c ∈ core.toList, Text.isBlank c = true ∨ 128 ≤ c.toNat) →
        parse text = .error ⟨text⟩) ∧
      ∀ e, parse text = .error e → e.raw = text := by
  refine ⟨parse_eq_ok_iff text, fun _ _ => spelled_unique, ?_, ?_⟩
  · intro core trims refused
    rw [parse_eq_error_iff]
    refine ⟨?_, rfl⟩
    rcases refused with ⟨rest, twice⟩ | strange
    · exact marked_twice_unspelled trims twice
    · exact strange_unspelled trims strange
  · intro e refused
    rw [((parse_eq_error_iff text e).mp refused).2]

/-- A marked name in capitals between blanks, a mark too many, a blank behind the mark, and a long `s`,
which folds to the small one. -/
theorem marked_mouth_read :
    Spelled "\u2003Is_C_MOUTH\t" .cMouth ∧ parse "is_IS_cap" = .error ⟨"is_IS_cap"⟩ ∧
      parse " is_ cap" = .error ⟨" is_ cap"⟩ ∧ parse "\u017Ftack" = .error ⟨"\u017Ftack"⟩ := by
  have untrimmed (text : String) (same : text = String.ofList (Text.trimmed text.toList)) :
      Text.Trims text text := (Text.trims_iff text text).mpr same
  have mouth : parse "\u2003Is_C_MOUTH\t" = .ok .cMouth := by decide
  have twice : Text.SameButCase "is_IS_cap" ("is_is_" ++ "cap") :=
    (Text.same_but_case_iff _ _).mpr (by decide)
  have trims : Text.Trims " is_ cap" "is_ cap" := (Text.trims_iff _ _).mpr (by decide)
  have blank : Text.isBlank ' ' = true := by decide
  have beyond : 128 ≤ 'ſ'.toNat := by decide
  refine ⟨((flag_names_read_exactly _).1 .cMouth).mp mouth, ?_, ?_, ?_⟩
  · exact (flag_names_read_exactly _).2.2.1 _ (untrimmed _ (by decide)) (.inl ⟨"cap", twice⟩)
  · exact (flag_names_read_exactly _).2.2.1 _ trims (.inr ⟨' ', by decide, .inl blank⟩)
  · exact (flag_names_read_exactly _).2.2.1 _ (untrimmed _ (by decide))
      (.inr ⟨'ſ', by decide, .inr beyond⟩)

end Flag

end OpcodeShapes
