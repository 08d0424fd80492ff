import Mathlib.Data.List.Forall2
import Mathlib.Data.List.TakeWhile
import OpcodeShapes.Text.Blank

/-!
# Texts that spell a word

A text spells a word if, once the blanks around it are cut away, the two differ
at most in the case of ASCII letters. That is said here of the characters
themselves and without a function that trims or lowers, and every text has one
part that is left when it is trimmed. A plain word, which is written in small
ASCII letters and low lines, is spelled by exactly the texts whose lowered word
it is, and no such text has blanks or other characters inside.
-/

namespace OpcodeShapes.Text

set_option autoImplicit false

/-- What is left of a text without the blanks around it. -/
structure Trims (text core : String) : Prop where
  around : ∃ before after, Blank before ∧ Blank after ∧ text = before ++ core ++ after
  begins : ∀ c, core.toList.head? = some c → isBlank c = false
  ends : ∀ c, core.toList.getLast? = some c → isBlank c = false

/-- The capitals of ASCII. There are no others. -/
def Capital (c : Char) : Prop := 'A' ≤ c ∧ c ≤ 'Z'

/-- The small letters of ASCII stand 32 places behind its capitals. -/
inductive SameLetter : Char → Char → Prop where
  | same (c : Char) : SameLetter c c
  | capital {c d : Char} (letter : Capital c) (behind : d.toNat = c.toNat + 32) : SameLetter c d
  | small {c d : Char} (letter : Capital d) (behind : c.toNat = d.toNat + 32) : SameLetter c d

def SameButCase (text other : String) : Prop :=
  List.Forall₂ SameLetter text.toList other.toList

def Spells (text spelled : String) : Prop :=
  ∃ core, Trims text core ∧ SameButCase core spelled

def isPlain (c : Char) : Bool := c == '_' || decide ('a' ≤ c ∧ c ≤ 'z')

theorem drop_blanks_eq_self {chars : List Char}
    (begins : ∀ c, chars.head? = some c → isBlank c = false) : chars.dropWhile isBlank = chars := by
  cases chars with
  | nil => rfl
  | cons c rest =>
      apply List.dropWhile_cons_of_neg
      rw [begins c rfl]
      exact Bool.false_ne_true

theorem drop_blanks_behind {core after : List Char} (blank : ∀ c ∈ after, isBlank c = true)
    (ends : ∀ c, core.getLast? = some c → isBlank c = false) :
    ((core ++ after).reverse.dropWhile isBlank).reverse = core := by
  have blankReversed : ∀ c ∈ after.reverse, isBlank c = true := by
    intro c member
    exact blank c (List.mem_reverse.mp member)
  rw [List.reverse_append, List.dropWhile_append_of_pos blankReversed, drop_blanks_eq_self,
    List.reverse_reverse]
  intro c first
  rw [List.head?_reverse] at first
  exact ends c first

theorem trimmed_eq {before core after : List Char} (blankBefore : ∀ c ∈ before, isBlank c = true)
    (blankAfter : ∀ c ∈ after, isBlank c = true)
    (begins : ∀ c, core.head? = some c → isBlank c = false)
    (ends : ∀ c, core.getLast? = some c → isBlank c = false) :
    trimmed (before ++ core ++ after) = core := by
  unfold trimmed
  rw [List.append_assoc, List.dropWhile_append_of_pos blankBefore]
  cases core with
  | nil =>
      rw [List.nil_append, (drop_blanks_eq_nil_iff after).mpr blankAfter]
      rfl
  | cons c rest =>
      have stops : (c :: rest ++ after).dropWhile isBlank = c :: rest ++ after :=
        drop_blanks_eq_self begins
      rw [stops, drop_blanks_behind blankAfter ends]

theorem drop_blanks_begins {chars : List Char} {c : Char}
    (first : (chars.dropWhile isBlank).head? = some c) : isBlank c = false := by
  have stopped := List.head?_dropWhile_not isBlank chars
  rw [first] at stopped
  exact stopped

theorem trimmed_around (chars : List Char) :
    ∃ before after, (∀ c ∈ before, isBlank c = true) ∧ (∀ c ∈ after, isBlank c = true) ∧
      chars = before ++ trimmed chars ++ after ∧
        chars.dropWhile isBlank = trimmed chars ++ after := by
  let rest := chars.dropWhile isBlank
  have back : rest = trimmed chars ++ (rest.reverse.takeWhile isBlank).reverse := by
    have whole : rest.reverse.takeWhile isBlank ++ rest.reverse.dropWhile isBlank = rest.reverse :=
      List.takeWhile_append_dropWhile
    calc
      rest = rest.reverse.reverse := rest.reverse_reverse.symm
      _ = (rest.reverse.takeWhile isBlank ++ rest.reverse.dropWhile isBlank).reverse := by rw [whole]
      _ = trimmed chars ++ (rest.reverse.takeWhile isBlank).reverse := List.reverse_append
  have front : chars = chars.takeWhile isBlank ++ rest := List.takeWhile_append_dropWhile.symm
  refine ⟨chars.takeWhile isBlank, (rest.reverse.takeWhile isBlank).reverse, ?_, ?_, ?_, back⟩
  · intro c member
    exact List.mem_takeWhile_imp member
  · intro c member
    exact List.mem_takeWhile_imp (List.mem_reverse.mp member)
  · rw [List.append_assoc, ← back]
    exact front

theorem trimmed_begins {chars : List Char} {c : Char} (first : (trimmed chars).head? = some c) :
    isBlank c = false := by
  obtain ⟨_, after, _, _, _, rest⟩ := trimmed_around chars
  have start : (chars.dropWhile isBlank).head? = some c := by
    rw [rest, List.head?_append, first]
    rfl
  exact drop_blanks_begins start

theorem trimmed_ends {chars : List Char} {c : Char} (last : (trimmed chars).getLast? = some c) :
    isBlank c = false := by
  rw [trimmed, List.getLast?_reverse] at last
  exact drop_blanks_begins last

/-- There is exactly one part of a text that is left when it is trimmed. -/
theorem trims_iff (text core : String) :
    Trims text core ↔ core = String.ofList (trimmed text.toList) := by
  constructor
  · rintro ⟨⟨before, after, blankBefore, blankAfter, rfl⟩, begins, ends⟩
    rw [String.toList_append, String.toList_append,
      trimmed_eq blankBefore blankAfter begins ends, String.ofList_toList]
  · rintro rfl
    obtain ⟨before, after, blankBefore, blankAfter, split, _⟩ := trimmed_around text.toList
    refine ⟨⟨String.ofList before, String.ofList after, ?_, ?_, ?_⟩, ?_, ?_⟩
    · simpa only [Blank, String.toList_ofList] using blankBefore
    · simpa only [Blank, String.toList_ofList] using blankAfter
    · rw [← String.ofList_append, ← String.ofList_append, ← split, String.ofList_toList]
    · intro c first
      rw [String.toList_ofList] at first
      exact trimmed_begins first
    · intro c last
      rw [String.toList_ofList] at last
      exact trimmed_ends last

theorem capital_iff (c : Char) : Capital c ↔ 65 ≤ c.toNat ∧ c.toNat ≤ 90 := Iff.rfl

theorem capital_to_lower {c : Char} (letter : Capital c) : c.toLower.toNat = c.toNat + 32 := by
  have lowered : c.toLower.val = c.val + 32 := congrArg Char.val (dif_pos letter)
  have upper := ((capital_iff c).mp letter).2
  have room : c.toNat + 32 < 2 ^ 32 := by omega
  calc
    c.toLower.toNat = (c.val + 32).toNat := congrArg UInt32.toNat lowered
    _ = (c.toNat + 32) % 2 ^ 32 := UInt32.toNat_add c.val 32
    _ = c.toNat + 32 := Nat.mod_eq_of_lt room

theorem other_to_lower {c : Char} (other : ¬ Capital c) : c.toLower = c := dif_neg other

theorem same_letter_iff (c d : Char) : SameLetter c d ↔ c.toLower = d.toLower := by
  constructor
  · rintro (_ | ⟨letter, behind⟩ | ⟨letter, behind⟩)
    · rfl
    · have small : ¬ Capital d := by
        rw [capital_iff] at letter ⊢
        omega
      rw [other_to_lower small, ← Char.toNat_inj, capital_to_lower letter, behind]
    · have small : ¬ Capital c := by
        rw [capital_iff] at letter ⊢
        omega
      rw [other_to_lower small, ← Char.toNat_inj, capital_to_lower letter, behind]
  · intro same
    by_cases left : Capital c
    · by_cases right : Capital d
      · have both := congrArg Char.toNat same
        rw [capital_to_lower left, capital_to_lower right] at both
        obtain rfl : c = d := Char.toNat_inj.mp (Nat.add_right_cancel both)
        exact .same c
      · rw [other_to_lower right] at same
        exact .capital left (by rw [← same, capital_to_lower left])
    · rw [other_to_lower left] at same
      by_cases right : Capital d
      · exact .small right (by rw [same, capital_to_lower right])
      · rw [other_to_lower right] at same
        subst same
        exact .same c

theorem same_but_case_iff (text other : String) :
    SameButCase text other ↔ text.toList.map Char.toLower = other.toList.map Char.toLower := by
  have letters : SameLetter = fun c d => c.toLower = d.toLower := by
    funext c d
    exact propext (same_letter_iff c d)
  rw [SameButCase, letters, ← List.forall₂_eq_eq_eq, List.forall₂_map_left_iff,
    List.forall₂_map_right_iff]

theorem word_of_trims {text core : String} (trims : Trims text core) :
    (word text).toList = core.toList.map Char.toLower := by
  obtain rfl := (trims_iff text core).mp trims
  rw [word, String.toList_ofList, String.toList_ofList]

theorem plain_iff (c : Char) :
    isPlain c = true ↔ c.toNat = 95 ∨ 97 ≤ c.toNat ∧ c.toNat ≤ 122 := by
  have line : c = '_' ↔ c.toNat = 95 := Char.toNat_inj.symm
  rw [isPlain, Bool.or_eq_true, beq_iff_eq, decide_eq_true_eq, line]
  exact Iff.rfl

theorem plain_not_capital {c : Char} (plain : isPlain c = true) : ¬ Capital c := by
  rw [plain_iff] at plain
  rw [capital_iff]
  omega

theorem plain_to_lower {chars : List Char} (plain : chars.all isPlain = true) :
    chars.map Char.toLower = chars := by
  have kept : ∀ c ∈ chars, c.toLower = id c := fun c member =>
    other_to_lower (plain_not_capital (List.all_eq_true.mp plain c member))
  rw [List.map_congr_left kept, List.map_id]

theorem lowered_not_plain {c : Char} (strange : isBlank c = true ∨ 128 ≤ c.toNat) :
    isPlain c.toLower = false := by
  have outside : c.toNat ≤ 32 ∨ 128 ≤ c.toNat := by
    rcases strange with blank | beyond
    · simp only [isBlank, inRanges, blankRanges, List.any_cons, List.any_nil, Bool.or_false,
        Bool.or_eq_true, Bool.and_eq_true, decide_eq_true_eq] at blank
      omega
    · exact .inr beyond
  have notCapital : ¬ Capital c := by
    rw [capital_iff]
    omega
  rw [other_to_lower notCapital, Bool.eq_false_iff, ne_eq, plain_iff]
  omega

theorem spells_iff (text : String) {spelled : String}
    (plain : spelled.toList.all isPlain = true) : Spells text spelled ↔ word text = spelled := by
  constructor
  · rintro ⟨core, trims, same⟩
    rw [same_but_case_iff, ← word_of_trims trims, plain_to_lower plain] at same
    exact String.toList_inj.mp same
  · intro spells
    have trims := (trims_iff text _).mpr rfl
    refine ⟨_, trims, ?_⟩
    rw [same_but_case_iff, ← word_of_trims trims, plain_to_lower plain, spells]

theorem strange_spells_nothing {text core : String} (trims : Trims text core)
    (strange : ∃ c ∈ core.toList, isBlank c = true ∨ 128 ≤ c.toNat) {spelled : String}
    (plain : spelled.toList.all isPlain = true) : word text ≠ spelled := by
  rintro rfl
  obtain ⟨c, member, other⟩ := strange
  have lowered : c.toLower ∈ (word text).toList := by
    rw [word_of_trims trims]
    exact List.mem_map_of_mem member
  have wouldBe := List.all_eq_true.mp plain c.toLower lowered
  rw [lowered_not_plain other] at wouldBe
  cases wouldBe

end OpcodeShapes.Text
