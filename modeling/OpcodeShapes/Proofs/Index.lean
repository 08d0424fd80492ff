import Mathlib.Data.List.Nodup
import Std.Data.ExtTreeMap

/-!
# Indexes into a list of keys

An index tells for a key at which position of a list it stands. It is right
when the two say the same of every key and every position, and then the list
repeats no key. A right index stays right when a fresh key is put at the end
and when one key gives way to another at its position.
-/

namespace OpcodeShapes

set_option autoImplicit false

/-- Every key of the list is in the index with its position, and nothing else is. -/
def Indexes (index : Std.ExtTreeMap String Nat) (keys : List String) : Prop :=
  ∀ (key : String) (position : Nat), index[key]? = some position ↔ keys[position]? = some key

theorem empty_indexes : Indexes ∅ [] := by
  intro key position
  simp

namespace Indexes

variable {index : Std.ExtTreeMap String Nat} {keys : List String}

theorem inside (indexes : Indexes index keys) {key : String} {position : Nat}
    (found : index[key]? = some position) : position < keys.length := by
  have present := (indexes key position).mp found
  exact (List.getElem?_eq_some_iff.mp present).1

theorem mem_iff (indexes : Indexes index keys) (key : String) : key ∈ index ↔ key ∈ keys := by
  rw [Std.ExtTreeMap.mem_iff_isSome_getElem?, Option.isSome_iff_exists, List.mem_iff_getElem?]
  exact exists_congr fun position => indexes key position

theorem lookup_eq_none_iff (indexes : Indexes index keys) (key : String) :
    index[key]? = none ↔ key ∉ keys := by
  rw [← indexes.mem_iff, Std.ExtTreeMap.mem_iff_isSome_getElem?, Option.not_isSome_iff_eq_none]

theorem position_unique (indexes : Indexes index keys) {key : String} {first second : Nat}
    (atFirst : keys[first]? = some key) (atSecond : keys[second]? = some key) : first = second := by
  -- Both would have to be the position in the index.
  have inFirst := (indexes key first).mpr atFirst
  have inSecond := (indexes key second).mpr atSecond
  exact Option.some.inj (inFirst.symm.trans inSecond)

theorem keys_nodup (indexes : Indexes index keys) : keys.Nodup := by
  rw [List.nodup_iff_getElem?_ne_getElem?]
  intro first second earlier inside same
  have present := List.getElem?_eq_getElem inside
  have equal := indexes.position_unique (same.trans present) present
  omega

theorem unique {other : Std.ExtTreeMap String Nat} (indexes : Indexes index keys)
    (also : Indexes other keys) : index = other := by
  apply Std.ExtTreeMap.ext_getElem?
  intro key
  apply Option.ext
  intro position
  rw [indexes key position, also key position]

theorem append (indexes : Indexes index keys) {key : String} (fresh : key ∉ keys) :
    Indexes (index.insert key keys.length) (keys ++ [key]) := by
  intro other position
  rw [Std.ExtTreeMap.getElem?_insert]
  by_cases same : key = other
  · subst same
    rw [if_pos Std.ReflCmp.compare_self, Option.some_inj]
    constructor
    · intro same
      subst same
      simp
    · intro present
      by_contra moved
      have old : keys[position]? = some key := by
        rcases Nat.lt_or_gt_of_ne moved with beyond | before
        · rw [List.getElem?_eq_none (by simp; omega)] at present
          cases present
        · rwa [List.getElem?_append_left before] at present
      exact fresh (List.mem_of_getElem? old)
  · rw [if_neg (by simpa using same), indexes other position]
    by_cases before : position < keys.length
    · rw [List.getElem?_append_left before]
    · rw [List.getElem?_eq_none (by omega), List.getElem?_append_right (by omega)]
      cases position - keys.length <;> simp [same]

theorem set (indexes : Indexes index keys) {position : Nat} {old new : String}
    (present : keys[position]? = some old) (free : new ∈ keys → new = old) :
    Indexes ((index.erase old).insert new position) (keys.set position new) := by
  have inside : position < keys.length := (List.getElem?_eq_some_iff.mp present).1
  intro key other
  rw [Std.ExtTreeMap.getElem?_insert, Std.ExtTreeMap.getElem?_erase, List.getElem?_set]
  by_cases here : position = other
  · subst here
    simp only [if_true, if_pos inside, Option.some_inj, Std.LawfulEqCmp.compare_eq_iff_eq]
    constructor
    · intro found
      split_ifs at found with isNew isOld
      · exact isNew
      · have stays := (indexes key position).mp found
        rw [present, Option.some_inj] at stays
        exact absurd stays isOld
    · intro isNew
      simp [isNew]
  · simp only [if_neg here, Std.LawfulEqCmp.compare_eq_iff_eq]
    split_ifs with isNew isOld
    · subst isNew
      simp only [Option.some_inj, here, false_iff]
      intro elsewhere
      have same := free (List.mem_of_getElem? elsewhere)
      subst same
      exact here (indexes.position_unique present elsewhere)
    · subst isOld
      simp only [false_iff]
      intro elsewhere
      exact here (indexes.position_unique present elsewhere)
    · exact indexes key other

/-- Following an index into a list of items is going through the items for the key. -/
theorem lookup_eq_find {Item : Type} {items : List Item} {keyOf : Item → String}
    (indexes : Indexes index (items.map keyOf)) (key : String) :
    (index[key]?.bind fun position => items[position]?) =
      items.find? fun item => keyOf item = key := by
  cases found : index[key]? with
  | none =>
      have absent := (indexes.lookup_eq_none_iff key).mp found
      symm
      simp only [Option.bind_none, List.find?_eq_none, decide_eq_true_eq]
      intro item member same
      exact absent (same ▸ List.mem_map_of_mem member)
  | some position =>
      have present := (indexes key position).mp found
      rw [List.getElem?_map, Option.map_eq_some_iff] at present
      obtain ⟨item, at_position, same⟩ := present
      obtain ⟨inside, value⟩ := List.getElem?_eq_some_iff.mp at_position
      rw [Option.bind_some, at_position, eq_comm, List.find?_eq_some_iff_getElem]
      refine ⟨by simpa using same, position, inside, value, ?_⟩
      intro earlier before
      have early : earlier < items.length := by omega
      have differs : keyOf items[earlier] ≠ key := by
        intro alike
        have also : (items.map keyOf)[earlier]? = some key := by
          simp [List.getElem?_eq_getElem early, alike]
        have again := indexes.position_unique also ((indexes key position).mp found)
        omega
      simpa using differs

theorem read_eq_find {Item Answer : Type} {items : List Item} {keyOf : Item → String}
    (indexes : Indexes index (items.map keyOf)) (key : String) (f : Item → Answer) :
    (do let position ← index[key]?
        let item ← items[position]?
        return f item) =
      (items.find? fun item => keyOf item = key).map f := by
  rw [← indexes.lookup_eq_find, Option.map_bind]
  apply Option.bind_congr
  intro position _
  rw [Function.comp_apply]
  cases items[position]? <;> rfl

theorem read_eq_some_iff {Item Answer : Type} {items : List Item} {keyOf : Item → String}
    (indexes : Indexes index (items.map keyOf)) (key : String) (f : Nat → Item → Answer)
    (answer : Answer) :
    (do let position ← index[key]?
        let item ← items[position]?
        return f position item) = some answer ↔
      ∃ position item, items[position]? = some item ∧ keyOf item = key ∧
        f position item = answer := by
  simp only [Option.bind_eq_bind, Option.pure_def, Option.bind_eq_some_iff, Option.some_inj]
  constructor
  · intro answered
    rcases answered with ⟨position, found, item, present, same⟩
    have listed := (indexes key position).mp found
    rw [List.getElem?_map, present, Option.map_some, Option.some_inj] at listed
    exact ⟨position, item, present, listed, same⟩
  · intro answered
    rcases answered with ⟨position, item, present, rfl, same⟩
    refine ⟨position, (indexes _ position).mpr ?_, item, present, same⟩
    rw [List.getElem?_map, present, Option.map_some]

theorem read_is_some {Item Answer : Type} {items : List Item} {keyOf : Item → String}
    (indexes : Indexes index (items.map keyOf)) (key : String) (f : Nat → Item → Answer) :
    (do let position ← index[key]?
        let item ← items[position]?
        return f position item : Option Answer).isSome = index.contains key := by
  rw [Std.ExtTreeMap.contains_eq_isSome_getElem?]
  cases found : index[key]? with
  | none => rfl
  | some position =>
      have inside : position < items.length := by simpa using indexes.inside found
      simp [inside]

theorem find_eq_some_iff {Item : Type} {items : List Item} {keyOf : Item → String}
    (indexes : Indexes index (items.map keyOf)) (key : String) (item : Item) :
    (items.find? fun item => keyOf item = key) = some item ↔
      item ∈ items ∧ keyOf item = key := by
  constructor
  · intro found
    exact ⟨List.mem_of_find?_eq_some found, by simpa using List.find?_some found⟩
  · intro belongs
    rcases belongs with ⟨member, rfl⟩
    obtain ⟨position, present⟩ := List.mem_iff_getElem?.mp member
    have listed : (items.map keyOf)[position]? = some (keyOf item) := by simp [present]
    rw [← indexes.lookup_eq_find, (indexes (keyOf item) position).mpr listed]
    exact present

end Indexes

end OpcodeShapes
