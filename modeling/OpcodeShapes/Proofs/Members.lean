import Mathlib.Data.List.Induction
import Mathlib.Data.List.Nodup
import Mathlib.Tactic.SplitIfs
import OpcodeShapes.Value

/-!
# Members in key order

Whoever reads an object asks for its members in key order, each key once. That
changes nothing but the order: a key has the value that the document gave it
last, and where no key is repeated the members are the same ones.
-/

namespace OpcodeShapes

set_option autoImplicit false

variable {key : String} {value : Value} {members : List (String × Value)}

def memberKeys (members : List (String × Value)) : List String := members.map Prod.fst

/-- The value of a key, which is the last one where the key is repeated. -/
def member? (key : String) (members : List (String × Value)) : Option Value :=
  members.reverse.lookup key

theorem lookup_cons_eq_ite (other : String) :
    ((key, value) :: members).lookup other =
      if other = key then some value else members.lookup other := by
  rw [List.lookup_cons]
  by_cases same : other = key
  · simp [same]
  · rw [beq_eq_false_iff_ne.mpr same, if_neg same]

theorem lookup_eq_none_iff : members.lookup key = none ↔ key ∉ memberKeys members := by
  rw [List.lookup_eq_none_iff, memberKeys, List.mem_map]
  constructor
  · rintro absent ⟨member, listed, rfl⟩
    simpa using absent member listed
  · intro absent member listed
    have differs : key ≠ member.1 := fun same => absent ⟨member, listed, same.symm⟩
    simpa using differs

theorem lookup_eq_some_iff (distinct : (memberKeys members).Nodup) :
    members.lookup key = some value ↔ (key, value) ∈ members := by
  induction members with
  | nil => simp
  | cons first rest ih =>
      rcases first with ⟨k, v⟩
      have apart := List.nodup_cons.mp distinct
      rw [lookup_cons_eq_ite, List.mem_cons, Prod.mk.injEq]
      by_cases same : key = k
      · subst same
        rw [if_pos rfl, Option.some_inj]
        constructor
        · intro equal
          exact .inl ⟨rfl, equal.symm⟩
        · intro listed
          rcases listed with here | behind
          · exact here.2.symm
          · exact absurd (List.mem_map_of_mem behind) apart.1
      · rw [if_neg same, ih apart.2]
        simp [same]

theorem mem_keys_put_member (other : String) :
    other ∈ memberKeys (putMember key value members) ↔
      other = key ∨ other ∈ memberKeys members := by
  induction members with
  | nil => simp [putMember, memberKeys]
  | cons first rest ih =>
      rcases first with ⟨k, v⟩
      simp only [memberKeys, List.map_cons, List.mem_cons] at ih ⊢
      unfold putMember
      split_ifs with before here
      · simp
      · simp [here]
      · rw [List.map_cons, List.mem_cons, ih]
        exact or_left_comm

theorem lookup_put_member (other : String) :
    (putMember key value members).lookup other =
      if other = key then some value else members.lookup other := by
  induction members with
  | nil => rw [putMember, lookup_cons_eq_ite]
  | cons first rest ih =>
      rcases first with ⟨k, v⟩
      by_cases before : key < k
      · rw [putMember, if_pos before, lookup_cons_eq_ite]
      · by_cases here : key = k
        · subst here
          rw [putMember, if_neg before, if_pos rfl, lookup_cons_eq_ite, lookup_cons_eq_ite]
          by_cases same : other = key <;> simp [same]
        · rw [putMember, if_neg before, if_neg here, lookup_cons_eq_ite, lookup_cons_eq_ite, ih]
          by_cases same : other = key
          · rw [if_pos same, if_pos same, if_neg (same ▸ here)]
          · rw [if_neg same, if_neg same]

def KeysRise (members : List (String × Value)) : Prop := (memberKeys members).Pairwise (· < ·)

theorem put_member_keys_rise (rises : KeysRise members) :
    KeysRise (putMember key value members) := by
  induction members with
  | nil => simp [putMember, KeysRise, memberKeys]
  | cons first rest ih =>
      rcases first with ⟨k, v⟩
      have parts := List.pairwise_cons.mp rises
      unfold putMember
      split_ifs with before here
      · apply List.pairwise_cons.mpr
        refine ⟨?_, rises⟩
        intro other later
        rcases List.mem_cons.mp later with rfl | behind
        · exact before
        · exact String.lt_trans before (parts.1 other behind)
      · subst here
        exact rises
      · have after : k < key := by
          by_contra notAfter
          exact here (String.le_antisymm (String.not_lt.mp notAfter) (String.not_lt.mp before))
        apply List.pairwise_cons.mpr
        refine ⟨?_, ih parts.2⟩
        intro other later
        rcases (mem_keys_put_member other).mp later with rfl | behind
        · exact after
        · exact parts.1 other behind

theorem splits_at_iff (rises : KeysRise members) (here before : String × Value → Prop) :
    (∃ earlier member later, members = earlier ++ member :: later ∧
        (∀ other ∈ earlier, before other) ∧ here member) ↔
      ∃ member ∈ members, here member ∧
        ∀ other ∈ members, other.1 < member.1 → before other := by
  have ordered := List.pairwise_map.mp rises
  constructor
  · rintro ⟨earlier, member, later, rfl, all, holds⟩
    refine ⟨member, by simp, holds, ?_⟩
    intro other listed smaller
    rcases List.mem_append.mp listed with inFront | behind
    · exact all other inFront
    · rcases List.mem_cons.mp behind with rfl | after
      · exact absurd smaller (String.lt_irrefl _)
      · have parts := List.pairwise_cons.mp (List.pairwise_append.mp ordered).2.1
        exact absurd smaller (String.lt_asymm (parts.1 other after))
  · rintro ⟨member, listed, holds, all⟩
    obtain ⟨earlier, later, rfl⟩ := List.append_of_mem listed
    refine ⟨earlier, member, later, rfl, ?_, holds⟩
    intro other inFront
    have smaller := (List.pairwise_append.mp ordered).2.2 other inFront member List.mem_cons_self
    exact all other (List.mem_append_left _ inFront) smaller

theorem put_member_perm (fresh : key ∉ memberKeys members) :
    (putMember key value members).Perm ((key, value) :: members) := by
  induction members with
  | nil => exact .refl _
  | cons first rest ih =>
      rcases first with ⟨k, v⟩
      have apart := List.ne_and_not_mem_of_not_mem_cons fresh
      unfold putMember
      split_ifs with before here
      · exact .refl _
      · exact absurd here apart.1
      · exact ((ih apart.2).cons (k, v)).trans (.swap (key, value) (k, v) rest)

theorem in_key_order_concat (members : List (String × Value)) (last : String × Value) :
    inKeyOrder (members ++ [last]) = putMember last.1 last.2 (inKeyOrder members) := by
  rw [inKeyOrder, List.foldl_append]
  rfl

theorem in_key_order_rises (members : List (String × Value)) : KeysRise (inKeyOrder members) := by
  induction members using List.reverseRecOn with
  | nil => exact List.Pairwise.nil
  | append_singleton members last ih =>
      rw [in_key_order_concat]
      exact put_member_keys_rise ih

theorem in_key_order_keys_nodup (members : List (String × Value)) :
    (memberKeys (inKeyOrder members)).Nodup := by
  apply (in_key_order_rises members).imp
  intro one other before same
  exact String.lt_irrefl _ (same ▸ before)

theorem mem_keys_in_key_order (members : List (String × Value)) :
    key ∈ memberKeys (inKeyOrder members) ↔ key ∈ memberKeys members := by
  induction members using List.reverseRecOn with
  | nil => rfl
  | append_singleton members last ih =>
      rw [in_key_order_concat, mem_keys_put_member, ih, memberKeys, memberKeys, List.map_append]
      simp [or_comm]

theorem lookup_in_key_order (members : List (String × Value)) :
    (inKeyOrder members).lookup key = member? key members := by
  induction members using List.reverseRecOn with
  | nil => rfl
  | append_singleton members last ih =>
      rw [in_key_order_concat, lookup_put_member, ih, member?, member?, List.reverse_append,
        List.reverse_singleton, List.singleton_append, lookup_cons_eq_ite]

theorem mem_in_key_order_iff (member : String × Value) :
    member ∈ inKeyOrder members ↔ member? member.1 members = some member.2 := by
  rw [← lookup_in_key_order, lookup_eq_some_iff (in_key_order_keys_nodup members)]

theorem member_eq_none_iff : member? key members = none ↔ key ∉ memberKeys members := by
  rw [← lookup_in_key_order, lookup_eq_none_iff, mem_keys_in_key_order]

theorem mem_keys_of_member (found : member? key members = some value) : key ∈ memberKeys members := by
  by_contra absent
  rw [member_eq_none_iff.mpr absent] at found
  cases found

theorem member_without {other : String} (differs : key ≠ other)
    (before after : List (String × Value)) (v : Value) :
    member? key (before ++ (other, v) :: after) = member? key (before ++ after) := by
  have skipped (behind : List (String × Value)) :
      ((other, v) :: behind).lookup key = behind.lookup key := by
    rw [lookup_cons_eq_ite, if_neg differs]
  simp only [member?, List.reverse_append, List.reverse_cons, List.lookup_append, skipped,
    List.lookup_nil, Option.or_none]

theorem in_key_order_perm (distinct : (memberKeys members).Nodup) :
    (inKeyOrder members).Perm members := by
  induction members using List.reverseRecOn with
  | nil => exact .refl _
  | append_singleton members last ih =>
      rw [memberKeys, List.map_append, List.nodup_append] at distinct
      have fresh : last.1 ∉ memberKeys (inKeyOrder members) := by
        rw [mem_keys_in_key_order]
        intro again
        exact distinct.2.2 last.1 again last.1 (by simp) rfl
      rw [in_key_order_concat]
      have first := (ih distinct.1).cons last
      exact (put_member_perm fresh).trans (first.trans (List.perm_append_singleton last members).symm)

end OpcodeShapes
