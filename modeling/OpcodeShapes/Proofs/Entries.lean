import OpcodeShapes.Proofs.Soundness

/-!
# The entries of a history

What a draft holds after some writes can be told without going through them one
by one. The entries from before stand first, then the registered ones in the
order of their registration, and each has the shape of the last replacement
under its name that came after it. Designations and switches leave no trace in
the list.
-/

namespace OpcodeShapes

set_option autoImplicit false

def Write.replacement? (name : String) : Write → Option Shape
  | .replace other shape => if other = name then some shape else none
  | .register _ _ => none
  | .designate _ => none
  | .setStrict _ => none

def lastReplacement (name : String) (writes : List Write) : Option Shape :=
  (writes.filterMap (Write.replacement? name)).getLast?

/-- An entry as some later writes leave it. -/
def settled (writes : List Write) (entry : Entry) : Entry :=
  ⟨entry.name, (lastReplacement entry.name writes).getD entry.shape⟩

/-- The entries that some writes bring, as the writes behind each of them leave it. -/
def registered : List Write → List Entry
  | [] => []
  | .register name shape :: rest => settled rest ⟨name, shape⟩ :: registered rest
  | .replace _ _ :: rest => registered rest
  | .designate _ :: rest => registered rest
  | .setStrict _ :: rest => registered rest

theorem last_brought_cons {Brought : Type} (brings : Write → Option Brought) (write : Write)
    (rest : List Write) :
    ((write :: rest).filterMap brings).getLast? =
      (rest.filterMap brings).getLast?.or (brings write) := by
  cases brought : brings write with
  | none => rw [List.filterMap_cons_none brought, Option.or_none]
  | some value =>
      rw [List.filterMap_cons_some brought, List.getLast?_cons]
      cases (rest.filterMap brings).getLast? <;> rfl

theorem last_replacement_cons (name : String) (write : Write) (rest : List Write) :
    lastReplacement name (write :: rest) =
      (lastReplacement name rest).or (write.replacement? name) :=
  last_brought_cons (Write.replacement? name) write rest

theorem settled_nil : settled [] = id := by
  funext entry
  rfl

theorem settled_cons_of_none {write : Write} (rest : List Write)
    (silent : ∀ name, write.replacement? name = none) : settled (write :: rest) = settled rest := by
  funext entry
  rw [settled, last_replacement_cons, silent, Option.or_none, settled]

theorem settled_cons_replace (name : String) (shape : Shape) (rest : List Write) :
    settled (.replace name shape :: rest) =
      settled rest ∘ fun entry => if entry.name = name then ⟨name, shape⟩ else entry := by
  funext entry
  simp only [settled, last_replacement_cons, Write.replacement?, Function.comp_apply]
  by_cases same : entry.name = name
  · subst same
    simp only [if_true]
    cases lastReplacement entry.name rest <;> rfl
  · rw [if_neg same, if_neg (Ne.symm same), Option.or_none]

theorem reached_entries {draft last : Draft} {writes : List Write}
    (reaches : Reaches draft writes last) (sound : draft.Sound) :
    last.entries = draft.entries.map (settled writes) ++ registered writes := by
  induction reaches with
  | done => rw [settled_nil, List.map_id, registered, List.append_nil]
  | @step draft next last write rest first _ ih =>
      rw [ih (step_sound first sound)]
      cases first with
      | @register name shape taken =>
          rw [settled_cons_of_none rest fun _ => rfl, Draft.append, List.map_append,
            List.append_assoc]
          rfl
      | @replace name position old shape found taken =>
          have present := (sound.find_eq_some_iff name position old).mp found
          rw [swap_entries_eq_map sound present, List.map_map, settled_cons_replace]
          rfl
      | designate found =>
          rw [settled_cons_of_none rest fun _ => rfl]
          rfl
      | setStrict =>
          rw [settled_cons_of_none rest fun _ => rfl]
          rfl

end OpcodeShapes
