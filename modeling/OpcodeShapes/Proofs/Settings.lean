import OpcodeShapes.Proofs.Soundness

/-!
# The designated name and the strictness

Beside its entries a draft keeps two settings. The fallback is kept as a
position, but it is a name that was designated: no other write moves the name
at that position, so it is always the name of the last designation that was not
refused. The strictness is what it was last set to.
-/

namespace OpcodeShapes

set_option autoImplicit false

def Draft.fallbackName (draft : Draft) : Option String :=
  draft.fallback.bind fun position => (Entry.names draft.entries)[position]?

/-- The name in the last designation among some writes, or the one before them. -/
def lastDesignated (before : Option String) : List Write → Option String
  | [] => before
  | .designate name :: rest => lastDesignated (some name) rest
  | .register _ _ :: rest => lastDesignated before rest
  | .replace _ _ :: rest => lastDesignated before rest
  | .setStrict _ :: rest => lastDesignated before rest

def lastStrictness (before : Bool) : List Write → Bool
  | [] => before
  | .setStrict strict :: rest => lastStrictness strict rest
  | .register _ _ :: rest => lastStrictness before rest
  | .replace _ _ :: rest => lastStrictness before rest
  | .designate _ :: rest => lastStrictness before rest

theorem append_fallback_name {draft : Draft} (sound : draft.Sound) (name : String) (shape : Shape) :
    (draft.append name shape).fallbackName = draft.fallbackName := by
  simp only [Draft.fallbackName, Draft.append]
  cases designated : draft.fallback with
  | none => rfl
  | some position =>
      have inside := sound.fallback_inside position designated
      simp only [Option.bind_some, Entry.names, List.map_append]
      rw [List.getElem?_append_left (by simpa using inside)]

theorem swap_fallback_name {draft : Draft} {name : String} {position : Nat} {old : Shape}
    (present : draft.entries[position]? = some ⟨name, old⟩) (new : Shape) :
    (draft.swap position old new).fallbackName = draft.fallbackName := by
  rw [Draft.fallbackName, swap_names present]
  rfl

theorem designate_fallback_name {draft : Draft} {name : String} {position : Nat} {shape : Shape}
    (present : draft.entries[position]? = some ⟨name, shape⟩) :
    ({ draft with fallback := some position } : Draft).fallbackName = some name := by
  simp [Draft.fallbackName, Entry.names, present]

theorem fallback_eq_some_iff {draft : Draft} (sound : draft.Sound) (position : Nat) :
    draft.fallback = some position ↔
      ∃ name, draft.fallbackName = some name ∧
        (Entry.names draft.entries)[position]? = some name := by
  constructor
  · intro designated
    have inside : position < (Entry.names draft.entries).length := by
      simpa [Entry.names] using sound.fallback_inside position designated
    refine ⟨(Entry.names draft.entries)[position], ?_, List.getElem?_eq_getElem inside⟩
    rw [Draft.fallbackName, designated]
    exact List.getElem?_eq_getElem inside
  · rintro ⟨name, named, here⟩
    rcases Option.bind_eq_some_iff.mp named with ⟨other, designated, there⟩
    rw [designated, sound.names.position_unique there here]

theorem reached_fallback_name {draft last : Draft} {writes : List Write}
    (reaches : Reaches draft writes last) (sound : draft.Sound) :
    last.fallbackName = lastDesignated draft.fallbackName writes := by
  induction reaches with
  | done => rfl
  | @step draft next last write rest first _ ih =>
      rw [ih (step_sound first sound)]
      cases first with
      | register taken => rw [append_fallback_name sound, lastDesignated]
      | @replace name position old shape found taken =>
          have present := (sound.find_eq_some_iff name position old).mp found
          rw [swap_fallback_name present, lastDesignated]
      | @designate name position shape found =>
          have present := (sound.find_eq_some_iff name position shape).mp found
          rw [designate_fallback_name present, lastDesignated]
      | setStrict => rfl

theorem reached_strictness {draft last : Draft} {writes : List Write}
    (reaches : Reaches draft writes last) :
    last.strict = lastStrictness draft.strict writes := by
  induction reaches with
  | done => rfl
  | step first _ ih =>
      rw [ih]
      cases first <;> rfl

end OpcodeShapes
