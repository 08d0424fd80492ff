import OpcodeShapes.Proofs.Refinement

/-!
# Why a change is refused

A change is refused for one of four reasons. Its mode does not fit its name: it
adds a known name or replaces an unknown one. Or its opcode is that of an entry
under another name. Or, asked last and by strict drafts only, it reports a
truth value without being a reporter. No two of the reasons hold at once, so
which one is reported says what is wrong.
-/

namespace OpcodeShapes

set_option autoImplicit false

/-- The reason to refuse a change where some names are known and some entries are there. -/
inductive Refuses (strict : Bool) (names : List String) (entries : List Entry) (change : Change) :
    RegistryError → Prop where
  | unknown (asked : change.mode = .replace) (absent : change.name ∉ names) :
      Refuses strict names entries change (.unknownName change.name)
  | known (asked : change.mode = .add) (present : change.name ∈ names) :
      Refuses strict names entries change (.duplicateName change.name)
  | held {holder : Entry} (fits : change.mode = .replace ↔ change.name ∈ names)
      (member : holder ∈ entries) (same : holder.shape.opcode = change.shape.opcode)
      (other : holder.name ≠ change.name) :
      Refuses strict names entries change (.duplicateOpcode change.shape.opcode holder.name)
  | invalid (fits : change.mode = .replace ↔ change.name ∈ names)
      (free : ∀ holder ∈ entries, holder.shape.opcode = change.shape.opcode →
        holder.name = change.name)
      (checked : strict = true) (boolean : change.shape.get .boolean = .yes)
      (reporter : change.shape.get .reporter ≠ .yes) :
      Refuses strict names entries change
        (.invalidShape change.name (.booleanWithoutReporter change.shape.opcode))

namespace Draft

def hinders? (draft : Draft) (name : String) (shape : Shape) : Option RegistryError :=
  match (draft.holder? shape.opcode).filter fun place => place.2 ≠ name with
  | some (_, holder) => some (.duplicateOpcode shape.opcode holder)
  | none => draft.invalid? name shape

variable {draft : Draft} {name : String} {shape : Shape}

theorem refuses_new_eq_hinders (sound : draft.Sound) (nameable : ¬ Text.Blank name)
    (fresh : name ∉ Entry.names draft.entries) :
    draft.refusesNew? name shape = draft.hinders? name shape := by
  have unknown : ¬ draft.containsName name = true := by
    rw [sound.contains_name_iff]
    exact fresh
  rw [refusesNew?, if_neg nameable, if_neg unknown, hinders?]
  cases held : draft.holder? shape.opcode with
  | none => rfl
  | some place =>
      rcases place with ⟨position, holder⟩
      rcases (sound.holder_eq_some_iff shape.opcode position holder).mp held with ⟨_, present, _⟩
      -- Nobody holds an opcode under a name that is not there.
      have other : holder ≠ name := by
        rintro rfl
        exact fresh (List.mem_map_of_mem (List.mem_of_getElem? present))
      simp [Option.filter_some, other]

theorem refuses_swap_eq_hinders (sound : draft.Sound) {position : Nat} {old : Shape}
    (found : draft.find? name = some (position, old)) :
    draft.refusesSwap? position name shape = draft.hinders? name shape := by
  rw [refuses_swap_eq, hinders?]
  cases held : draft.holder? shape.opcode with
  | none => rfl
  | some place =>
      have own := holder_is_own_iff sound found held
      by_cases here : place.1 = position
      · simp [Option.filter_some, here, own.mpr here]
      · have other : place.2 ≠ name := fun same => here (own.mp same)
        simp [Option.filter_some, here, other]

theorem invalid_eq_some_iff (reason : RegistryError) :
    draft.invalid? name shape = some reason ↔
      draft.strict = true ∧ shape.get .boolean = .yes ∧ shape.get .reporter ≠ .yes ∧
        reason = .invalidShape name (.booleanWithoutReporter shape.opcode) := by
  unfold invalid? Shape.validate
  split_ifs with checked broken
  · simp [checked, broken, eq_comm]
  · simp only [checked, true_and, false_iff]
    rintro ⟨boolean, reporter, _⟩
    exact broken ⟨boolean, reporter⟩
  · simp [checked]

theorem hinders_eq_some_iff (sound : draft.Sound) (reason : RegistryError) :
    draft.hinders? name shape = some reason ↔
      (∃ holder ∈ draft.entries, holder.shape.opcode = shape.opcode ∧ holder.name ≠ name ∧
        reason = .duplicateOpcode shape.opcode holder.name) ∨
      (∀ holder ∈ draft.entries, holder.shape.opcode = shape.opcode → holder.name = name) ∧
        draft.invalid? name shape = some reason := by
  unfold hinders?
  cases found : (draft.holder? shape.opcode).filter fun place => place.2 ≠ name with
  | none =>
      have free : ∀ holder ∈ draft.entries, holder.shape.opcode = shape.opcode →
          holder.name = name := by
        intro holder member same
        rcases sound.exists_holder member with ⟨position, held⟩
        rw [same] at held
        simpa [held, Option.filter_some] using found
      constructor
      · intro invalid
        exact .inr ⟨free, invalid⟩
      · rintro (⟨holder, member, same, other, _⟩ | ⟨_, invalid⟩)
        · exact absurd (free holder member same) other
        · exact invalid
  | some place =>
      rcases place with ⟨position, owner⟩
      rcases Option.filter_eq_some_iff.mp found with ⟨held, other⟩
      have apart : owner ≠ name := by simpa using other
      rcases (sound.holder_eq_some_iff shape.opcode position owner).mp held with
        ⟨old, present, same⟩
      have member : ⟨owner, old⟩ ∈ draft.entries := List.mem_of_getElem? present
      constructor
      · intro told
        exact .inl ⟨_, member, same, apart, (Option.some.inj told).symm⟩
      · rintro (⟨holder, listed, sameToo, _, rfl⟩ | ⟨free, _⟩)
        · rcases sound.exists_holder listed with ⟨place, heldToo⟩
          rw [sameToo, held] at heldToo
          rw [(Prod.mk.inj (Option.some.inj heldToo)).2]
        · exact absurd (free _ member same) apart

end Draft

section Changes

variable {draft : Draft} {change : Change}

def Change.misfit (change : Change) : RegistryError :=
  match change.mode with
  | .add => .duplicateName change.name
  | .replace => .unknownName change.name

theorem outcome_unfit_change (sound : draft.Sound) (nameable : ¬ Text.Blank change.name)
    (unfit : ¬ (change.mode = .replace ↔ change.name ∈ Entry.names draft.entries)) :
    outcome change.perform draft = (.error change.misfit, draft) := by
  rw [outcome_change, Change.misfit]
  cases mode : change.mode with
  | add =>
      have known : draft.containsName change.name = true := by
        rw [sound.contains_name_iff]
        simpa [mode] using unfit
      dsimp only
      rw [outcome_register, Draft.refusesNew?, if_neg nameable, if_pos known]
  | replace =>
      have unknown : draft.find? change.name = none := by
        rw [sound.find_eq_none_iff]
        simpa [mode] using unfit
      dsimp only
      rw [outcome_replace, unknown]
      rfl

theorem outcome_fitting_change (sound : draft.Sound) (nameable : ¬ Text.Blank change.name)
    (fits : change.mode = .replace ↔ change.name ∈ Entry.names draft.entries) :
    ∃ next, outcome change.perform draft =
      match draft.hinders? change.name change.shape with
      | some reason => (.error reason, draft)
      | none => (.ok (), next) := by
  rw [outcome_change]
  cases mode : change.mode with
  | add =>
      have fresh : change.name ∉ Entry.names draft.entries := by simpa [mode] using fits
      refine ⟨draft.append change.name change.shape, ?_⟩
      have taken : draft.refusesNew? change.name change.shape =
          draft.hinders? change.name change.shape :=
        Draft.refuses_new_eq_hinders sound nameable fresh
      dsimp only
      rw [outcome_register]
      cases hindered : draft.hinders? change.name change.shape <;> simp [taken, hindered]
  | replace =>
      rcases List.mem_map.mp (fits.mp mode) with ⟨entry, member, same⟩
      rcases sound.exists_found member with ⟨position, found⟩
      rw [same] at found
      refine ⟨draft.swap position entry.shape change.shape, ?_⟩
      dsimp only
      rw [outcome_replace, found]
      dsimp only
      rw [Draft.refuses_swap_eq_hinders sound found]
      cases draft.hinders? change.name change.shape <;> rfl

theorem unfit_refuses_iff {strict : Bool} {names : List String} {entries : List Entry}
    (unfit : ¬ (change.mode = .replace ↔ change.name ∈ names)) (reason : RegistryError) :
    Refuses strict names entries change reason ↔ change.misfit = reason := by
  unfold Change.misfit
  constructor
  · intro refuses
    cases refuses with
    | unknown asked absent => rw [asked]
    | known asked present => rw [asked]
    | held fits => exact absurd fits unfit
    | invalid fits => exact absurd fits unfit
  · rintro rfl
    cases mode : change.mode with
    | add => exact .known mode (by simpa [mode] using unfit)
    | replace => exact .unknown mode (by simpa [mode] using unfit)

theorem fitting_refuses_iff (sound : draft.Sound)
    (fits : change.mode = .replace ↔ change.name ∈ Entry.names draft.entries)
    (reason : RegistryError) :
    Refuses draft.strict (Entry.names draft.entries) draft.entries change reason ↔
      draft.hinders? change.name change.shape = some reason := by
  rw [Draft.hinders_eq_some_iff sound, Draft.invalid_eq_some_iff]
  constructor
  · intro refuses
    cases refuses with
    | unknown asked absent => exact absurd (fits.mp asked) absent
    | known asked present =>
        have replaces := fits.mpr present
        rw [asked] at replaces
        cases replaces
    | held _ member same other => exact .inl ⟨_, member, same, other, rfl⟩
    | invalid _ free checked boolean reporter =>
        exact .inr ⟨free, checked, boolean, reporter, rfl⟩
  · rintro (⟨holder, member, same, other, rfl⟩ | ⟨free, checked, boolean, reporter, rfl⟩)
    · exact .held fits member same other
    · exact .invalid fits free checked boolean reporter

/-- Whether a sound draft refuses a change, and why, can be told by the names and the entries that it
has at that moment. -/
theorem change_refused_iff (sound : draft.Sound) (nameable : ¬ Text.Blank change.name)
    (reason : RegistryError) :
    outcome change.perform draft = (.error reason, draft) ↔
      Refuses draft.strict (Entry.names draft.entries) draft.entries change reason := by
  by_cases fits : change.mode = .replace ↔ change.name ∈ Entry.names draft.entries
  · rcases outcome_fitting_change sound nameable fits with ⟨next, answered⟩
    rw [fitting_refuses_iff sound fits, answered]
    cases draft.hinders? change.name change.shape <;> simp
  · rw [unfit_refuses_iff fits, outcome_unfit_change sound nameable fits]
    simp

end Changes

end OpcodeShapes
