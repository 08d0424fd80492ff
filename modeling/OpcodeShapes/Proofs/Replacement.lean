import OpcodeShapes.Proofs.Soundness

/-!
# What a replacement leaves alone

A replacement takes the shape of one name and, if the new shape has another
opcode, moves one key of one index. Everything else stays: the names and where
they stand, the shapes of the other names, the holders of the other opcodes, and
the settings. The opcode of the old shape is free afterwards, for a new name as
well as for any other one that is there.
-/

namespace OpcodeShapes

set_option autoImplicit false

/-- All that differs between two drafts is the shape at one position, which belongs to one name, and
who holds its old and its new opcode. -/
structure Reshapes (before : Draft) (name : String) (position : Nat) (old new : Shape)
    (after : Draft) : Prop where
  names_kept : Entry.names after.entries = Entry.names before.entries
  size_kept : after.entries.length = before.entries.length
  positions_kept : after.byName = before.byName
  fallback_kept : after.fallback = before.fallback
  strict_kept : after.strict = before.strict
  old_before : before.find? name = some (position, old)
  new_after : after.find? name = some (position, new)
  others_kept : ∀ other, other ≠ name → after.find? other = before.find? other
  elsewhere_kept : ∀ place, place ≠ position → after.entries[place]? = before.entries[place]?
  opcode_taken : after.holder? new.opcode = some (position, name)
  opcode_freed : old.opcode ≠ new.opcode → old.opcode ∉ after.byOpcode
  opcodes_kept : ∀ opcode, opcode ≠ old.opcode → opcode ≠ new.opcode →
    after.byOpcode[opcode]? = before.byOpcode[opcode]?

section Swap

variable {draft : Draft} {name : String} {position : Nat} {old new : Shape}

theorem swap_at (present : draft.entries[position]? = some ⟨name, old⟩) (place : Nat) :
    (draft.swap position old new).entries[place]? =
      if place = position then some ⟨name, new⟩ else draft.entries[place]? := by
  have inside := (List.getElem?_eq_some_iff.mp present).1
  rw [swap_entries present, List.getElem?_set]
  by_cases here : place = position
  · subst here
    simp [inside]
  · simp [here, Ne.symm here]

theorem swap_by_opcode (opcode : String) :
    (draft.swap position old new).byOpcode[opcode]? =
      if new.opcode = opcode then some position
      else if old.opcode = opcode then none else draft.byOpcode[opcode]? := by
  simp only [Draft.swap, Std.ExtTreeMap.getElem?_insert, Std.ExtTreeMap.getElem?_erase,
    Std.LawfulEqCmp.compare_eq_iff_eq]

theorem swap_finds_others (sound : draft.Sound) (swapped : (draft.swap position old new).Sound)
    (present : draft.entries[position]? = some ⟨name, old⟩) {other : String}
    (differs : other ≠ name) : (draft.swap position old new).find? other = draft.find? other := by
  apply Option.ext
  rintro ⟨place, shape⟩
  rw [swapped.find_eq_some_iff, sound.find_eq_some_iff, swap_at present]
  -- The entry of the other name stands at another position.
  by_cases here : place = position
  · subst here
    simp [present, Ne.symm differs]
  · rw [if_neg here]

theorem swap_reshapes (sound : draft.Sound) (found : draft.find? name = some (position, old))
    (taken : draft.refusesSwap? position name new = none) :
    Reshapes draft name position old new (draft.swap position old new) := by
  have present := (sound.find_eq_some_iff name position old).mp found
  have swapped := swap_sound sound found taken
  have written : (draft.swap position old new).entries[position]? = some ⟨name, new⟩ :=
    (swap_at present position).trans (if_pos rfl)
  constructor
  · exact swap_names present new
  · rw [swap_entries present, List.length_set]
  · rfl
  · rfl
  · rfl
  · exact found
  · exact (swapped.find_eq_some_iff name position new).mpr written
  · exact fun other differs => swap_finds_others sound swapped present differs
  · exact fun place elsewhere => (swap_at present place).trans (if_neg elsewhere)
  · exact (swapped.holder_eq_some_iff new.opcode position name).mpr ⟨new, written, rfl⟩
  · intro differs
    rw [Std.ExtTreeMap.mem_iff_isSome_getElem?, swap_by_opcode, if_neg (Ne.symm differs), if_pos rfl]
    simp
  · intro opcode notOld notNew
    rw [swap_by_opcode, if_neg (Ne.symm notNew), if_neg (Ne.symm notOld)]

end Swap

section Free

variable {draft : Draft} {name : String} {shape : Shape}

theorem register_free (free : draft.holder? shape.opcode = none)
    (valid : draft.strict = true → shape.validate = .ok ()) (nameable : ¬ Text.Blank name)
    (fresh : draft.containsName name = false) :
    outcome (Draft.register name shape) draft = (.ok (), draft.append name shape) := by
  rw [register_eq_ok_iff, refuses_new_eq_none_iff, invalid_eq_none_iff]
  exact ⟨⟨nameable, fresh, free, valid⟩, rfl⟩

theorem replace_free (free : draft.holder? shape.opcode = none)
    (valid : draft.strict = true → shape.validate = .ok ()) {position : Nat} {old : Shape}
    (found : draft.find? name = some (position, old)) :
    outcome (Draft.replace name shape) draft = (.ok old, draft.swap position old shape) := by
  rw [replace_eq_ok_iff]
  refine ⟨position, found, ?_, rfl⟩
  rw [refuses_swap_eq_none_iff, invalid_eq_none_iff, free]
  exact ⟨by simp, valid⟩

end Free

/-- A replacement that is not refused gives back the shape that stood under the name and reshapes
that name alone. If the opcodes differ, the old one can be given at once to a shape under a new name
and to another shape of any name that is there. -/
theorem replacement_frame {before : Draft} (reachable : before.Reachable) {name : String}
    {new old : Shape} {after : Draft}
    (replaced : outcome (Draft.replace name new) before = (.ok old, after)) :
    ∃ position, Reshapes before name position old new after ∧
      (old.opcode ≠ new.opcode → ∀ taker : Shape, taker.opcode = old.opcode →
        (after.strict = true → taker.validate = .ok ()) →
        (∀ fresh, ¬ Text.Blank fresh → after.containsName fresh = false →
          outcome (Draft.register fresh taker) after = (.ok (), after.append fresh taker)) ∧
        ∀ other place held, after.find? other = some (place, held) →
          outcome (Draft.replace other taker) after = (.ok held, after.swap place held taker)) := by
  rcases (replace_eq_ok_iff name new old before after).mp replaced with ⟨position, found, taken, rfl⟩
  have reshapes := swap_reshapes reachable.sound found taken
  refine ⟨position, reshapes, ?_⟩
  intro differs taker same valid
  have swapped := swap_sound reachable.sound found taken
  have free : (before.swap position old new).holder? taker.opcode = none := by
    rw [swapped.holder_eq_none_iff, ← swapped.opcodes.mem_iff, same]
    exact reshapes.opcode_freed differs
  exact ⟨fun fresh nameable unknown => register_free free valid nameable unknown,
    fun other place held foundOther => replace_free free valid foundOther⟩

def marchingBand : List Operation :=
  [.setStrict true,
   .register "FIFE" ⟨"fife_plays", Flags.hatCap, by decide⟩,
   .register "DRUM" ⟨"drum_beats", Flags.none, by decide⟩,
   .designate "FIFE"]

/-- The fife gives its opcode up. A flute or the drum can have it then. -/
theorem fife_replaced_in_its_frame :
    ∃ after, (Draft.empty.after marchingBand).Reachable ∧
      outcome (Draft.replace "FIFE" ⟨"fife_rests", Flags.none, by decide⟩)
        (Draft.empty.after marchingBand) =
          (.ok ⟨"fife_plays", Flags.hatCap, by decide⟩, after) ∧
      after.fallback = some 0 ∧ "fife_plays" ∉ after.byOpcode ∧
      (outcome (Draft.register "FLUTE" ⟨"fife_plays", Flags.none, by decide⟩) after).1 = .ok () ∧
      (outcome (Draft.replace "DRUM" ⟨"fife_plays", Flags.none, by decide⟩) after).1 =
        .ok ⟨"drum_beats", Flags.none, by decide⟩ := by
  have reachable : (Draft.empty.after marchingBand).Reachable := ⟨marchingBand, rfl⟩
  have replaced : outcome (Draft.replace "FIFE" ⟨"fife_rests", Flags.none, by decide⟩)
      (Draft.empty.after marchingBand) = (.ok ⟨"fife_plays", Flags.hatCap, by decide⟩, _) := rfl
  rcases replacement_frame reachable replaced with ⟨position, reshapes, free⟩
  rcases free (by decide) ⟨"fife_plays", Flags.none, by decide⟩ rfl (fun _ => rfl) with
    ⟨registered, replacedToo⟩
  refine ⟨_, reachable, replaced, ?_, reshapes.opcode_freed (by decide), ?_, ?_⟩
  · rw [reshapes.fallback_kept]
    rfl
  · rw [registered "FLUTE" (by decide) (by decide)]
  · rw [replacedToo "DRUM" 1 ⟨"drum_beats", Flags.none, by decide⟩ rfl]

end OpcodeShapes
