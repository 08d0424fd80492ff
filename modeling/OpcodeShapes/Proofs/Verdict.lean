import OpcodeShapes.Proofs.Fallback
import OpcodeShapes.Proofs.LastWrites

/-!
# When a draft can be built

A draft keeps the fallback as a position that was looked up when it was
designated, and judges what stands there when it is built. The judgement is
about the name that was designated last and the shape that was written last
under it, and about nothing else: not what stood under the name in between,
not whom else the designation went to before, not what was refused.
-/

namespace OpcodeShapes

set_option autoImplicit false

/-- What building makes of the designated entry: the fallback, or the fault found in it. -/
def verdict : Option Entry → Except RegistryError Shape
  | none => .error .missingFallback
  | some entry =>
    if entry.shape.flags = Flags.hatCap then .ok entry.shape
    else .error (.invalidFallback entry.name entry.shape.opcode)

def Draft.designated? (draft : Draft) : Option Entry :=
  draft.fallback.bind fun position => draft.entries[position]?

/-- The entry that some writes leave designated, if they designate a name that is there. -/
def designatedBy (writes : List Write) : Option Entry := do
  let name ← lastDesignated none writes
  let shape ← lastWritten name writes
  return ⟨name, shape⟩

theorem build_verdict {draft : Draft} (sound : draft.Sound) :
    draft.build.map Registry.fallback = verdict draft.designated? := by
  unfold Draft.designated?
  cases designated : draft.fallback with
  | none =>
      rw [build_undesignated designated]
      rfl
  | some position =>
      have inside := sound.fallback_inside position designated
      have present := List.getElem?_eq_getElem inside
      rw [build_eq sound designated present, Option.bind_some, present, verdict]
      split_ifs <;> rfl

theorem designated_of_fallback_name {draft : Draft} {name : String}
    (named : draft.fallbackName = some name) :
    ∃ shape, ⟨name, shape⟩ ∈ draft.entries ∧ draft.designated? = some ⟨name, shape⟩ := by
  rcases Option.bind_eq_some_iff.mp named with ⟨position, designation, found⟩
  rw [Entry.names, List.getElem?_map] at found
  rcases Option.map_eq_some_iff.mp found with ⟨entry, present, rfl⟩
  refine ⟨entry.shape, List.mem_of_getElem? present, ?_⟩
  rw [Draft.designated?, designation]
  exact present

theorem build_eq_error_iff (draft : Draft) (reason : RegistryError) :
    draft.build = .error reason ↔ draft.build.map Registry.fallback = .error reason := by
  cases draft.build <;> simp [Except.map]

theorem exists_built_fallback_iff (draft : Draft) (shape : Shape) :
    (∃ registry, draft.build = .ok registry ∧ registry.fallback = shape) ↔
      draft.build.map Registry.fallback = .ok shape := by
  cases draft.build <;> simp [Except.map]

theorem hat_cap_iff (shape : Shape) :
    shape.flags = Flags.hatCap ↔
      ∀ flag, shape.get flag = if flag = .hat ∨ flag = .cap then .yes else .no :=
  eq_hat_cap_iff shape.flags

theorem last_designated_eq_none_iff (before : Option String) (writes : List Write) :
    lastDesignated before writes = none ↔ before = none ∧ ∀ name, .designate name ∉ writes := by
  induction writes generalizing before with
  | nil => simp [lastDesignated]
  | cons write rest ih =>
      cases write with
      | register name shape => simpa [lastDesignated] using ih before
      | replace name shape => simpa [lastDesignated] using ih before
      | setStrict strict => simpa [lastDesignated] using ih before
      | designate name =>
          rw [lastDesignated, ih]
          constructor
          · intro none
            cases none.1
          · intro none
            exact absurd List.mem_cons_self (none.2 name)

/-- A name that was designated is still there in the end, and it is the designated one. -/
theorem designated_entry {last : Draft} {writes : List Write}
    (reaches : Reaches Draft.empty writes last) {name : String}
    (designated : lastDesignated none writes = some name) :
    ∃ shape, lastWritten name writes = some shape ∧ ⟨name, shape⟩ ∈ last.entries ∧
      last.designated? = some ⟨name, shape⟩ := by
  have named : last.fallbackName = some name :=
    (reached_fallback_name reaches empty_draft_sound).trans designated
  rcases designated_of_fallback_name named with ⟨shape, member, found⟩
  have written := ((entries_from_nothing reaches).2.2 name shape).mp member
  exact ⟨shape, written, member, found⟩

theorem reached_designated {last : Draft} {writes : List Write}
    (reaches : Reaches Draft.empty writes last) : last.designated? = designatedBy writes := by
  unfold designatedBy
  cases designated : lastDesignated none writes with
  | none =>
      have named : last.fallbackName = none :=
        (reached_fallback_name reaches empty_draft_sound).trans designated
      have sound := reached_sound reaches empty_draft_sound
      unfold Draft.designated?
      cases designation : last.fallback with
      | none => rfl
      | some position =>
          have inside := sound.fallback_inside position designation
          simp [Draft.fallbackName, Entry.names, designation, inside] at named
  | some name =>
      rcases designated_entry reaches designated with ⟨shape, written, _, found⟩
      simp [written, found]

theorem exists_built_of_hat_cap {draft : Draft} (sound : draft.Sound) {entry : Entry}
    (designated : draft.designated? = some entry) (hatCap : entry.shape.flags = Flags.hatCap) :
    ∃ registry, draft.build = .ok registry := by
  have judged := build_verdict sound
  rw [designated, verdict, if_pos hatCap] at judged
  rcases (exists_built_fallback_iff draft entry.shape).mpr judged with ⟨registry, built, _⟩
  exact ⟨registry, built⟩

namespace Catalogue

theorem fallback_flags {entry : Entry} (member : entry ∈ entries)
    (named : entry.name = fallbackName) : entry.shape.flags = Flags.hatCap := by
  have listed : entry.row ∈ rows := by
    rw [← entries_row]
    exact List.mem_map_of_mem member
  have last : (⟨fallbackName, "red_hat_block", Flags.hatCap⟩ : Row) ∈ rows := by
    rw [rows, List.mem_append]
    right
    simp [shared]
  -- Only one row has the name of the fallback.
  have same := List.inj_on_of_nodup_map names_apart.1 listed last named
  exact congrArg Row.flags same

theorem registry_eq_ok_iff {registry : Registry} :
    Catalogue.registry = .ok registry ↔
      ∃ draft, Catalogue.draft false = .ok draft ∧ draft.build = .ok registry := by
  unfold Catalogue.registry
  cases Catalogue.draft false with
  | error reason => simp [bind, Except.bind]
  | ok draft => simp [bind, Except.bind]

theorem builds : ∃ registry, Catalogue.registry = .ok registry := by
  rcases loads false with ⟨draft, loaded⟩
  have holds := loaded_holds loaded
  rcases designated_of_fallback_name holds.designated with ⟨shape, member, designated⟩
  have hatCap := fallback_flags (holds.listed ▸ member) rfl
  rcases exists_built_of_hat_cap holds.sound designated hatCap with ⟨registry, built⟩
  exact ⟨registry, registry_eq_ok_iff.mpr ⟨draft, loaded, built⟩⟩

end Catalogue

theorem history_verdict {start : Draft} {opening : List Operation}
    (opens : Opening start opening) (history : List Operation) :
    (start.after history).build.map Registry.fallback =
      verdict (designatedBy (Draft.empty.writes (opening ++ history))) := by
  have reaches := opening_reaches opens history
  rw [← reached_designated reaches]
  exact build_verdict (reached_sound reaches empty_draft_sound)

/-- However a history begins: building misses a fallback if and only if no designation was taken.
Otherwise the last one that was taken names an entry, and what was last written under that name
decides. If its flags are exactly a hat and a cap it is the fallback of a registry, and if not, the
fault carries the name and the opcode as it is now. Two histories that agree in these two things
build to the same fallback or the same fault. -/
theorem build_judges_last_designated {start : Draft} {opening : List Operation}
    (opens : Opening start opening) (history : List Operation) :
    let draft := start.after history
    let writes := Draft.empty.writes (opening ++ history)
    (draft.build = .error .missingFallback ↔ ∀ name, .designate name ∉ writes) ∧
      (∀ name, lastDesignated none writes = some name →
        ∃ shape, lastWritten name writes = some shape ∧ ⟨name, shape⟩ ∈ draft.entries ∧
          ((∃ registry, draft.build = .ok registry ∧ registry.fallback = shape) ↔
            ∀ flag, shape.get flag = if flag = .hat ∨ flag = .cap then .yes else .no) ∧
          ((¬ ∀ flag, shape.get flag = if flag = .hat ∨ flag = .cap then .yes else .no) →
            draft.build = .error (.invalidFallback name shape.opcode))) ∧
      ∀ (other : Draft) (otherOpening otherHistory : List Operation), Opening other otherOpening →
        let otherWrites := Draft.empty.writes (otherOpening ++ otherHistory)
        lastDesignated none otherWrites = lastDesignated none writes →
          (∀ name, lastDesignated none writes = some name →
            lastWritten name otherWrites = lastWritten name writes) →
          (other.after otherHistory).build.map Registry.fallback =
            draft.build.map Registry.fallback := by
  intro draft writes
  have reaches : Reaches Draft.empty writes draft := opening_reaches opens history
  have judged : draft.build.map Registry.fallback = verdict (designatedBy writes) :=
    history_verdict opens history
  refine ⟨?_, ?_, ?_⟩
  · rw [build_eq_error_iff, judged]
    have undesignated := last_designated_eq_none_iff none writes
    rw [eq_self, true_and] at undesignated
    rw [← undesignated]
    cases designated : lastDesignated none writes with
    | none => simp [designatedBy, designated, verdict]
    | some name =>
        rcases designated_entry reaches designated with ⟨shape, written, _, _⟩
        simp only [designatedBy, designated, written, Option.bind_eq_bind, Option.bind_some,
          Option.pure_def, verdict]
        split_ifs <;> simp
  · intro name designated
    rcases designated_entry reaches designated with ⟨shape, written, member, _⟩
    have found : designatedBy writes = some ⟨name, shape⟩ := by
      simp [designatedBy, designated, written]
    rw [found, verdict] at judged
    refine ⟨shape, written, member, ?_, ?_⟩
    · rw [exists_built_fallback_iff, judged, ← hat_cap_iff]
      dsimp only
      split_ifs with exactly <;> simp [exactly]
    · intro differs
      rw [build_eq_error_iff, judged, if_neg (fun same => differs ((hat_cap_iff shape).mp same))]
  · intro other otherOpening otherHistory otherOpens otherWrites sameName sameShape
    have same : designatedBy otherWrites = designatedBy writes := by
      unfold designatedBy
      rw [sameName]
      cases designated : lastDesignated none writes with
      | none => rfl
      | some name => simp [sameShape name designated]
    rw [judged, ← same]
    exact history_verdict otherOpens otherHistory

/-- The designation moves on to an entry that loses its shape and its opcode, and gets a hat and a
cap back under a third opcode. What was designated first is spoilt for good. -/
def repairedCover : List Operation :=
  [.extend [⟨"HAT", "hat_of_old", Flags.hatCap⟩, ⟨"COVER", "cover_of_old", Flags.hatCap⟩],
   .designate "HAT",
   .designate "COVER",
   .designate "NOBODY",
   .replace "COVER" ⟨"cover_no_more", Flags.none, by decide⟩,
   .replace "HAT" ⟨"hat_no_more", Flags.none, by decide⟩,
   .change [⟨"COVER", ⟨"cover_of_new", Flags.hatCap, by decide⟩, .replace⟩,
     ⟨"COVER", ⟨"hat_no_more", Flags.none, by decide⟩, .replace⟩]]

theorem repaired_cover_builds :
    (∃ registry, (Draft.empty.after repairedCover).build = .ok registry ∧
      registry.fallback = ⟨"cover_of_new", Flags.hatCap, by decide⟩) ∧
    (Draft.empty.after (repairedCover.take 5)).build =
      .error (.invalidFallback "COVER" "cover_no_more") ∧
    (Draft.empty.after (repairedCover.take 1)).build = .error .missingFallback := by
  refine ⟨?_, ?_, ?_⟩
  · have designated : lastDesignated none (Draft.empty.writes repairedCover) = some "COVER" := by
      decide +kernel
    have last : lastWritten "COVER" (Draft.empty.writes repairedCover) =
        some ⟨"cover_of_new", Flags.hatCap, by decide⟩ := by decide +kernel
    rcases (build_judges_last_designated .empty repairedCover).2.1 "COVER" designated with
      ⟨shape, written, _, builds, _⟩
    obtain rfl := Option.some.inj (written.symm.trans last)
    exact builds.mpr ((hat_cap_iff _).mp rfl)
  · have designated : lastDesignated none (Draft.empty.writes (repairedCover.take 5)) =
        some "COVER" := by decide +kernel
    have last : lastWritten "COVER" (Draft.empty.writes (repairedCover.take 5)) =
        some ⟨"cover_no_more", Flags.none, by decide⟩ := by decide +kernel
    rcases (build_judges_last_designated .empty (repairedCover.take 5)).2.1 "COVER" designated with
      ⟨shape, written, _, _, fault⟩
    obtain rfl := Option.some.inj (written.symm.trans last)
    exact fault fun exactly => by cases exactly .hat
  · have undesignated : lastDesignated none (Draft.empty.writes (repairedCover.take 1)) = none := by
      decide +kernel
    exact (build_judges_last_designated .empty (repairedCover.take 1)).1.mpr
      ((last_designated_eq_none_iff none _).mp undesignated).2

end OpcodeShapes
