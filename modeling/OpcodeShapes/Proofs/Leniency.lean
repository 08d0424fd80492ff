import OpcodeShapes.Proofs.LastWrites

/-!
# What leniency lets in

The strictness may be switched at any time, and it is asked at every write,
whichever operation the write is part of. A shape that is not valid therefore
stands in a registry only if the last write under its name was made while the
draft was lenient. That a valid shape stood there before does not help, and
neither does it harm: a write is judged by what it writes.
-/

namespace OpcodeShapes

set_option autoImplicit false

theorem strict_step_puts_valid {draft next : Draft} {write : Write} (step : Step draft write next)
    (strict : draft.strict = true) {name : String} {shape : Shape}
    (puts : write.shapeUnder? name = some shape) : shape.validate = .ok () := by
  cases step with
  | @register other new taken =>
      have valid := ((refuses_new_eq_none_iff draft other new).mp taken).2.2.2
      rw [← Option.some.inj (Option.ite_none_right_eq_some.mp puts).2]
      exact (invalid_eq_none_iff draft other new).mp valid strict
  | @replace other position old new found taken =>
      have valid := ((refuses_swap_eq_none_iff draft position other new).mp taken).2
      rw [← Option.some.inj (Option.ite_none_right_eq_some.mp puts).2]
      exact (invalid_eq_none_iff draft other new).mp valid strict
  | designate found => cases puts
  | setStrict => cases puts

namespace Reaches

theorem divide {draft last : Draft} {earlier later : List Write}
    (reaches : Reaches draft (earlier ++ later) last) :
    ∃ middle, Reaches draft earlier middle ∧ Reaches middle later last := by
  induction earlier generalizing draft with
  | nil => exact ⟨draft, .done, reaches⟩
  | cons write rest ih =>
      cases reaches with
      | step first others =>
          rcases ih others with ⟨middle, before, after⟩
          exact ⟨middle, .step first before, after⟩

theorem at_write {draft last : Draft} {before after : List Write} {write : Write}
    (reaches : Reaches draft (before ++ write :: after) last) :
    ∃ between next, Reaches draft before between ∧ Step between write next ∧
      Reaches next after last := by
  rcases reaches.divide with ⟨between, earlier, others⟩
  cases others with
  | step made later => exact ⟨between, _, earlier, made, later⟩

end Reaches

theorem last_brought_splits {Brought : Type} {brings : Write → Option Brought}
    {writes : List Write} {value : Brought}
    (last : (writes.filterMap brings).getLast? = some value) :
    ∃ before write after, writes = before ++ write :: after ∧ brings write = some value ∧
      ∀ later ∈ after, brings later = none := by
  induction writes with
  | nil => cases last
  | cons write rest ih =>
      rw [last_brought_cons] at last
      cases brought : (rest.filterMap brings).getLast? with
      | none =>
          rw [brought, Option.none_or] at last
          have silent : rest.filterMap brings = [] := List.getLast?_eq_none_iff.mp brought
          exact ⟨[], write, rest, rfl, last, List.filterMap_eq_nil_iff.mp silent⟩
      | some other =>
          rw [brought, Option.some_or] at last
          rcases ih (brought.trans last) with ⟨before, found, after, split, puts, silent⟩
          exact ⟨write :: before, found, after, congrArg (write :: ·) split, puts, silent⟩

theorem strict_step_keeps_valid {draft next : Draft} {write : Write} (step : Step draft write next)
    (sound : draft.Sound) (strict : draft.strict = true) (notLenient : write ≠ .setStrict false)
    (valid : ∀ entry ∈ draft.entries, entry.shape.validate = .ok ()) :
    next.strict = true ∧ ∀ entry ∈ next.entries, entry.shape.validate = .ok () := by
  have kept := step_keeps_entries (fun _ shape => shape.validate = .ok ()) step sound
    (fun name shape puts => strict_step_puts_valid step strict puts) valid
  cases step with
  | register taken => exact ⟨strict, kept⟩
  | replace found taken => exact ⟨strict, kept⟩
  | designate found => exact ⟨strict, kept⟩
  | @setStrict switched =>
      cases switched with
      | false => exact absurd rfl notLenient
      | true => exact ⟨rfl, kept⟩

/-- While a draft stays strict it stays free of invalid shapes. -/
theorem strict_run_keeps_valid {draft last : Draft} {writes : List Write}
    (reaches : Reaches draft writes last) (sound : draft.Sound) (strict : draft.strict = true)
    (neverLenient : .setStrict false ∉ writes)
    (valid : ∀ entry ∈ draft.entries, entry.shape.validate = .ok ()) :
    ∀ entry ∈ last.entries, entry.shape.validate = .ok () := by
  induction reaches with
  | done => exact valid
  | step first others ih =>
      have apart := List.ne_and_not_mem_of_not_mem_cons neverLenient
      have kept := strict_step_keeps_valid first sound strict (Ne.symm apart.1) valid
      exact ih (step_sound first sound) kept.1 apart.2 kept.2

/-- However strictness is switched in a history, an entry that reports a truth value without being a
reporter was written last, in a registration or a replacement that was not refused, while the draft
was lenient. Where the draft was strict from before the first registration on, all entries are
valid. -/
theorem invalid_entries_written_leniently {start : Draft} {opening : List Operation}
    (opens : Opening start opening) (history : List Operation) {registry : Registry}
    (built : (start.after history).build = .ok registry) :
    let writes := Draft.empty.writes (opening ++ history)
    (∀ entry ∈ registry.entries,
      entry.shape.get .boolean = .yes → entry.shape.get .reporter ≠ .yes →
        ∃ before write after between next, writes = before ++ write :: after ∧
          (write = .register entry.name entry.shape ∨ write = .replace entry.name entry.shape) ∧
          (∀ shape, .register entry.name shape ∉ after ∧ .replace entry.name shape ∉ after) ∧
          Reaches Draft.empty before between ∧ between.strict = false ∧
          Step between write next ∧ Reaches next after (start.after history)) ∧
      ∀ earlier later, writes = earlier ++ later → registeredNames earlier = [] →
        lastStrictness false earlier = true → .setStrict false ∉ later →
          ∀ entry ∈ registry.entries, entry.shape.validate = .ok () := by
  intro writes
  have reaches : Reaches Draft.empty writes (start.after history) := opening_reaches opens history
  have copied := (built_from built).entries
  rw [copied]
  constructor
  · intro entry member boolean noReporter
    have written := ((entries_from_nothing reaches).2.2 entry.name entry.shape).mp member
    rcases last_brought_splits written with ⟨before, write, after, split, puts, silent⟩
    rw [split] at reaches
    rcases reaches.at_write with ⟨between, next, earlier, made, later⟩
    have lenient : between.strict = false := by
      rw [← Bool.not_eq_true]
      intro strict
      have valid := strict_step_puts_valid made strict puts
      exact noReporter (Shape.validate_eq_ok_iff.mp valid boolean)
    refine ⟨before, write, after, between, next, split,
      (shape_under_eq_some_iff entry.name write entry.shape).mp puts, ?_, earlier, lenient, made,
      later⟩
    intro shape
    constructor
    · intro again
      exact ((shape_under_eq_none_iff entry.name _).mp (silent _ again) shape).1 rfl
    · intro again
      exact ((shape_under_eq_none_iff entry.name _).mp (silent _ again) shape).2 rfl
  · intro earlier later split unregistered strict neverLenient
    rw [split] at reaches
    rcases reaches.divide with ⟨middle, before, after⟩
    have names := reached_names before empty_draft_sound
    rw [unregistered, List.append_nil] at names
    have bare : middle.entries = [] := List.map_eq_nil_iff.mp names
    have sound := reached_sound before empty_draft_sound
    apply strict_run_keeps_valid after sound ?_ neverLenient
    · simp [bare]
    · exact (reached_strictness before).trans strict

/-- A half reporter is refused twice under strictness and taken once in between, over a valid shape;
it is still there in the end. -/
def switchedStrictness : List Operation :=
  [.setStrict true,
   .register "DOWN" ⟨"mouse_is_down", Flags.ofList [.boolean], by decide⟩,
   .extend [⟨"BEGIN", "mouse_begin", Flags.hatCap⟩,
     ⟨"DOWN", "mouse_is_down", Flags.ofList [.boolean, .reporter]⟩],
   .designate "BEGIN",
   .setStrict false,
   .replace "DOWN" ⟨"mouse_is_up", (Flags.ofList [.boolean]).set .reporter .indeterminate, by decide⟩,
   .setStrict true,
   .change [⟨"BEGIN", ⟨"mouse_start", Flags.hatCap, by decide⟩, .replace⟩,
     ⟨"DOWN", ⟨"mouse_is_gone", Flags.ofList [.boolean], by decide⟩, .replace⟩]]

theorem switched_strictness_written_leniently :
    (∃ registry entry, (Draft.empty.after switchedStrictness).build = .ok registry ∧
      entry ∈ registry.entries ∧ entry.name = "DOWN" ∧ entry.shape.validate ≠ .ok () ∧
      ∃ before write after between next,
        Draft.empty.writes switchedStrictness = before ++ write :: after ∧
          (write = .register entry.name entry.shape ∨ write = .replace entry.name entry.shape) ∧
          between.strict = false ∧ Step between write next) ∧
    ∃ registry, (Draft.empty.after (switchedStrictness.take 4)).build = .ok registry ∧
      registry.size = 2 ∧ ∀ entry ∈ registry.entries, entry.shape.validate = .ok () := by
  constructor
  · obtain ⟨registry, built⟩ : ∃ registry,
        (Draft.empty.after switchedStrictness).build = .ok registry :=
      exists_built (by decide +kernel)
    let entry : Entry := ⟨"DOWN",
      ⟨"mouse_is_up", (Flags.ofList [.boolean]).set .reporter .indeterminate, by decide⟩⟩
    have member : entry ∈ registry.entries := by
      rw [(built_from built).entries]
      decide +kernel
    rcases (invalid_entries_written_leniently .empty switchedStrictness built).1 entry member rfl
      (by decide) with ⟨before, write, after, between, next, split, puts, _, _, lenient, made, _⟩
    exact ⟨registry, entry, built, member, rfl, by decide, before, write, after, between, next,
      split, puts, lenient, made⟩
  · obtain ⟨registry, built⟩ : ∃ registry,
        (Draft.empty.after (switchedStrictness.take 4)).build = .ok registry :=
      exists_built (by decide +kernel)
    refine ⟨registry, built, ?_, ?_⟩
    · rw [Registry.size, (built_from built).entries]
      decide +kernel
    · exact (invalid_entries_written_leniently .empty (switchedStrictness.take 4) built).2
        [.setStrict true] _ rfl rfl rfl (by decide +kernel)

end OpcodeShapes
