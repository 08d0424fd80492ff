import Mathlib.Logic.ExistsUnique
import OpcodeShapes.Config.Build
import OpcodeShapes.Proofs.Steps

/-!
# Batches stop at the first refusal

A batch has no rules of its own. It does its items one by one and stops at the
first that is refused, with the reason of that item and with the draft that
the items before it left. A batch can therefore be cut anywhere: it is its
first part and then, unless that was refused, its second.
-/

namespace OpcodeShapes

set_option autoImplicit false

section Batches

variable {Item : Type}

/-- The items one by one, none of them refused, lead from one draft to another. -/
inductive OneByOne (step : Item → Registration Unit) : Draft → List Item → Draft → Prop where
  | done {draft : Draft} : OneByOne step draft [] draft
  | next {draft between last : Draft} {item : Item} {rest : List Item}
      (first : outcome (step item) draft = (.ok (), between))
      (others : OneByOne step between rest last) : OneByOne step draft (item :: rest) last

/-- All items before a place are taken, and the one at the place is refused by the draft that they
leave and leaves it as it is. -/
structure StopsAt (step : Item → Registration Unit) (draft : Draft) (items : List Item)
    (reason : RegistryError) (last : Draft) (place : Nat) : Prop where
  before : OneByOne step draft (items.take place) last
  refused : ∃ item, items[place]? = some item ∧ outcome (step item) last = (.error reason, last)

/-- What a batch does is what its items do one by one, up to the only place where it can stop. -/
structure DoesOneByOne (batch : List Item → Registration Unit) (step : Item → Registration Unit) :
    Prop where
  performed : ∀ (draft : Draft) (items : List Item) (last : Draft),
    outcome (batch items) draft = (.ok (), last) ↔ OneByOne step draft items last
  stopped : ∀ (draft : Draft) (items : List Item) (reason : RegistryError) (last : Draft),
    outcome (batch items) draft = (.error reason, last) ↔
      ∃! place, StopsAt step draft items reason last place
  divided : ∀ (draft : Draft) (earlier later : List Item),
    outcome (batch (earlier ++ later)) draft =
      match outcome (batch earlier) draft with
      | (.ok _, between) => outcome (batch later) between
      | (.error reason, last) => (.error reason, last)

variable {step : Item → Registration Unit}

theorem batch_performed_iff (draft : Draft) (items : List Item) (last : Draft) :
    outcome (items.forM step) draft = (.ok (), last) ↔ OneByOne step draft items last := by
  constructor
  · intro performed
    induction items generalizing draft with
    | nil =>
        obtain rfl : draft = last := (Prod.mk.inj performed).2
        exact .done
    | cons item rest ih =>
        rw [outcome_batch_cons] at performed
        cases result : outcome (step item) draft with
        | mk answer between =>
            rw [result] at performed
            cases answer with
            | error reason => cases performed
            | ok answer => exact .next result (ih between performed)
  · intro oneByOne
    induction oneByOne with
    | done => rfl
    | next first _ ih =>
        rw [outcome_batch_cons, first]
        exact ih

/-- Whatever comes behind an item that is refused is not looked at. -/
theorem batch_refused_behind {draft last after : Draft} {earlier : List Item} {item : Item}
    {reason : RegistryError} (before : OneByOne step draft earlier last)
    (refused : outcome (step item) last = (.error reason, after)) (rest : List Item) :
    outcome ((earlier ++ item :: rest).forM step) draft = (.error reason, after) := by
  rw [outcome_batch_append, (batch_performed_iff draft earlier last).mpr before]
  dsimp only
  rw [outcome_batch_cons, refused]

theorem StopsAt.batch_refused {draft last : Draft} {items : List Item} {reason : RegistryError}
    {place : Nat} (stops : StopsAt step draft items reason last place) :
    outcome (items.forM step) draft = (.error reason, last) := by
  obtain ⟨item, present, refused⟩ := stops.refused
  obtain ⟨inside, rfl⟩ := List.getElem?_eq_some_iff.mp present
  have divided := batch_refused_behind stops.before refused (items.drop (place + 1))
  rwa [List.getElem_cons_drop, List.take_append_drop] at divided

theorem StopsAt.not_before {draft last other : Draft} {items : List Item}
    {reason cause : RegistryError} {place later : Nat}
    (stops : StopsAt step draft items reason last place)
    (again : StopsAt step draft items cause other later) : ¬ place < later := by
  intro earlier
  -- The items up to the later place would be refused as a batch and taken one by one.
  have shorter : StopsAt step draft (items.take later) reason last place := by
    refine ⟨?_, ?_⟩
    · rw [List.take_take, Nat.min_eq_left (Nat.le_of_lt earlier)]
      exact stops.before
    · rw [List.getElem?_take_of_lt earlier]
      exact stops.refused
  have performed := (batch_performed_iff draft (items.take later) other).mpr again.before
  rw [shorter.batch_refused] at performed
  cases performed

theorem StopsAt.place_unique {draft last other : Draft} {items : List Item}
    {reason cause : RegistryError} {place second : Nat}
    (stops : StopsAt step draft items reason last place)
    (again : StopsAt step draft items cause other second) : place = second :=
  Nat.le_antisymm (Nat.not_lt.mp (again.not_before stops)) (Nat.not_lt.mp (stops.not_before again))

theorem batch_stops (atomic : ∀ item, Atomic (step item)) {draft last : Draft} {items : List Item}
    {reason : RegistryError} (refused : outcome (items.forM step) draft = (.error reason, last)) :
    ∃ place, StopsAt step draft items reason last place := by
  induction items generalizing draft with
  | nil => cases refused
  | cons item rest ih =>
      rw [outcome_batch_cons] at refused
      cases result : outcome (step item) draft with
      | mk answer between =>
          rw [result] at refused
          cases answer with
          | error cause =>
              have unchanged : between = draft := by
                have same := atomic item draft cause (congrArg Prod.fst result)
                rwa [result] at same
              obtain ⟨⟨rfl⟩, rfl⟩ := Prod.mk.inj refused
              subst unchanged
              exact ⟨0, .done, item, rfl, result⟩
          | ok answer =>
              obtain ⟨place, stops⟩ := ih refused
              exact ⟨place + 1, .next result stops.before, stops.refused⟩

theorem batch_refused_iff (atomic : ∀ item, Atomic (step item)) (draft last : Draft)
    (items : List Item) (reason : RegistryError) :
    outcome (items.forM step) draft = (.error reason, last) ↔
      ∃ before item after, items = before ++ item :: after ∧ OneByOne step draft before last ∧
        outcome (step item) last = (.error reason, last) := by
  constructor
  · intro refused
    rcases batch_stops atomic refused with ⟨place, stops⟩
    rcases stops.refused with ⟨item, present, itself⟩
    rcases List.getElem?_eq_some_iff.mp present with ⟨inside, rfl⟩
    refine ⟨items.take place, items[place], items.drop (place + 1), ?_, stops.before, itself⟩
    rw [List.getElem_cons_drop, List.take_append_drop]
  · rintro ⟨before, item, after, rfl, taken, refused⟩
    exact batch_refused_behind taken refused after

theorem does_one_by_one (atomic : ∀ item, Atomic (step item)) :
    DoesOneByOne (fun items => items.forM step) step where
  performed := batch_performed_iff
  stopped draft items reason last := by
    constructor
    · intro refused
      obtain ⟨place, stops⟩ := batch_stops atomic refused
      exact ⟨place, stops, fun other again => again.place_unique stops⟩
    · intro stopped
      obtain ⟨place, stops, _⟩ := stopped
      exact stops.batch_refused
  divided draft earlier later := by
    rw [outcome_batch_append]
    rcases outcome (earlier.forM step) draft with ⟨reason | answer, between⟩ <;> rfl

end Batches

theorem blank_row_refused {row : Row} (blank : Text.Blank row.opcode) (draft : Draft) :
    outcome row.register draft = (.error (.invalidShape row.name .blankOpcode), draft) := by
  have unmade : row.shape = .error .blankOpcode := Shape.make_eq_error_iff.mpr ⟨blank, rfl⟩
  rw [outcome_row, unmade]

theorem extend_one_by_one : DoesOneByOne Draft.extend Row.register := does_one_by_one row_atomic

/-- The strictness of a configuration has no part in this: it is that of the draft that counts. -/
theorem apply_one_by_one (strict : Bool) :
    DoesOneByOne (fun shapes => Config.apply { strict, shapes }) Change.perform :=
  does_one_by_one change_atomic

/-- Rows are registered one by one, and so are the shapes of a configuration applied. If a batch is
refused there is exactly one place where it stops, with the reason of the item at that place and what
the items before it left; otherwise it is all of them. Cut in two, it is one part and then the other.
The reason of a row without an opcode is always that. -/
theorem batches_stop_at_first_refusal :
    DoesOneByOne Draft.extend Row.register ∧
      (∀ strict : Bool,
        DoesOneByOne (fun shapes => Config.apply { strict, shapes }) Change.perform) ∧
      ∀ (draft last : Draft) (earlier : List Row) (row : Row) (later : List Row),
        OneByOne Row.register draft earlier last → Text.Blank row.opcode →
          outcome (Draft.extend (earlier ++ row :: later)) draft =
            (.error (.invalidShape row.name .blankOpcode), last) := by
  refine ⟨extend_one_by_one, apply_one_by_one, ?_⟩
  intro draft last earlier row later before blank
  exact batch_refused_behind before (blank_row_refused blank last) later

def twoRows : List Row := [⟨"LATCH", "latch", Flags.hatCap⟩, ⟨"RUNG", "rung", Flags.none⟩]

def twoRowsDraft : Draft :=
  (Draft.empty.append "LATCH" ⟨"latch", Flags.hatCap, by decide⟩).append "RUNG"
    ⟨"rung", Flags.none, by decide⟩

/-- A configuration whose second shape is for a name that nothing has. -/
def strayReplacement : Config where
  shapes := [⟨"TURN", ⟨"turn", Flags.none, by decide⟩, .add⟩,
    ⟨"SPIN", ⟨"spin", Flags.none, by decide⟩, .replace⟩,
    ⟨"GLIDE", ⟨"glide", Flags.none, by decide⟩, .add⟩]

/-- The row without an opcode has a name that is taken, and the one behind it a new one. The stray
replacement is the only place where its configuration can stop. -/
theorem blank_row_stops_batch :
    (∃ last, OneByOne Row.register Draft.empty twoRows last ∧
      Text.Blank " " ∧
      outcome (Draft.extend (twoRows ++ ⟨"LATCH", " ", Flags.none⟩ :: [⟨"TURN", "turn", Flags.none⟩]))
        Draft.empty = (.error (.invalidShape "LATCH" .blankOpcode), last)) ∧
    ∃! place, StopsAt Change.perform twoRowsDraft strayReplacement.shapes (.unknownName "SPIN")
      (twoRowsDraft.append "TURN" ⟨"turn", Flags.none, by decide⟩) place := by
  obtain ⟨rows, configured, stops⟩ := batches_stop_at_first_refusal
  constructor
  · have performed : outcome (Draft.extend twoRows) Draft.empty = (.ok (), twoRowsDraft) := rfl
    have before := (rows.performed _ _ _).mp performed
    have blank : Text.Blank " " := by decide
    exact ⟨_, before, blank, stops Draft.empty _ twoRows ⟨"LATCH", " ", Flags.none⟩ _ before blank⟩
  · have refused : outcome strayReplacement.apply twoRowsDraft =
        (.error (.unknownName "SPIN"),
          twoRowsDraft.append "TURN" ⟨"turn", Flags.none, by decide⟩) := rfl
    exact ((configured false).stopped _ _ _ _).mp refused

end OpcodeShapes
