import Mathlib.Data.List.Forall2

/-!
# Stages that can fail

What runs in stages has an answer exactly if every stage has one, and stops at
the first that has none. This is said once for two stages, for a list of items
that are handled one by one, and for a list that is folded into a state.
-/

namespace OpcodeShapes

set_option autoImplicit false

section Stages

variable {Fault Other First Second : Type}

theorem bind_eq_ok_iff (stage : Except Fault First) (next : First → Except Fault Second)
    (answer : Second) :
    (stage >>= next) = .ok answer ↔ ∃ first, stage = .ok first ∧ next first = .ok answer := by
  cases stage <;> simp [bind, Except.bind]

theorem bind_eq_error_iff (stage : Except Fault First) (next : First → Except Fault Second)
    (fault : Fault) :
    (stage >>= next) = .error fault ↔
      stage = .error fault ∨ ∃ first, stage = .ok first ∧ next first = .error fault := by
  cases stage <;> simp [bind, Except.bind]

theorem map_eq_ok_iff (stage : Except Fault First) (f : First → Second) (answer : Second) :
    stage.map f = .ok answer ↔ ∃ first, stage = .ok first ∧ f first = answer := by
  cases stage <;> simp [Except.map]

theorem map_eq_error_iff (stage : Except Fault First) (f : First → Second) (fault : Fault) :
    stage.map f = .error fault ↔ stage = .error fault := by
  cases stage <;> simp [Except.map]

theorem map_error_eq_ok_iff (stage : Except Fault First) (told : Fault → Other) (answer : First) :
    stage.mapError told = .ok answer ↔ stage = .ok answer := by
  cases stage <;> simp [Except.mapError]

theorem map_error_eq_error_iff (stage : Except Fault First) (told : Fault → Other) (fault : Other) :
    stage.mapError told = .error fault ↔ ∃ cause, stage = .error cause ∧ told cause = fault := by
  cases stage <;> simp [Except.mapError]

end Stages

section Items

variable {Fault Item Answer State : Type}

theorem map_m_eq_ok_iff (step : Item → Except Fault Answer) (items : List Item)
    (answers : List Answer) :
    items.mapM step = .ok answers ↔
      List.Forall₂ (fun item answer => step item = .ok answer) items answers := by
  induction items generalizing answers with
  | nil =>
      rw [List.mapM_nil, List.forall₂_nil_left_iff]
      exact ⟨fun same => (Except.ok.inj same).symm, fun none => congrArg Except.ok none.symm⟩
  | cons item rest ih =>
      rw [List.mapM_cons, bind_eq_ok_iff, List.forall₂_cons_left_iff]
      apply exists_congr
      intro answer
      rw [bind_eq_ok_iff]
      constructor
      · rintro ⟨taken, others, later, same⟩
        exact ⟨others, taken, (ih others).mp later, (Except.ok.inj same).symm⟩
      · rintro ⟨others, taken, later, same⟩
        exact ⟨taken, others, (ih others).mpr later, congrArg Except.ok same.symm⟩

theorem map_m_stops {step : Item → Except Fault Answer} {before : List Item} {item : Item}
    {fault : Fault} (taken : ∀ earlier ∈ before, ∃ answer, step earlier = .ok answer)
    (refused : step item = .error fault) (after : List Item) :
    (before ++ item :: after).mapM step = .error fault := by
  induction before with
  | nil =>
      rw [List.nil_append, List.mapM_cons, refused]
      rfl
  | cons first rest ih =>
      rcases taken first List.mem_cons_self with ⟨answer, answered⟩
      have later := ih fun earlier member => taken earlier (List.mem_cons_of_mem first member)
      rw [List.cons_append, List.mapM_cons, answered, later]
      rfl

theorem fold_m_cons_eq_ok_iff (step : State → Item → Except Fault State) (state last : State)
    (item : Item) (rest : List Item) :
    (item :: rest).foldlM step state = .ok last ↔
      ∃ next, step state item = .ok next ∧ rest.foldlM step next = .ok last := by
  rw [List.foldlM_cons, bind_eq_ok_iff]

theorem fold_m_keeps {holds : State → Prop} {step : State → Item → Except Fault State}
    (keeps : ∀ state item next, step state item = .ok next → holds state → holds next)
    {items : List Item} {state last : State} (folded : items.foldlM step state = .ok last)
    (before : holds state) : holds last := by
  induction items generalizing state with
  | nil =>
      obtain rfl : state = last := Except.ok.inj folded
      exact before
  | cons item rest ih =>
      rcases (fold_m_cons_eq_ok_iff step state last item rest).mp folded with ⟨next, taken, others⟩
      exact ih others (keeps state item next taken before)

/-- Where the faults of an item are the same in every state, a fold has the fault of the first item
that has one. -/
theorem fold_m_eq_error_iff {step : State → Item → Except Fault State}
    {faulty : Item → Fault → Prop}
    (steady : ∀ state item fault, step state item = .error fault ↔ faulty item fault)
    (items : List Item) (state : State) (fault : Fault) :
    items.foldlM step state = .error fault ↔
      ∃ before item after, items = before ++ item :: after ∧
        (∀ earlier ∈ before, ∀ cause, ¬ faulty earlier cause) ∧ faulty item fault := by
  induction items generalizing state with
  | nil =>
      constructor
      · intro refused
        cases refused
      · rintro ⟨before, item, after, split, _⟩
        simp at split
  | cons first rest ih =>
      rw [List.foldlM_cons]
      cases taken : step state first with
      | error cause =>
          have own := (steady state first cause).mp taken
          constructor
          · intro refused
            obtain rfl : cause = fault := Except.error.inj refused
            exact ⟨[], first, rest, rfl, by simp, own⟩
          · rintro ⟨before, item, after, split, fine, faulty⟩
            cases before with
            | nil =>
                obtain ⟨rfl, rfl⟩ := List.cons.inj split
                have again := (steady state first fault).mpr faulty
                rw [taken] at again
                exact again
            | cons other others =>
                obtain ⟨rfl, _⟩ := List.cons.inj split
                exact absurd own (fine first List.mem_cons_self cause)
      | ok next =>
          have fine (cause : Fault) : ¬ faulty first cause := by
            rw [← steady state first cause, taken]
            simp
          change rest.foldlM step next = .error fault ↔ _
          rw [ih next]
          constructor
          · rintro ⟨before, item, after, rfl, others, faulty⟩
            exact ⟨first :: before, item, after, rfl, List.forall_mem_cons.mpr ⟨fine, others⟩, faulty⟩
          · rintro ⟨before, item, after, split, others, faulty⟩
            cases before with
            | nil =>
                obtain ⟨rfl, rfl⟩ := List.cons.inj split
                exact absurd faulty (fine fault)
            | cons other before =>
                obtain ⟨rfl, rfl⟩ := List.cons.inj split
                exact ⟨before, item, after, rfl, (List.forall_mem_cons.mp others).2, faulty⟩

end Items

end OpcodeShapes
