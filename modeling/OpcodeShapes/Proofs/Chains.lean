import OpcodeShapes.Flags

/-!
# Chains of setters

Nine setters write seven flags, two of them any value and the others only
`yes`. A chain of them gives each flag the value of the last one that is about
it, and a flag that none is about keeps what it had. So setters of different
flags do not see each other, and two chains that begin with every flag at `no`
come to the same exactly if they agree in what they write last to each flag.
-/

namespace OpcodeShapes

set_option autoImplicit false

namespace Flags

def Setter.assignment : Setter → Assignment
  | .stack => ⟨.stack, .yes⟩
  | .cMouth => ⟨.cMouth, .yes⟩
  | .cap => ⟨.cap, .yes⟩
  | .hat => ⟨.hat, .yes⟩
  | .reporter => ⟨.reporter, .yes⟩
  | .boolean => ⟨.boolean, .yes⟩
  | .menu => ⟨.menu, .yes⟩
  | .withCap value => ⟨.cap, value⟩
  | .put flag value => ⟨flag, value⟩

def lastAssigned? (flag : Flag) (assignments : List Assignment) : Option Trilean :=
  (assignments.findRev? fun a => a.flag = flag).map Assignment.value

/-- The value of the last of some setters that is about a flag, or `no` if none is. -/
def lastValue (setters : List Setter) (flag : Flag) : Trilean :=
  (lastAssigned? flag (setters.map Setter.assignment)).getD .no

/-- The same setters in another order, where those about one flag keep theirs: neighbours about
different flags were exchanged, any number of times. -/
inductive Reordered : List Setter → List Setter → Prop where
  | refl (setters : List Setter) : Reordered setters setters
  | cons (first : Setter) {rest others : List Setter} (behind : Reordered rest others) :
      Reordered (first :: rest) (first :: others)
  | swap {first second : Setter} (apart : first.assignment.flag ≠ second.assignment.flag)
      (rest : List Setter) : Reordered (first :: second :: rest) (second :: first :: rest)
  | trans {setters between others : List Setter} (before : Reordered setters between)
      (after : Reordered between others) : Reordered setters others

theorem last_assigned_cons (flag : Flag) (first : Assignment) (rest : List Assignment) :
    lastAssigned? flag (first :: rest) =
      (lastAssigned? flag rest).or (if first.flag = flag then some first.value else .none) := by
  rw [lastAssigned?, lastAssigned?, List.findRev?]
  cases later : rest.findRev? fun a => a.flag = flag with
  | some last => rfl
  | none =>
      by_cases about : first.flag = flag <;> simp [about]

theorem get_assign (flags : Flags) (assignments : List Assignment) (flag : Flag) :
    (flags.assign assignments).get flag =
      (lastAssigned? flag assignments).getD (flags.get flag) := by
  induction assignments generalizing flags with
  | nil => rfl
  | cons first rest ih =>
      change ((flags.set first.flag first.value).assign rest).get flag = _
      rw [ih, last_assigned_cons, get_set]
      by_cases about : first.flag = flag
      · rw [if_pos about, if_pos about]
        cases lastAssigned? flag rest <;> rfl
      · rw [if_neg about, if_neg about, Option.or_none]

theorem set_comm {f g : Flag} (apart : f ≠ g) (flags : Flags) (value other : Trilean) :
    (flags.set f value).set g other = (flags.set g other).set f value := by
  apply ext_get
  intro flag
  rw [get_set, get_set, get_set, get_set]
  by_cases first : f = flag
  · subst first
    rw [if_neg (Ne.symm apart), if_pos rfl, if_pos rfl]
  · rw [if_neg first, if_neg first]

theorem apply_eq_set (flags : Flags) (setter : Setter) :
    flags.apply setter = flags.set setter.assignment.flag setter.assignment.value := by
  cases setter <;> rfl

theorem chain_eq_assign (flags : Flags) (setters : List Setter) :
    flags.chain setters = flags.assign (setters.map Setter.assignment) := by
  have writes : apply = fun flags setter =>
      flags.set setter.assignment.flag setter.assignment.value := by
    funext flags setter
    exact apply_eq_set flags setter
  rw [chain, writes, assign, List.foldl_map]

theorem get_chain (setters : List Setter) (flag : Flag) :
    (none.chain setters).get flag = lastValue setters flag := by
  rw [chain_eq_assign, get_assign, get_none, lastValue]

theorem chain_eq_iff (setters others : List Setter) :
    none.chain setters = none.chain others ↔
      ∀ flag, lastValue setters flag = lastValue others flag := by
  constructor
  · intro same flag
    rw [← get_chain, ← get_chain, same]
  · intro agree
    apply ext_get
    intro flag
    rw [get_chain, get_chain, agree]

theorem apply_comm {first second : Setter}
    (apart : first.assignment.flag ≠ second.assignment.flag) (flags : Flags) :
    (flags.apply first).apply second = (flags.apply second).apply first := by
  rw [apply_eq_set, apply_eq_set, apply_eq_set, apply_eq_set, set_comm apart]

/-- Wherever a chain begins, its order matters only among the setters of one flag. -/
theorem chain_reordered {setters others : List Setter} (reordered : Reordered setters others)
    (flags : Flags) : flags.chain setters = flags.chain others := by
  induction reordered generalizing flags with
  | refl setters => rfl
  | cons first behind ih => exact ih (flags.apply first)
  | @swap first second apart rest =>
      exact congrArg (fun begun : Flags => begun.chain rest) (apply_comm apart flags)
  | trans before after ihBefore ihAfter => exact (ihBefore flags).trans (ihAfter flags)

/-- A chain that begins with every flag at `no` leaves in each flag what its last setter about that flag
wrote, and `no` where it has none; so the seven flags are listed, each once. Two chains come to the
same exactly if they write the same to each flag last, so setters of different flags may stand in any
order. A chain comes to a hat and a cap and nothing else exactly if these two end with `yes` and the
others with `no`. -/
theorem chains_told_by_last_setters (setters : List Setter) :
    (∀ flag, (none.chain setters).get flag = lastValue setters flag) ∧
      (none.chain setters).entries = Flag.all.map (fun flag => (flag, lastValue setters flag)) ∧
      (∀ flag, Flag.all.count flag = 1) ∧
      (∀ others, none.chain setters = none.chain others ↔
        ∀ flag, lastValue setters flag = lastValue others flag) ∧
      (∀ others, Reordered setters others → none.chain setters = none.chain others) ∧
      (none.chain setters = hatCap ↔
        ∀ flag, lastValue setters flag = if flag = .hat ∨ flag = .cap then .yes else .no) := by
  refine ⟨get_chain setters, ?_, ?_, chain_eq_iff setters, ?_, ?_⟩
  · rw [entries]
    apply List.map_congr_left
    intro flag _
    rw [get_chain]
  · intro flag
    cases flag <;> decide
  · intro others reordered
    exact chain_reordered reordered none
  · rw [eq_hat_cap_iff]
    simp only [get_chain]

/-- A lid that is not one all the time: its cap is in doubt before it is set, its hat is taken off and
put on again, and it stands in a stack for a while. -/
def mendedLid : List Setter :=
  [.hat, .withCap .indeterminate, .stack, .put .hat .no, .cap, .put .stack .no, .hat]

/-- The doubt comes before the first hat, and the cap before that is taken off. -/
def mendedLidAgain : List Setter :=
  [.withCap .indeterminate, .hat, .stack, .cap, .put .hat .no, .put .stack .no, .hat]

theorem mended_lid_told_by_last_setters :
    Reordered mendedLid mendedLidAgain ∧ none.chain mendedLid = none.chain mendedLidAgain ∧
      none.chain mendedLid = hatCap := by
  have first : Reordered mendedLid
      [.withCap .indeterminate, .hat, .stack, .put .hat .no, .cap, .put .stack .no, .hat] :=
    .swap (by decide) _
  have second : Reordered
      [.withCap .indeterminate, .hat, .stack, .put .hat .no, .cap, .put .stack .no, .hat]
      mendedLidAgain :=
    .cons _ (.cons _ (.cons _ (.swap (by decide) _)))
  have reordered := Reordered.trans first second
  obtain ⟨_, _, _, _, anyOrder, isLid⟩ := chains_told_by_last_setters mendedLid
  refine ⟨reordered, anyOrder _ reordered, isLid.mpr ?_⟩
  intro flag
  cases flag <;> rfl

end Flags

end OpcodeShapes
