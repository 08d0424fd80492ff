import OpcodeShapes.Proofs.Session

/-!
# Refused operations leave no trace

A single operation that is refused leaves the draft as it was. So whoever reads
the transcript of a session finds the refusal in its line and nowhere else:
with the line struck out, everything before it and behind it is answered as
before, operations, builds and questions alike. Batches are not like that, for
they keep what they did before they were refused.
-/

namespace OpcodeShapes

set_option autoImplicit false

def Operation.isSingle : Operation → Bool
  | .register _ _ => true
  | .replace _ _ => true
  | .designate _ => true
  | .setStrict _ => true
  | .extend _ => false
  | .change _ => false

theorem single_atomic {operation : Operation} (single : operation.isSingle = true) :
    Atomic operation.perform := by
  intro draft reason refused
  cases operation with
  | register name shape =>
      rw [Operation.perform, outcome_answer] at refused ⊢
      exact (register_atomic name shape).of_map _ refused
  | replace name shape =>
      rw [Operation.perform, outcome_answer] at refused ⊢
      exact (replace_atomic name shape).of_map _ refused
  | designate name =>
      rw [Operation.perform, outcome_answer] at refused ⊢
      exact (designate_atomic name).of_map _ refused
  | setStrict strict =>
      rw [Operation.perform, outcome_answer] at refused
      cases refused
  | extend rows => cases single
  | change changes => cases single

theorem answers_line {State Built : Type} (keeper : Keeper State Built) (state : State)
    (built : Option Built) (line : Line) :
    ∃ answer next made, ∀ rest,
      keeper.answers state built (line :: rest) = answer :: keeper.answers next made rest := by
  cases line with
  | perform operation => exact ⟨_, _, _, fun rest => rfl⟩
  | containsName name => exact ⟨_, _, _, fun rest => rfl⟩
  | build =>
      cases result : keeper.build state with
      | ok made => exact ⟨_, _, some made, fun rest => by rw [Keeper.answers, result]⟩
      | error reason => exact ⟨_, _, none, fun rest => by rw [Keeper.answers, result]⟩
  | ask query =>
      cases built with
      | some made => exact ⟨_, _, some made, fun rest => rfl⟩
      | none => exact ⟨_, _, none, fun rest => rfl⟩

/-- A register, a replacement or a designation that is refused, whatever the reason, leaves all
parts of the draft as they were. Whatever was and is done around it, a transcript without its answer
is the transcript of the script without its line. -/
theorem refused_single_leaves_no_trace (operation : Operation)
    (single : operation.isSingle = true) (draft : Draft) :
    (∀ reason, (outcome operation.perform draft).1 = .error reason →
        (outcome operation.perform draft).2 = draft) ∧
      ∀ (built : Option Registry) (earlier later : List Line) (reason : RegistryError),
        let whole := Keeper.indexed.answers draft built (earlier ++ .perform operation :: later)
        whole[earlier.length]? = some (.reply (.error reason)) →
          whole.eraseIdx earlier.length = Keeper.indexed.answers draft built (earlier ++ later) := by
  refine ⟨single_atomic single draft, ?_⟩
  intro built earlier later reason whole refused
  subst whole
  -- Along the lines before the refused one both scripts go through the same drafts. At that line
  -- atomicity says that the rest starts from the draft it would have started from anyway.
  induction earlier generalizing draft built with
  | nil =>
      have answered : (outcome operation.perform draft).1 = .error reason := by
        simpa [Keeper.answers, Keeper.indexed] using refused
      have unchanged := single_atomic single draft reason answered
      change Keeper.indexed.answers (outcome operation.perform draft).2 built later = _
      rw [unchanged]
      rfl
  | cons line rest ih =>
      obtain ⟨answer, next, made, moves⟩ := answers_line Keeper.indexed draft built line
      simp only [List.cons_append, moves, List.length_cons, List.getElem?_cons_succ] at refused
      simp only [List.cons_append, moves, List.length_cons, List.eraseIdx_cons_succ]
      rw [ih next made refused]

def halfReporter : Operation :=
  .register "TOUCHING" ⟨"touching", ({} : Flags).set .boolean .yes, by decide⟩

def beforeHalfReporter : List Line :=
  [.perform (.register "TOP" ⟨"top_block", Flags.hatCap, by decide⟩),
   .perform (.designate "TOP"),
   .perform (.setStrict true)]

/-- What was refused would have stood in the way of the second line here. -/
def behindHalfReporter : List Line :=
  [.containsName "TOUCHING",
   .perform (.register "TOUCHING" ⟨"touching", Flags.none, by decide⟩),
   .build,
   .ask (.findOpcode "touching")]

theorem half_reporter_leaves_no_trace :
    let whole := Keeper.indexed.answers Draft.empty none
      (beforeHalfReporter ++ .perform halfReporter :: behindHalfReporter)
    whole[3]? =
        some (.reply (.error (.invalidShape "TOUCHING" (.booleanWithoutReporter "touching")))) ∧
      whole.eraseIdx 3 =
        Keeper.indexed.answers Draft.empty none (beforeHalfReporter ++ behindHalfReporter) := by
  intro whole
  have refused : whole[3]? =
      some (.reply (.error (.invalidShape "TOUCHING" (.booleanWithoutReporter "touching")))) := rfl
  exact ⟨refused, (refused_single_leaves_no_trace halfReporter rfl Draft.empty).2 none
    beforeHalfReporter behindHalfReporter _ refused⟩

end OpcodeShapes
