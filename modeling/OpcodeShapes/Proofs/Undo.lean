import OpcodeShapes.Proofs.Refinement
import OpcodeShapes.Proofs.Replacement

/-!
# Replacements can be undone

A replacement gives back the shape that it took away, and that is all it takes
to go back: putting this shape under the same name again is never refused for
its opcode, because nobody else can have got it since. So a whole run of
replacements is undone by putting back what they gave, the last one first. Only
a strict draft may refuse to take a shape back, if it was lenient when it took
the shape first.
-/

namespace OpcodeShapes

set_option autoImplicit false

namespace Draft

/-- Puts shapes under names, one after another, and gives back those that were there. -/
def replaceAll (entries : List Entry) : Registration (List Shape) :=
  entries.mapM fun entry => replace entry.name entry.shape

def undoing (entries : List Entry) (olds : List Shape) : List Entry :=
  (List.zipWith (fun entry old => ⟨entry.name, old⟩) entries olds).reverse

end Draft

section Single

variable {draft : Draft} {name : String} {position : Nat} {old new : Shape}

theorem swap_back_taken (sound : draft.Sound) (found : draft.find? name = some (position, old))
    (taken : draft.refusesSwap? position name new = none)
    (valid : draft.strict = true → old.validate = .ok ()) :
    (draft.swap position old new).refusesSwap? position name old = none := by
  have present := (sound.find_eq_some_iff name position old).mp found
  have swapped := swap_sound sound found taken
  rw [refuses_swap_eq_none_iff, invalid_eq_none_iff]
  refine ⟨?_, valid⟩
  -- No other name had the old opcode before, and no other name has got another shape.
  intro place holder held
  rcases (swapped.holder_eq_some_iff old.opcode place holder).mp held with ⟨shape, there, same⟩
  by_contra elsewhere
  rw [swap_at present, if_neg elsewhere] at there
  have heldBefore := (sound.holder_eq_some_iff old.opcode place holder).mpr ⟨shape, there, same⟩
  have ownBefore := (sound.holder_eq_some_iff old.opcode position name).mpr ⟨old, present, rfl⟩
  exact elsewhere (congrArg Prod.fst (Option.some.inj (heldBefore.symm.trans ownBefore)))

theorem swap_back_entries (present : draft.entries[position]? = some ⟨name, old⟩) (new : Shape) :
    ((draft.swap position old new).swap position new old).entries = draft.entries := by
  apply List.ext_getElem?
  intro place
  have written : (draft.swap position old new).entries[position]? = some ⟨name, new⟩ :=
    (swap_at present position).trans (if_pos rfl)
  rw [swap_at written, swap_at present]
  split_ifs with here
  · rw [here, present]
  · rfl

theorem replace_undone (sound : draft.Sound) {next : Draft}
    (replaced : outcome (Draft.replace name new) draft = (.ok old, next))
    (valid : draft.strict = true → old.validate = .ok ()) :
    outcome (Draft.replace name old) next = (.ok new, draft) := by
  rcases (replace_eq_ok_iff name new old draft next).mp replaced with ⟨position, found, taken, rfl⟩
  have present := (sound.find_eq_some_iff name position old).mp found
  have swapped := swap_sound sound found taken
  have reshapes := swap_reshapes sound found taken
  have takenBack := swap_back_taken sound found taken valid
  have back := swap_sound swapped reshapes.new_after takenBack
  rw [replace_eq_ok_iff]
  refine ⟨position, reshapes.new_after, takenBack, ledger_injective back sound ?_⟩
  have entries := swap_back_entries present new
  simp only [Draft.ledger, Draft.fallbackName, entries]
  rfl

end Single

section Run

variable {draft last : Draft}

theorem replace_all_cons_eq_ok_iff (entry : Entry) (rest : List Entry) (olds : List Shape) :
    outcome (Draft.replaceAll (entry :: rest)) draft = (.ok olds, last) ↔
      ∃ old between others, outcome (Draft.replace entry.name entry.shape) draft = (.ok old, between) ∧
        outcome (Draft.replaceAll rest) between = (.ok others, last) ∧ old :: others = olds := by
  simp only [Draft.replaceAll, List.mapM_cons, outcome_bind_eq_ok_iff, outcome_pure, Prod.mk.injEq,
    Except.ok.injEq]
  constructor
  · rintro ⟨old, between, replaced, others, _, behind, same, rfl⟩
    exact ⟨old, between, others, replaced, behind, same⟩
  · rintro ⟨old, between, others, replaced, behind, same⟩
    exact ⟨old, between, replaced, others, last, behind, same, rfl⟩

theorem replace_all_append {earlier later : List Entry} {between : Draft} {first second : List Shape}
    (before : outcome (Draft.replaceAll earlier) draft = (.ok first, between))
    (behind : outcome (Draft.replaceAll later) between = (.ok second, last)) :
    outcome (Draft.replaceAll (earlier ++ later)) draft = (.ok (first ++ second), last) := by
  rw [Draft.replaceAll, List.mapM_append, outcome_bind_eq_ok_iff]
  refine ⟨first, between, before, ?_⟩
  rw [outcome_bind_eq_ok_iff]
  exact ⟨second, last, behind, rfl⟩

theorem replace_all_undone (sound : draft.Sound) {entries : List Entry} {olds : List Shape}
    (replaced : outcome (Draft.replaceAll entries) draft = (.ok olds, last))
    (valid : draft.strict = true → ∀ old ∈ olds, old.validate = .ok ()) :
    outcome (Draft.replaceAll (Draft.undoing entries olds)) last =
      (.ok (entries.map Entry.shape).reverse, draft) := by
  -- What is behind the first replacement is undone before it, and that leads to the draft which the
  -- first one left.
  induction entries generalizing draft olds with
  | nil =>
      obtain ⟨⟨rfl⟩, rfl⟩ := Prod.mk.inj replaced
      rfl
  | cons entry rest ih =>
      rcases (replace_all_cons_eq_ok_iff entry rest olds).mp replaced with
        ⟨old, between, others, first, behind, rfl⟩
      have undone := replace_undone sound first fun strict => valid strict old List.mem_cons_self
      rcases (replace_eq_ok_iff _ _ _ _ _).mp first with ⟨position, found, taken, rfl⟩
      have later := ih (swap_sound sound found taken) behind fun strict other member =>
        valid strict other (List.mem_cons_of_mem old member)
      have last : outcome (Draft.replaceAll [⟨entry.name, old⟩])
          (draft.swap position old entry.shape) = (.ok [entry.shape], draft) := by
        rw [replace_all_cons_eq_ok_iff]
        exact ⟨entry.shape, draft, [], undone, rfl, rfl⟩
      rw [Draft.undoing, List.zipWith_cons_cons, List.reverse_cons, List.map_cons, List.reverse_cons]
      exact replace_all_append later last

end Run

/-- A replacement that was not refused is undone by putting back the shape that it gave, and a run of
them by putting back all that they gave in reverse order, whatever opcodes went from name to name in
between. The draft is then what it was in all of its parts. -/
theorem replacements_undone {draft : Draft} (reachable : draft.Reachable) :
    (∀ name new old next, outcome (Draft.replace name new) draft = (.ok old, next) →
      (draft.strict = false ∨ old.validate = .ok ()) →
      outcome (Draft.replace name old) next = (.ok new, draft)) ∧
    ∀ entries olds last, outcome (Draft.replaceAll entries) draft = (.ok olds, last) →
      (draft.strict = false ∨ ∀ old ∈ olds, old.validate = .ok ()) →
      outcome (Draft.replaceAll (Draft.undoing entries olds)) last =
        (.ok (entries.map Entry.shape).reverse, draft) := by
  constructor
  · intro name new old next replaced valid
    apply replace_undone reachable.sound replaced
    intro strict
    simpa [strict] using valid
  · intro entries olds last replaced valid
    apply replace_all_undone reachable.sound replaced
    intro strict
    simpa [strict] using valid

/-- The pawn reports a truth value, which no strict draft would have taken. -/
def chessmen : List Operation :=
  [.register "ROOK" ⟨"rook_moves", Flags.none, by decide⟩,
   .register "KNIGHT" ⟨"knight_jumps", Flags.none, by decide⟩,
   .register "PAWN" ⟨"pawn_steps", Flags.ofList [.boolean], by decide⟩]

/-- The three opcodes go round, and the pawn steps aside for it. -/
def castling : List Entry :=
  [⟨"PAWN", ⟨"pawn_waits", Flags.none, by decide⟩⟩,
   ⟨"ROOK", ⟨"pawn_steps", Flags.none, by decide⟩⟩,
   ⟨"KNIGHT", ⟨"rook_moves", Flags.hatCap, by decide⟩⟩,
   ⟨"PAWN", ⟨"knight_jumps", Flags.none, by decide⟩⟩]

theorem castling_undone :
    (∃ last, (Draft.empty.after chessmen).Reachable ∧
      outcome (Draft.replaceAll castling) (Draft.empty.after chessmen) =
        (.ok [⟨"pawn_steps", Flags.ofList [.boolean], by decide⟩,
          ⟨"rook_moves", Flags.none, by decide⟩, ⟨"knight_jumps", Flags.none, by decide⟩,
          ⟨"pawn_waits", Flags.none, by decide⟩], last) ∧
      outcome (Draft.replaceAll [⟨"PAWN", ⟨"pawn_waits", Flags.none, by decide⟩⟩,
          ⟨"KNIGHT", ⟨"knight_jumps", Flags.none, by decide⟩⟩,
          ⟨"ROOK", ⟨"rook_moves", Flags.none, by decide⟩⟩,
          ⟨"PAWN", ⟨"pawn_steps", Flags.ofList [.boolean], by decide⟩⟩]) last =
        (.ok (castling.map Entry.shape).reverse, Draft.empty.after chessmen)) ∧
    ∃ next, (Draft.empty.after (chessmen ++ [.setStrict true])).Reachable ∧
      outcome (Draft.replace "ROOK" ⟨"rook_rests", Flags.none, by decide⟩)
        (Draft.empty.after (chessmen ++ [.setStrict true])) =
          (.ok ⟨"rook_moves", Flags.none, by decide⟩, next) ∧
      outcome (Draft.replace "ROOK" ⟨"rook_moves", Flags.none, by decide⟩) next =
        (.ok ⟨"rook_rests", Flags.none, by decide⟩,
          Draft.empty.after (chessmen ++ [.setStrict true])) := by
  constructor
  · have reachable : (Draft.empty.after chessmen).Reachable := ⟨chessmen, rfl⟩
    have replaced : outcome (Draft.replaceAll castling) (Draft.empty.after chessmen) =
        (.ok [⟨"pawn_steps", Flags.ofList [.boolean], by decide⟩,
          ⟨"rook_moves", Flags.none, by decide⟩, ⟨"knight_jumps", Flags.none, by decide⟩,
          ⟨"pawn_waits", Flags.none, by decide⟩], _) := rfl
    exact ⟨_, reachable, replaced,
      (replacements_undone reachable).2 castling _ _ replaced (.inl rfl)⟩
  · have reachable : (Draft.empty.after (chessmen ++ [.setStrict true])).Reachable :=
      ⟨chessmen ++ [.setStrict true], rfl⟩
    have replaced : outcome (Draft.replace "ROOK" ⟨"rook_rests", Flags.none, by decide⟩)
        (Draft.empty.after (chessmen ++ [.setStrict true])) =
          (.ok ⟨"rook_moves", Flags.none, by decide⟩, _) := rfl
    exact ⟨_, reachable, replaced,
      (replacements_undone reachable).1 "ROOK" _ _ _ replaced (.inr rfl)⟩

end OpcodeShapes
