import OpcodeShapes.Proofs.Configured
import OpcodeShapes.Proofs.Representation
import OpcodeShapes.Proofs.Verdict

/-!
# The order of independent writes

Changes that write each name once at most may stand in another order. Not every
order is taken: one change may have to give an opcode up before another can have
it. But two orders that are taken end in the same shapes under the same names,
and since both indexes can be told from that, nothing that is asked of the one
draft or of the registry it becomes is answered otherwise by the other. Only the
order of the entries tells in which order names were registered.
-/

namespace OpcodeShapes

set_option autoImplicit false

/-- Two drafts with the same entries, in whatever order, and the same settings. -/
structure Agree (one other : Draft) : Prop where
  entries : ∀ entry, entry ∈ one.entries ↔ entry ∈ other.entries
  fallback : one.fallbackName = other.fallbackName
  strict : one.strict = other.strict

/-- Two drafts that are told apart by positions at most. -/
structure Draft.Alike (one other : Draft) : Prop where
  strict : one.strict = other.strict
  fallback : one.fallbackName = other.fallbackName
  shape : ∀ name, (one.find? name).map Prod.snd = (other.find? name).map Prod.snd
  holder : ∀ opcode, (one.holder? opcode).map Prod.snd = (other.holder? opcode).map Prod.snd

/-- Two registries that give the same answers. -/
structure Registry.Alike (one other : Registry) : Prop where
  named : ∀ name, one.named name = other.named name
  of_opcode : ∀ opcode, one.ofOpcode opcode = other.ofOpcode opcode
  find_opcode : ∀ opcode, one.findOpcode? opcode = other.findOpcode? opcode
  contains_opcode : ∀ opcode, one.containsOpcode opcode = other.containsOpcode opcode

namespace Draft.Sound

variable {draft : Draft}

theorem shape_eq_some_iff (sound : draft.Sound) (name : String) (shape : Shape) :
    (draft.find? name).map Prod.snd = some shape ↔ ⟨name, shape⟩ ∈ draft.entries := by
  rw [Option.map_eq_some_iff]
  constructor
  · rintro ⟨⟨position, _⟩, found, rfl⟩
    exact List.mem_of_getElem? ((sound.find_eq_some_iff name position _).mp found)
  · intro member
    rcases sound.exists_found member with ⟨position, found⟩
    exact ⟨_, found, rfl⟩

theorem holder_name_eq_some_iff (sound : draft.Sound) (opcode name : String) :
    (draft.holder? opcode).map Prod.snd = some name ↔
      ∃ shape, ⟨name, shape⟩ ∈ draft.entries ∧ shape.opcode = opcode := by
  rw [Option.map_eq_some_iff]
  constructor
  · rintro ⟨⟨position, _⟩, held, rfl⟩
    rcases (sound.holder_eq_some_iff opcode position _).mp held with ⟨shape, present, same⟩
    exact ⟨shape, List.mem_of_getElem? present, same⟩
  · rintro ⟨shape, member, rfl⟩
    rcases sound.exists_holder member with ⟨position, held⟩
    exact ⟨_, held, rfl⟩

theorem shape_unique (sound : draft.Sound) {name : String} {first second : Shape}
    (member : ⟨name, first⟩ ∈ draft.entries) (also : ⟨name, second⟩ ∈ draft.entries) :
    first = second := by
  have found := (sound.shape_eq_some_iff name first).mpr member
  rw [(sound.shape_eq_some_iff name second).mpr also] at found
  exact (Option.some.inj found).symm

end Draft.Sound

namespace Agree

variable {one other : Draft}

theorem symm (agree : Agree one other) : Agree other one where
  entries entry := (agree.entries entry).symm
  fallback := agree.fallback.symm
  strict := agree.strict.symm

theorem alike (agree : Agree one other) (sound : one.Sound) (also : other.Sound) :
    one.Alike other where
  strict := agree.strict
  fallback := agree.fallback
  shape name := by
    apply Option.ext
    intro shape
    rw [sound.shape_eq_some_iff, also.shape_eq_some_iff]
    exact agree.entries ⟨name, shape⟩
  holder opcode := by
    apply Option.ext
    intro name
    rw [sound.holder_name_eq_some_iff, also.holder_name_eq_some_iff]
    exact exists_congr fun shape => and_congr_left' (agree.entries ⟨name, shape⟩)

theorem entry_at (agree : Agree one other) (also : other.Sound)
    (names : Entry.names one.entries = Entry.names other.entries) {place : Nat} {entry : Entry}
    (present : one.entries[place]? = some entry) : other.entries[place]? = some entry := by
  have member := (agree.entries entry).mp (List.mem_of_getElem? present)
  rcases List.mem_iff_getElem?.mp member with ⟨elsewhere, there⟩
  have nameThere : (Entry.names other.entries)[elsewhere]? = some entry.name := by
    simp [Entry.names, there]
  have nameHere : (Entry.names other.entries)[place]? = some entry.name := by
    rw [← names]
    simp [Entry.names, present]
  rwa [← also.names.position_unique nameThere nameHere]

theorem eq_of_names (agree : Agree one other) (sound : one.Sound) (also : other.Sound)
    (names : Entry.names one.entries = Entry.names other.entries) : one = other := by
  have entries : one.entries = other.entries := by
    apply List.ext_getElem?
    intro place
    apply Option.ext
    intro entry
    exact ⟨agree.entry_at also names, agree.symm.entry_at sound names.symm⟩
  apply ledger_injective sound also
  rw [Draft.ledger, Draft.ledger, entries, agree.fallback, agree.strict]

theorem built_alike (agree : Agree one other) (sound : one.Sound) (also : other.Sound)
    {first second : Registry} (copied : BuiltFrom one first) (copiedToo : BuiltFrom other second) :
    first.Alike second := by
  have right := copied.sound sound
  have rightToo := copiedToo.sound also
  have entries (entry : Entry) : entry ∈ first.entries ↔ entry ∈ second.entries := by
    rw [copied.entries, copiedToo.entries]
    exact agree.entries entry
  have shape (name : String) : first.findName? name = second.findName? name := by
    apply Option.ext
    intro shape
    rw [right.find_name_eq_some_iff, rightToo.find_name_eq_some_iff, entries]
  have opcode (opcode : String) : first.findOpcode? opcode = second.findOpcode? opcode := by
    apply Option.ext
    intro shape
    rw [right.find_opcode_eq_some_iff, rightToo.find_opcode_eq_some_iff]
    exact exists_congr fun name => and_congr_left' (entries ⟨name, shape⟩)
  have fallback : first.fallback = second.fallback := by
    rcases copied.designated with ⟨name, designated, member⟩
    rcases copiedToo.designated with ⟨nameToo, designatedToo, memberToo⟩
    rw [agree.fallback, designatedToo, Option.some_inj] at designated
    subst designated
    rw [copiedToo.entries] at memberToo
    rw [copied.entries] at member
    exact also.shape_unique ((agree.entries _).mp member) memberToo
  constructor
  · intro name
    rw [Registry.named, Registry.named, shape]
  · intro unknown
    rw [Registry.ofOpcode, Registry.ofOpcode, opcode, fallback]
  · exact opcode
  · intro text
    rw [← right.find_opcode_is_some, ← rightToo.find_opcode_is_some, opcode]

/-- The designated name has the same shape in both, so if the one can be built the other can, and it
answers the same. -/
theorem builds (agree : Agree one other) (sound : one.Sound) (also : other.Sound)
    {first : Registry} (built : one.build = .ok first) :
    ∃ second, other.build = .ok second ∧ first.Alike second := by
  have copied := built_from built
  rcases copied.designated with ⟨name, designated, member⟩
  rw [agree.fallback] at designated
  rw [copied.entries, agree.entries] at member
  rcases designated_of_fallback_name designated with ⟨shape, listed, found⟩
  have same : shape = first.fallback := also.shape_unique listed member
  have hatCap : shape.flags = Flags.hatCap := same ▸ copied.hat_cap
  rcases exists_built_of_hat_cap also found hatCap with ⟨second, builtToo⟩
  exact ⟨second, builtToo, agree.built_alike sound also copied (built_from builtToo)⟩

end Agree

/-- Behind a write under a name the name has what was written, and all other names have what they
had. -/
theorem step_puts_entry {draft next : Draft} {write : Write} (step : Step draft write next)
    (sound : draft.Sound) {name : String} {shape : Shape}
    (puts : write.shapeUnder? name = some shape) (entry : Entry) :
    entry ∈ next.entries ↔
      entry = ⟨name, shape⟩ ∨ entry ∈ draft.entries ∧ entry.name ≠ name := by
  rcases (shape_under_eq_some_iff name write shape).mp puts with rfl | rfl
  · cases step with
    | register taken =>
        have fresh := ((sound.refuses_new_eq_none_iff name shape).mp taken).2.1
        have apart (member : entry ∈ draft.entries) : entry.name ≠ name := fun same =>
          fresh (List.mem_map.mpr ⟨entry, member, same⟩)
        rw [Draft.append, List.mem_append, List.mem_singleton, or_comm]
        exact or_congr_right ⟨fun member => ⟨member, apart member⟩, And.left⟩
  · cases step with
    | @replace _ position old _ found taken =>
        have present := (sound.find_eq_some_iff name position old).mp found
        rw [swap_entries_eq_map sound present, List.mem_map]
        constructor
        · rintro ⟨before, member, rfl⟩
          split_ifs with same
          · exact .inl rfl
          · exact .inr ⟨member, same⟩
        · rintro (rfl | ⟨member, apart⟩)
          · exact ⟨⟨name, old⟩, List.mem_of_getElem? present, if_pos rfl⟩
          · exact ⟨entry, member, if_neg apart⟩

theorem changes_put_entries {changes : List Change} {draft last : Draft}
    (reaches : Reaches draft (changes.map Change.write) last) (sound : draft.Sound)
    (once : (changes.map Change.name).Nodup) (entry : Entry) :
    entry ∈ last.entries ↔
      (∃ change ∈ changes, change.entry = entry) ∨
        entry ∈ draft.entries ∧ entry.name ∉ changes.map Change.name := by
  -- What the first change writes is kept, because no other one writes under its name.
  induction changes generalizing draft with
  | nil =>
      cases reaches
      simp
  | cons change rest ih =>
      cases reaches with
      | step first others =>
          have apart := List.nodup_cons.mp once
          have puts := (change_write_puts change change.name change.shape).mpr ⟨rfl, rfl⟩
          rw [ih others (step_sound first sound) apart.2, step_puts_entry first sound puts]
          constructor
          · rintro (⟨later, member, rfl⟩ | ⟨rfl | ⟨member, differs⟩, unwritten⟩)
            · exact .inl ⟨later, List.mem_cons_of_mem change member, rfl⟩
            · exact .inl ⟨change, List.mem_cons_self, rfl⟩
            · exact .inr ⟨member, List.not_mem_cons_of_ne_of_not_mem differs unwritten⟩
          · rintro (⟨later, member, rfl⟩ | ⟨member, unwritten⟩)
            · rcases List.mem_cons.mp member with rfl | behind
              · exact .inr ⟨.inl rfl, apart.1⟩
              · exact .inl ⟨later, behind, rfl⟩
            · have others := List.not_mem_of_not_mem_cons unwritten
              exact .inr ⟨.inr ⟨member, List.ne_of_not_mem_cons unwritten⟩, others⟩

theorem reordered_agree {draft one other : Draft} (sound : draft.Sound)
    {first second : List Change} (same : second.Perm first)
    (once : (first.map Change.name).Nodup)
    (ofFirst : Reaches draft (first.map Change.write) one)
    (ofSecond : Reaches draft (second.map Change.write) other) : Agree one other where
  entries entry := by
    have onceToo : (second.map Change.name).Nodup := (same.map Change.name).nodup_iff.mpr once
    rw [changes_put_entries ofFirst sound once, changes_put_entries ofSecond sound onceToo,
      (same.map Change.name).mem_iff]
    simp only [same.mem_iff]
  fallback := by
    rw [reached_fallback_name ofFirst sound, reached_fallback_name ofSecond sound,
      last_designated_changes, last_designated_changes]
  strict := by
    rw [reached_strictness ofFirst, reached_strictness ofSecond, last_strictness_changes,
      last_strictness_changes]

theorem replacements_keep_names {draft last : Draft} (sound : draft.Sound) {changes : List Change}
    (replacing : ∀ change ∈ changes, change.mode = .replace)
    (reaches : Reaches draft (changes.map Change.write) last) :
    Entry.names last.entries = Entry.names draft.entries := by
  have adding : changes.filter (fun change => change.mode = .add) = [] := by
    rw [List.filter_eq_nil_iff]
    intro change member
    simp [replacing change member]
  rw [reached_names reaches sound, registered_changes_names, adding, List.map_nil, List.append_nil]

/-- Two orders of the same changes, none of which writes a name that another one writes, and both of
them taken by a draft: in the end the strictness, the designated name, the shape of every name and
the holder of every opcode are the same. If the one draft can be built so can the other, and all
answers of the registries are the same. Where nothing is added, the two drafts are one. -/
theorem independent_writes_in_any_order {draft : Draft} (reachable : draft.Reachable)
    {first second : List Change} (same : second.Perm first)
    (once : (first.map Change.name).Nodup) {one other : Draft}
    (ofFirst : outcome (Draft.change first) draft = (.ok (), one))
    (ofSecond : outcome (Draft.change second) draft = (.ok (), other)) :
    one.Alike other ∧
      (∀ built, one.build = .ok built → ∃ also, other.build = .ok also ∧ built.Alike also) ∧
      ((∀ change ∈ first, change.mode = .replace) → one = other) := by
  have reachesOne := change_batch_reaches ofFirst
  have reachesOther := change_batch_reaches ofSecond
  have sound := reached_sound reachesOne reachable.sound
  have also := reached_sound reachesOther reachable.sound
  have agree := reordered_agree reachable.sound same once reachesOne reachesOther
  refine ⟨agree.alike sound also, fun built finished => agree.builds sound also finished, ?_⟩
  intro replacing
  apply agree.eq_of_names sound also
  rw [replacements_keep_names reachable.sound replacing reachesOne,
    replacements_keep_names reachable.sound
      (fun change member => replacing change (same.mem_iff.mp member)) reachesOther]

def juggler : List Operation :=
  [.register "LEFT" ⟨"holds_ball", Flags.hatCap, by decide⟩,
   .register "RIGHT" ⟨"holds_club", Flags.none, by decide⟩,
   .designate "LEFT"]

/-- The ball goes from left to right, which frees the club for a foot. The other way round each of
them would still be held. -/
def passes : List Change :=
  [⟨"LEFT", ⟨"holds_ring", Flags.hatCap, by decide⟩, .replace⟩,
   ⟨"RIGHT", ⟨"holds_ball", Flags.none, by decide⟩, .replace⟩,
   ⟨"FOOT", ⟨"holds_club", Flags.none, by decide⟩, .add⟩,
   ⟨"HEAD", ⟨"holds_hoop", Flags.none, by decide⟩, .add⟩]

/-- The hoop first and the rest as before. -/
def passesOtherwise : List Change :=
  ⟨"HEAD", ⟨"holds_hoop", Flags.none, by decide⟩, .add⟩ :: passes.take 3

def catches : List Change :=
  [⟨"LEFT", ⟨"holds_cone", Flags.hatCap, by decide⟩, .replace⟩,
   ⟨"RIGHT", ⟨"holds_plate", Flags.none, by decide⟩, .replace⟩]

theorem passes_in_two_orders :
    (Draft.empty.after juggler).Reachable ∧
    (passesOtherwise.Perm passes ∧ (passes.map Change.name).Nodup ∧ ∃ one other,
      outcome (Draft.change passes) (Draft.empty.after juggler) = (.ok (), one) ∧
      outcome (Draft.change passesOtherwise) (Draft.empty.after juggler) = (.ok (), other) ∧
      Entry.names one.entries ≠ Entry.names other.entries ∧ one.Alike other ∧
      ∃ built also, one.build = .ok built ∧ other.build = .ok also ∧ built.Alike also) ∧
    (outcome (Draft.change passes.reverse) (Draft.empty.after juggler)).1 =
      .error (.duplicateOpcode "holds_club" "RIGHT") ∧
    ∃ one, outcome (Draft.change catches) (Draft.empty.after juggler) = (.ok (), one) ∧
      outcome (Draft.change catches.reverse) (Draft.empty.after juggler) = (.ok (), one) := by
  have reachable : (Draft.empty.after juggler).Reachable := ⟨juggler, rfl⟩
  refine ⟨reachable, ?_, by decide +kernel, ?_⟩
  · have same : passesOtherwise.Perm passes := by decide
    have once : (passes.map Change.name).Nodup := by decide
    have ofFirst : outcome (Draft.change passes) (Draft.empty.after juggler) = (.ok (), _) := rfl
    have ofSecond : outcome (Draft.change passesOtherwise) (Draft.empty.after juggler) =
        (.ok (), _) := rfl
    rcases independent_writes_in_any_order reachable same once ofFirst ofSecond with
      ⟨alike, builds, _⟩
    rcases builds _ rfl with ⟨also, finished, answers⟩
    exact ⟨same, once, _, _, ofFirst, ofSecond, by decide, alike, _, also, rfl, finished, answers⟩
  · have same : catches.reverse.Perm catches := List.reverse_perm catches
    have once : (catches.map Change.name).Nodup := by decide
    have ofFirst : outcome (Draft.change catches) (Draft.empty.after juggler) = (.ok (), _) := rfl
    have ofSecond : outcome (Draft.change catches.reverse) (Draft.empty.after juggler) =
        (.ok (), _) := rfl
    rcases independent_writes_in_any_order reachable same once ofFirst ofSecond with
      ⟨_, _, equal⟩
    exact ⟨_, ofFirst, ofSecond.trans (congrArg _ (equal (by decide)).symm)⟩

end OpcodeShapes
