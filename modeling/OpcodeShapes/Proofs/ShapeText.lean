import OpcodeShapes.Proofs.Lookups
import OpcodeShapes.Proofs.Members

/-!
# A shape is told by its text

A shape is written as an object in the order of declaration, and as part of a
line with its members in key order. Both are read back as the same members,
which give the opcode, the category and the value of every flag, so no two
shapes are written alike. Nothing is asked of the opcode: quotes, backslashes
and controls are escaped, and what is escaped is read back.
-/

namespace OpcodeShapes

set_option autoImplicit false

def Shape.members (shape : Shape) : List (String × Value) :=
  [("opcode", .string shape.opcode), ("category", .string shape.category)] ++
    shape.flags.entries.map fun entry => ("is_" ++ entry.1.name, entry.2.toValue)

/-- The members that tell a shape, in whatever order. -/
structure Shape.ToldBy (shape : Shape) (members : List (String × Value)) : Prop where
  nine : members.length = 9
  distinct : (memberKeys members).Nodup
  opcode : members.lookup "opcode" = some (.string shape.opcode)
  category : members.lookup "category" = some (.string shape.category)
  flag : ∀ flag : Flag, ∃ v, members.lookup ("is_" ++ flag.name) = some v ∧
    Trilean.ofValue v = .ok (shape.get flag)

/-- A line is an object with the members of the written form under `shape`, in some order. -/
def Shape.StandsIn (shape : Shape) (line : String) : Prop :=
  ∃ outer inner written, Json.read? line = some (.object outer) ∧
    outer.lookup "shape" = some (.object inner) ∧
    Json.read? (Json.print shape.toValue) = some (.object written) ∧ inner.Perm written

namespace Shape

theorem to_value_plain (shape : Shape) (depth : Nat) : Json.Plain (depth + 1) shape.toValue := by
  intro member listed
  rcases List.mem_append.mp listed with text | flag
  · rcases List.mem_pair.mp text with rfl | rfl <;> cases depth <;> trivial
  · rcases List.mem_map.mp flag with ⟨entry, _, rfl⟩
    exact Trilean.to_value_plain entry.2 depth

theorem read_written (shape : Shape) :
    Json.read? (Json.print shape.toValue) = some (.object shape.members) :=
  Json.read_print (shape.to_value_plain 127)

theorem member_keys (shape : Shape) :
    memberKeys shape.members =
      ["opcode", "category", "is_stack", "is_c_mouth", "is_cap", "is_hat", "is_reporter",
        "is_boolean", "is_menu"] := rfl

theorem member_keys_nodup (shape : Shape) : (memberKeys shape.members).Nodup := by
  rw [member_keys]
  decide

theorem told_by_members (shape : Shape) : shape.ToldBy shape.members := by
  have distinct := shape.member_keys_nodup
  refine ⟨rfl, distinct, rfl, ?_, ?_⟩
  · rw [lookup_eq_some_iff distinct]
    simp [members]
  · intro flag
    refine ⟨(shape.get flag).toValue, ?_, Trilean.of_value_to_value _⟩
    rw [lookup_eq_some_iff distinct]
    apply List.mem_append_right
    exact List.mem_map_of_mem (List.mem_map_of_mem (Flag.mem_all flag))

theorem ToldBy.determines {one other : Shape} {members : List (String × Value)}
    (ofOne : one.ToldBy members) (ofOther : other.ToldBy members) : one = other := by
  rw [ext_iff_opcode_flags]
  constructor
  · have same := ofOne.opcode.symm.trans ofOther.opcode
    exact Value.string.inj (Option.some.inj same)
  · apply Flags.ext_get
    intro flag
    rcases ofOne.flag flag with ⟨v, found, reads⟩
    rcases ofOther.flag flag with ⟨w, also, readsAlso⟩
    rw [found, Option.some_inj] at also
    rw [also, readsAlso] at reads
    exact (Except.ok.inj reads).symm

theorem written_injective {one other : Shape}
    (same : Json.print one.toValue = Json.print other.toValue) : one = other := by
  have read := one.read_written
  rw [same, other.read_written, Option.some_inj] at read
  have members := Value.object.inj read
  exact (members ▸ one.told_by_members).determines other.told_by_members

theorem document_perm (shape : Shape) :
    ∃ inner, shape.document = .object inner ∧ inner.Perm shape.members := by
  have ordered : orderedMembers shape.members = shape.members := by
    simp only [members, Flags.entries, Flag.all, List.map_cons, List.map_nil, List.cons_append,
      List.nil_append, Value.ordered, orderedMembers, Trilean.to_value_ordered]
  refine ⟨inKeyOrder shape.members, ?_, in_key_order_perm shape.member_keys_nodup⟩
  rw [← shape.to_value_ordered, ← ordered]
  rfl

theorem stands_in {shape : Shape} {line : String} {outer : List (String × Value)}
    (read : Json.read? line = some (.object outer))
    (found : outer.lookup "shape" = some shape.document) : shape.StandsIn line := by
  rcases shape.document_perm with ⟨inner, document, rearranged⟩
  exact ⟨outer, inner, shape.members, read, document ▸ found, shape.read_written, rearranged⟩

end Shape

def nameDocument (name : String) (shape : Shape) : Value :=
  .object [
    ("attachable", shape.attachability.toValue),
    ("name", .string name),
    ("shape", shape.document)]

theorem name_line_eq (name : String) (shape : Shape) :
    Command.nameLine name shape = Json.print (nameDocument name shape) ++ "\n" := by
  simp only [Command.nameLine, Command.jsonLine, Value.ordered, orderedMembers,
    Trilean.to_value_ordered, Shape.to_value_ordered, inKeyOrder, List.foldl_cons, List.foldl_nil,
    putMember, String.reduceLT, String.reduceEq, ↓reduceIte]
  rfl

theorem name_plain (name : String) (shape : Shape) (depth : Nat) :
    Json.Plain (depth + 2) (nameDocument name shape) := by
  simp [nameDocument, Json.Plain, Trilean.to_value_plain, Shape.document_plain]

/-- The text of a shape holds no control below U+0020 and is read back as nine members: the opcode to
the letter, the category, and under the name of every flag what is read as its value. The lines of a
lookup and of a name hold the same members in another order. So two shapes have the same text only if
they are the same. -/
theorem shape_told_by_its_text :
    (∀ shape : Shape, Json.Printable (Json.print shape.toValue).toList ∧
      ∃ members, Json.read? (Json.print shape.toValue) = some (.object members) ∧
        shape.ToldBy members) ∧
      (∀ (registry : Registry) (queries : List String), ∃ lines : List String,
        Command.run registry (.lookup queries) = .ok (String.join (lines.map (· ++ "\n"))) ∧
        List.Forall₂ (fun query line => (registry.ofOpcode query).StandsIn line) queries lines) ∧
      (∀ (registry : Registry) (name : String) (shape : Shape), registry.named name = .ok shape →
        ∃ line, Command.run registry (.named name) = .ok (line ++ "\n") ∧ shape.StandsIn line) ∧
      ∀ one other : Shape, Json.print one.toValue = Json.print other.toValue ↔ one = other := by
  refine ⟨?_, ?_, ?_, ?_⟩
  · intro shape
    refine ⟨?_, shape.members, shape.read_written, shape.told_by_members⟩
    rw [Json.print, String.toList_ofList]
    exact Json.value_printable 128 _ (shape.to_value_plain 127)
  · intro registry queries
    let line := fun query => Json.print ((registry.lookup query).document query)
    refine ⟨queries.map line, ?_, ?_⟩
    · have lines : queries.map (Command.lookupLine registry) =
          (queries.map line).map (· ++ "\n") := by
        rw [List.map_map]
        exact List.map_congr_left fun query _ => lookup_line_eq registry query
      rw [Command.run_lookup, lines]
    · rw [List.forall₂_map_right_iff, List.forall₂_same]
      intro query _
      have read := Json.read_print (lookup_plain registry query 126)
      exact Shape.stands_in read rfl
  · intro registry name shape found
    refine ⟨Json.print (nameDocument name shape), ?_, ?_⟩
    · rw [Command.run_named registry found, name_line_eq]
    · have read := Json.read_print (name_plain name shape 126)
      exact Shape.stands_in read rfl
  · intro one other
    constructor
    · exact Shape.written_injective
    · intro same
      rw [same]

/-- An opcode with a control, quotes, a backslash and a line break in it. -/
def ringingBell : Shape :=
  ⟨"bell\x07_\"ding\\dong\"\n", Flags.none.set .menu .indeterminate, by decide⟩

def bellHistory : List Operation :=
  [.register "TOP" ⟨"top_for_bells", Flags.hatCap, by decide⟩, .register "BELL" ringingBell,
   .designate "TOP"]

theorem ringing_bell_told_by_its_text :
    ∃ registry line, (Draft.empty.after bellHistory).build = .ok registry ∧
      registry.named "BELL" = .ok ringingBell ∧
      Command.run registry (.named "BELL") = .ok (line ++ "\n") ∧ ringingBell.StandsIn line := by
  have plain : (Draft.empty.after bellHistory).build.isOk = true := by decide +kernel
  rcases exists_built plain with ⟨registry, built⟩
  have copied := built_from built
  have sound := copied.sound (history_sound empty_draft_sound bellHistory)
  have member : ⟨"BELL", ringingBell⟩ ∈ registry.entries := by
    rw [copied.entries]
    decide +kernel
  have found := (sound.named_eq_ok_iff "BELL" ringingBell).mpr member
  rcases shape_told_by_its_text.2.2.1 registry "BELL" ringingBell found with
    ⟨line, written, stands⟩
  exact ⟨registry, line, built, found, written, stands⟩

end OpcodeShapes
