import OpcodeShapes.Proofs.Fallback
import OpcodeShapes.Proofs.LastWrites
import OpcodeShapes.Proofs.Representation
import OpcodeShapes.Proofs.Writing
import OpcodeShapes.Proofs.Written

/-!
# The lines of a lookup

A line joins two questions that are asked apart, whether the opcode is known and
which shape it has, and it may hold any text as the opcode. The two agree since
the fallback is one of the shapes: an opcode that no shape has is not its opcode
either. The line is told by what a reader of JSON makes of it, so how texts are
escaped has no part here.
-/

namespace OpcodeShapes

set_option autoImplicit false

def Shape.document (shape : Shape) : Value :=
  .object [
    ("category", .string shape.category),
    ("is_boolean", (shape.get .boolean).toValue),
    ("is_c_mouth", (shape.get .cMouth).toValue),
    ("is_cap", (shape.get .cap).toValue),
    ("is_hat", (shape.get .hat).toValue),
    ("is_menu", (shape.get .menu).toValue),
    ("is_reporter", (shape.get .reporter).toValue),
    ("is_stack", (shape.get .stack).toValue),
    ("opcode", .string shape.opcode)]

theorem Trilean.to_value_ordered (t : Trilean) : t.toValue.ordered = t.toValue := by
  cases t <;> rfl

theorem Shape.to_value_ordered (shape : Shape) : shape.toValue.ordered = shape.document := by
  simp only [Shape.toValue, Flags.entries, Flag.all, List.map_cons, List.map_nil, List.cons_append,
    List.nil_append, Flag.name, Value.ordered, orderedMembers, Trilean.to_value_ordered, inKeyOrder,
    List.foldl_cons, List.foldl_nil, putMember, String.reduceAppend, String.reduceLT,
    String.reduceEq, ↓reduceIte]
  rfl

theorem Trilean.to_value_plain (t : Trilean) (depth : Nat) : Json.Plain depth t.toValue := by
  cases t <;> simp [Trilean.toValue, Trilean.toBool?, Json.Plain]

theorem Shape.document_plain (shape : Shape) (depth : Nat) :
    Json.Plain (depth + 1) shape.document := by
  simp [Shape.document, Json.Plain, Trilean.to_value_plain]

theorem Shape.attachability_written (shape : Shape) :
    shape.attachability.toValue =
      if shape.get .cap = .indeterminate ∨ shape.get .reporter = .indeterminate then
        .string "indeterminate"
      else .bool (decide (shape.get .cap = .no ∧ shape.get .reporter = .no)) := by
  simp only [Shape.attachability, Shape.attachable, Shape.require]
  cases shape.get .cap <;> cases shape.get .reporter <;> rfl

/-- What a line tells about an opcode. -/
structure LookupReply where
  known : Bool
  attachable : Value
  shape : Shape

def LookupReply.document (reply : LookupReply) (query : String) : Value :=
  .object [
    ("attachable", reply.attachable),
    ("known", .bool reply.known),
    ("query", .string query),
    ("shape", reply.shape.document)]

def Registry.lookup (registry : Registry) (opcode : String) : LookupReply :=
  let shape := registry.ofOpcode opcode
  ⟨registry.containsOpcode opcode, shape.attachability.toValue, shape⟩

theorem lookup_line_eq (registry : Registry) (opcode : String) :
    Command.lookupLine registry opcode =
      Json.print ((registry.lookup opcode).document opcode) ++ "\n" := by
  simp only [Command.lookupLine, Command.jsonLine, Value.ordered, orderedMembers,
    Trilean.to_value_ordered, Shape.to_value_ordered, inKeyOrder, List.foldl_cons, List.foldl_nil,
    putMember, String.reduceLT, String.reduceEq, ↓reduceIte]
  rfl

theorem lookup_plain (registry : Registry) (opcode : String) (depth : Nat) :
    Json.Plain (depth + 2) ((registry.lookup opcode).document opcode) := by
  simp [Registry.lookup, LookupReply.document, Json.Plain, Trilean.to_value_plain,
    Shape.document_plain]

theorem printed_in_one_line {depth : Nat} {v : Value} (plain : Json.Plain depth v) :
    '\n' ∉ (Json.print v).toList := by
  rw [Json.print, String.toList_ofList]
  -- A line break would be a control.
  intro broken
  exact absurd (Json.value_printable depth v plain '\n' broken) (by decide)

theorem Registry.Sound.of_opcode_cases {registry : Registry} (sound : registry.Sound)
    (opcode : String) :
    (registry.containsOpcode opcode = true ∧ registry.ofOpcode opcode ∈ registry.shapes ∧
        (registry.ofOpcode opcode).opcode = opcode) ∨
      (registry.containsOpcode opcode = false ∧ registry.ofOpcode opcode = registry.fallback ∧
        ∀ shape ∈ registry.shapes, shape.opcode ≠ opcode) := by
  have contained := sound.find_opcode_is_some opcode
  cases found : registry.findOpcode? opcode with
  | some shape =>
      left
      rcases (sound.find_opcode_eq_some_iff opcode shape).mp found with ⟨name, member, same⟩
      rw [found] at contained
      rw [Registry.ofOpcode, found]
      exact ⟨contained.symm, List.mem_map_of_mem member, same⟩
  | none =>
      right
      have absent := (sound.find_opcode_eq_none_iff opcode).mp found
      rw [found] at contained
      rw [Registry.ofOpcode, found]
      refine ⟨contained.symm, rfl, ?_⟩
      intro shape listed
      rcases List.mem_map.mp listed with ⟨entry, member, rfl⟩
      exact absent entry member

/-- A reply that is true of a registry. -/
structure Registry.Tells (registry : Registry) (query : String) (reply : LookupReply) : Prop where
  listed : reply.shape ∈ registry.shapes
  known_iff : reply.known = true ↔ ∃ shape ∈ registry.shapes, shape.opcode = query
  known_iff_same : reply.known = true ↔ reply.shape.opcode = query
  unknown : reply.known = false →
    reply.shape = registry.fallback ∧ reply.attachable = .bool false
  attachable : reply.attachable =
    if reply.shape.get .cap = .indeterminate ∨ reply.shape.get .reporter = .indeterminate then
      .string "indeterminate"
    else .bool (decide (reply.shape.get .cap = .no ∧ reply.shape.get .reporter = .no))

theorem Registry.Sound.tells {registry : Registry} (sound : registry.Sound)
    (hatCap : registry.fallback.flags = Flags.hatCap) (opcode : String) :
    registry.Tells opcode (registry.lookup opcode) := by
  have attachable := (registry.ofOpcode opcode).attachability_written
  rcases sound.of_opcode_cases opcode with ⟨contained, listed, same⟩ | ⟨absent, fallen, nobody⟩
  · have known : (registry.lookup opcode).known = true := contained
    constructor
    · exact listed
    · exact iff_of_true known ⟨_, listed, same⟩
    · exact iff_of_true known same
    · intro unknown
      rw [known] at unknown
      cases unknown
    · exact attachable
  · have unknown : ¬ (registry.lookup opcode).known = true := fun known =>
      Bool.false_ne_true (absent.symm.trans known)
    have listed : registry.ofOpcode opcode ∈ registry.shapes := by
      rw [fallen]
      exact List.mem_map_of_mem (List.getElem_mem registry.fallbackAt.isLt)
    constructor
    · exact listed
    · exact iff_of_false unknown fun ⟨shape, member, same⟩ => nobody shape member same
    · exact iff_of_false unknown (nobody _ listed)
    · intro _
      refine ⟨fallen, ?_⟩
      rw [Registry.lookup, fallen, Shape.attachability, hat_cap_not_attachable hatCap]
      rfl
    · exact attachable

/-- A lookup writes one line for each opcode that it was asked about, in this order, and no line
break within a line. Every line is read back as an object of four members: the opcode to the letter,
whether it is known, attachability, and one of the shapes. The opcode is known if and only if a
shape has it, which is if and only if the shape in the line has it; an unknown one comes with the
fallback, below which nothing is attachable. Attachability is left open exactly if the cap or the
reporter of that shape is. -/
theorem lookup_lines_faithful {start : Draft} {opening : List Operation}
    (opens : Opening start opening) (history : List Operation) {registry : Registry}
    (built : (start.after history).build = .ok registry) (queries : List String) :
    ∃ lines : List String,
      Command.run registry (.lookup queries) = .ok (String.join (lines.map (· ++ "\n"))) ∧
      (∀ line ∈ lines, '\n' ∉ line.toList) ∧
      List.Forall₂ (fun query line => ∃ reply, registry.Tells query reply ∧
        Json.read? line = some (reply.document query)) queries lines := by
  have reaches := opening_reaches opens history
  have copied := built_from built
  have sound := copied.sound (reached_sound reaches empty_draft_sound)
  let line := fun query => Json.print ((registry.lookup query).document query)
  refine ⟨queries.map line, ?_, ?_, ?_⟩
  · have lines : queries.map (Command.lookupLine registry) =
        (queries.map line).map (· ++ "\n") := by
      rw [List.map_map]
      exact List.map_congr_left fun query _ => lookup_line_eq registry query
    rw [Command.run_lookup, lines]
  · intro written member
    rcases List.mem_map.mp member with ⟨query, _, rfl⟩
    exact printed_in_one_line (lookup_plain registry query 0)
  · rw [List.forall₂_map_right_iff, List.forall₂_same]
    intro query _
    have read := Json.read_print (lookup_plain registry query 126)
    exact ⟨_, sound.tells copied.hat_cap query, read⟩

def lookupLid : Shape := ⟨"lid_for_lookups", Flags.hatCap, by decide⟩

/-- An opcode of two lines with quotes in it, and a cap that cannot be told. -/
def lookupSay : Shape := ⟨"say\n\"twice\"", Flags.none.set .cap .indeterminate, by decide⟩

def lookupHistory : List Operation :=
  [.register "LID" lookupLid, .register "SAY" lookupSay, .designate "LID"]

theorem quoted_opcode_line_read_back :
    ∃ registry, (Draft.empty.after lookupHistory).build = .ok registry ∧
      ∃ known unknown : String,
        Command.run registry (.lookup ["say\n\"twice\"", "say"]) =
          .ok (String.join [known ++ "\n", unknown ++ "\n"]) ∧
        Json.read? known =
          some ((⟨true, .string "indeterminate", lookupSay⟩ : LookupReply).document
            "say\n\"twice\"") ∧
        Json.read? unknown =
          some ((⟨false, .bool false, registry.fallback⟩ : LookupReply).document "say") := by
  have plain : (Draft.empty.after lookupHistory).build.isOk = true := by decide +kernel
  rcases exists_built plain with ⟨registry, built⟩
  have shapes : registry.shapes = [lookupLid, lookupSay] := by
    rw [Registry.shapes, (built_from built).entries]
    decide +kernel
  rcases lookup_lines_faithful .empty lookupHistory built ["say\n\"twice\"", "say"] with
    ⟨lines, written, _, _ | ⟨⟨reply, tells, read⟩, _ | ⟨⟨other, otherTold, otherRead⟩, _ | _⟩⟩⟩
  refine ⟨registry, built, _, _, written, ?_, ?_⟩
  · have known : reply.known = true := by
      rw [tells.known_iff, shapes]
      exact ⟨lookupSay, by simp, rfl⟩
    have shape : reply.shape = lookupSay := by
      have same := tells.known_iff_same.mp known
      have listed := tells.listed
      rw [shapes] at listed
      rcases List.mem_pair.mp listed with lid | say
      · rw [lid] at same
        exact absurd same (by decide)
      · exact say
    have attachable := tells.attachable
    rw [shape, if_pos (by decide)] at attachable
    rcases reply with ⟨_, _, _⟩
    cases known
    cases shape
    cases attachable
    exact read
  · have unknown : other.known = false := by
      rw [Bool.eq_false_iff, ne_eq, otherTold.known_iff, shapes]
      decide
    rcases otherTold.unknown unknown with ⟨shape, attachable⟩
    rcases other with ⟨_, _, _⟩
    cases unknown
    cases shape
    cases attachable
    exact otherRead

end OpcodeShapes
