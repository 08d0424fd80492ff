import OpcodeShapes.Proofs.ByteOrder
import OpcodeShapes.Proofs.Grammar

/-!
# Which fault of a shape is told

Many things can be wrong with one shape, and one of them is told. What is wrong
with a single member goes first, in the order of the keys, then what is
missing, then what is blank, and of these the name goes before the opcode. The
faults and their order are said here without a decoder, for the object as the
document has it.
-/

namespace OpcodeShapes

set_option autoImplicit false

theorem Trilean.parse_eq_error_iff (s : String) (e : Trilean.ParseError) :
    Trilean.parse s = .error e ↔ (∀ t : Trilean, Text.word s ≠ t.text) ∧ e = ⟨s⟩ := by
  constructor
  · intro refused
    constructor
    · intro t spelled
      rw [(Trilean.parse_eq_ok_iff s t).mpr spelled] at refused
      cases refused
    · unfold Trilean.parse at refused
      split at refused
      · cases refused
      · exact (Except.error.inj refused).symm
  · rintro ⟨unspelled, rfl⟩
    cases read : Trilean.parse s with
    | ok t => exact absurd ((Trilean.parse_eq_ok_iff s t).mp read) (unspelled t)
    | error other =>
        unfold Trilean.parse at read
        split at read
        · cases read
        · exact read.symm

namespace Config

def shapeKeys : List String :=
  ["name", "opcode", "stack", "c_mouth", "cap", "hat", "reporter", "boolean", "menu", "replace"]

/-- What is wrong with a key and the value under it, whatever else the object has. -/
inductive KeyFault (dialect : Dialect) : String → Value → DecodeError → Prop where
  /-- The value is not looked at. -/
  | unknown {key : String} {v : Value} (unknown : key ∉ shapeKeys) :
      KeyFault dialect key v (.unknownField key shapeKeys)
  | text {key : String} {v : Value} (required : key = "name" ∨ key = "opcode")
      (noText : ∀ s, v ≠ .string s) :
      KeyFault dialect key v (.invalidType (v.describe dialect.layout) .string)
  | mode {v : Value} (noBoolean : ∀ b, v ≠ .bool b) :
      KeyFault dialect "replace" v (.invalidType (v.describe dialect.layout) .boolean)
  | word {flag : Flag} {s : String} (unspelled : ∀ t : Trilean, Text.word s ≠ t.text) :
      KeyFault dialect flag.name (.string s) (.trilean (.word ⟨s⟩))
  | kind {flag : Flag} {v : Value} (noBoolean : ∀ b, v ≠ .bool b) (noText : ∀ s, v ≠ .string s) :
      KeyFault dialect flag.name v (.trilean .kind)

/-- A key of an object is at fault. Of equal keys the last one counts. -/
def FaultAt (dialect : Dialect) (members : List (String × Value)) (key : String)
    (fault : DecodeError) : Prop :=
  ∃ v, member? key members = some v ∧ KeyFault dialect key v fault

def Faultless (dialect : Dialect) (members : List (String × Value)) : Prop :=
  ∀ key fault, ¬ FaultAt dialect members key fault

/-- What is told only after every member has been read. -/
inductive LateFault (members : List (String × Value)) : DecodeError → Prop where
  | noName (absent : member? "name" members = none) :
      LateFault members (.missingField "name")
  | noOpcode {name : String} (named : member? "name" members = some (.string name))
      (absent : member? "opcode" members = none) :
      LateFault members (.missingField "opcode")
  | blankName {name opcode : String} (named : member? "name" members = some (.string name))
      (told : member? "opcode" members = some (.string opcode)) (blank : Text.Blank name) :
      LateFault members .blankName
  /-- The name is given as it stands. -/
  | blankOpcode {name opcode : String} (named : member? "name" members = some (.string name))
      (told : member? "opcode" members = some (.string opcode)) (readable : ¬ Text.Blank name)
      (blank : Text.Blank opcode) :
      LateFault members (.invalidShape name .blankOpcode)

/-- The fault of an object that is to be a shape. Keys come in the order of their bytes. -/
inductive ShapeFault (dialect : Dialect) (members : List (String × Value)) : DecodeError → Prop where
  | first {key : String} {fault : DecodeError} (faulty : FaultAt dialect members key fault)
      (fine : ∀ earlier, Text.bytes earlier < Text.bytes key →
        ∀ cause, ¬ FaultAt dialect members earlier cause) :
      ShapeFault dialect members fault
  | late {fault : DecodeError} (faultless : Faultless dialect members)
      (lacking : LateFault members fault) :
      ShapeFault dialect members fault

theorem read_text_eq_error_iff (dialect : Dialect) (v : Value) (fault : DecodeError) :
    readText dialect v = .error fault ↔
      (∀ s, v ≠ .string s) ∧ fault = .invalidType (v.describe dialect.layout) .string := by
  cases v <;> simp [readText, Dialect.wrongType, eq_comm]

theorem read_bool_eq_error_iff (dialect : Dialect) (v : Value) (fault : DecodeError) :
    readBool dialect v = .error fault ↔
      (∀ b, v ≠ .bool b) ∧ fault = .invalidType (v.describe dialect.layout) .boolean := by
  cases v <;> simp [readBool, Dialect.wrongType, eq_comm]

theorem read_trilean_eq_error_iff (v : Value) (fault : DecodeError) :
    readTrilean v = .error fault ↔
      (∃ s, v = .string s ∧ (∀ t : Trilean, Text.word s ≠ t.text) ∧
        fault = .trilean (.word ⟨s⟩)) ∨
      (∀ b, v ≠ .bool b) ∧ (∀ s, v ≠ .string s) ∧ fault = .trilean .kind := by
  rw [readTrilean, map_error_eq_error_iff]
  cases v with
  | string s =>
      simp only [Trilean.ofValue, map_error_eq_error_iff, Trilean.parse_eq_error_iff]
      constructor
      · rintro ⟨_, ⟨_, ⟨unspelled, rfl⟩, rfl⟩, rfl⟩
        exact .inl ⟨s, rfl, unspelled, rfl⟩
      · rintro (⟨_, ⟨rfl⟩, unspelled, rfl⟩ | ⟨_, noText, _⟩)
        · exact ⟨_, ⟨_, ⟨unspelled, rfl⟩, rfl⟩, rfl⟩
        · exact absurd rfl (noText s)
  | _ => simp [Trilean.ofValue, eq_comm]

theorem mem_shape_keys_iff (key : String) :
    key ∈ shapeKeys ↔ ∃ field : ShapeField, field.key = key := by
  have keys : shapeKeys = ShapeField.all.map ShapeField.key := rfl
  rw [keys, List.mem_map]
  exact exists_congr fun field => and_iff_right field.mem_all

theorem field_refusal_fault (dialect : Dialect) {field : ShapeField} {v : Value}
    {fault : DecodeError} (refused : field.value dialect v = .error fault) :
    KeyFault dialect field.key v fault := by
  cases field with
  | name =>
      obtain ⟨noText, rfl⟩ := (read_text_eq_error_iff dialect v fault).mp
        ((map_eq_error_iff _ _ _).mp refused)
      exact .text (.inl rfl) noText
  | opcode =>
      obtain ⟨noText, rfl⟩ := (read_text_eq_error_iff dialect v fault).mp
        ((map_eq_error_iff _ _ _).mp refused)
      exact .text (.inr rfl) noText
  | flag f =>
      rcases (read_trilean_eq_error_iff v fault).mp refused with
        ⟨s, rfl, unspelled, rfl⟩ | ⟨noBoolean, noText, rfl⟩
      · exact .word unspelled
      · exact .kind noBoolean noText
  | replace =>
      obtain ⟨noBoolean, rfl⟩ := (read_bool_eq_error_iff dialect v fault).mp refused
      exact .mode noBoolean

theorem member_fault_iff (dialect : Dialect) (key : String) (v : Value) (fault : DecodeError) :
    (shapeRecord dialect).MemberFault (ShapeField.value dialect) (key, v) fault ↔
      KeyFault dialect key v fault := by
  constructor
  · rintro (⟨unknown, rfl⟩ | ⟨field, rfl, refused⟩)
    · apply KeyFault.unknown
      rw [mem_shape_keys_iff]
      rintro ⟨field, same⟩
      exact unknown field same
    · exact field_refusal_fault dialect refused
  · intro faulty
    cases faulty with
    | unknown unknown =>
        exact .inl ⟨fun field same => unknown ((mem_shape_keys_iff key).mpr ⟨field, same⟩), rfl⟩
    | text required noText =>
        have refused := (read_text_eq_error_iff dialect v _).mpr ⟨noText, rfl⟩
        rcases required with rfl | rfl
        · exact .inr ⟨.name, rfl, (map_eq_error_iff _ _ _).mpr refused⟩
        · exact .inr ⟨.opcode, rfl, (map_eq_error_iff _ _ _).mpr refused⟩
    | mode noBoolean =>
        exact .inr ⟨.replace, rfl, (read_bool_eq_error_iff dialect v _).mpr ⟨noBoolean, rfl⟩⟩
    | @word flag s unspelled =>
        exact .inr ⟨.flag flag, rfl,
          (read_trilean_eq_error_iff _ _).mpr (.inl ⟨s, rfl, unspelled, rfl⟩)⟩
    | @kind flag _ noBoolean noText =>
        exact .inr ⟨.flag flag, rfl,
          (read_trilean_eq_error_iff v _).mpr (.inr ⟨noBoolean, noText, rfl⟩)⟩

theorem unknown_key_fault_iff (dialect : Dialect) {key : String} (unknown : key ∉ shapeKeys)
    (v : Value) (fault : DecodeError) :
    KeyFault dialect key v fault ↔ fault = .unknownField key shapeKeys := by
  constructor
  · rw [← member_fault_iff]
    rintro (⟨_, same⟩ | ⟨field, same, _⟩)
    · exact same
    · exact absurd ((mem_shape_keys_iff key).mpr ⟨field, same⟩) unknown
  · rintro rfl
    exact .unknown unknown

section Members

variable (dialect : Dialect) {members : List (String × Value)}

/-- Reading the members stops at the first key in byte order that is at fault. -/
theorem read_members_eq_error_iff (fault : DecodeError) :
    (shapeRecord dialect).readMembers {} (inKeyOrder members) = .error fault ↔
      ∃ key, FaultAt dialect members key fault ∧
        ∀ earlier, Text.bytes earlier < Text.bytes key →
          ∀ cause, ¬ FaultAt dialect members earlier cause := by
  rw [(shape_record_placed dialect).read_object_eq_error_iff]
  simp only [member_fault_iff, FaultAt, Text.bytes_lt_iff]
  constructor
  · rintro ⟨key, v, found, faulty, fine⟩
    refine ⟨key, ⟨v, found, faulty⟩, ?_⟩
    rintro earlier smaller cause ⟨w, present, wrong⟩
    exact fine earlier w smaller present cause wrong
  · rintro ⟨key, ⟨v, found, faulty⟩, fine⟩
    refine ⟨key, v, found, faulty, ?_⟩
    intro earlier w smaller present cause wrong
    exact fine earlier smaller cause ⟨w, present, wrong⟩

theorem exists_read_iff_faultless :
    (∃ raw, (shapeRecord dialect).readMembers {} (inKeyOrder members) = .ok raw) ↔
      Faultless dialect members := by
  rw [(shape_record_placed dialect).exists_read_iff]
  simp only [member_fault_iff]
  constructor
  · rintro fine key fault ⟨v, found, faulty⟩
    exact fine key v found fault faulty
  · intro faultless key v found fault faulty
    exact faultless key fault ⟨v, found, faulty⟩

theorem told_text_cases {found : Option Value} {content : Option String}
    (told : Told found (fun v told => (readText dialect v).map some = .ok told) none content) :
    found = content.map Value.string := by
  cases content with
  | some s => exact (told_text_iff dialect found s).mp told
  | none =>
      cases found with
      | none => rfl
      | some v =>
          obtain ⟨s, _, absurdity⟩ := (map_eq_ok_iff _ _ _).mp told
          cases absurdity

theorem read_texts {raw : RawShape}
    (read : (shapeRecord dialect).readMembers {} (inKeyOrder members) = .ok raw) :
    member? "name" members = raw.name.map Value.string ∧
      member? "opcode" members = raw.opcode.map Value.string := by
  rcases (read_shape_eq_ok_iff dialect members raw).mp read with ⟨_, name, opcode, _⟩
  exact ⟨told_text_cases dialect name, told_text_cases dialect opcode⟩

end Members

theorem change_eq_error_iff (raw : RawShape) (name opcode : String) (fault : DecodeError) :
    raw.change name opcode = .error fault ↔
      Text.Blank name ∧ fault = .blankName ∨
      ¬ Text.Blank name ∧ Text.Blank opcode ∧ fault = .invalidShape name .blankOpcode := by
  unfold RawShape.change
  by_cases blank : Text.Blank name
  · simp [blank, eq_comm]
  · rw [if_neg blank]
    cases made : Shape.make opcode raw.flags with
    | error cause =>
        obtain ⟨blankOpcode, rfl⟩ := Shape.make_eq_error_iff.mp made
        simp [blank, blankOpcode, eq_comm]
    | ok shape =>
        obtain ⟨rfl, _⟩ := Shape.make_eq_ok_iff.mp made
        simp [blank, shape.opcode_not_blank]

theorem of_members_eq_error_iff (raw : RawShape) (fault : DecodeError) :
    raw.ofMembers = .error fault ↔
      raw.name = none ∧ fault = .missingField "name" ∨
      (∃ name, raw.name = some name ∧ raw.opcode = none ∧ fault = .missingField "opcode") ∨
      ∃ name opcode, raw.name = some name ∧ raw.opcode = some opcode ∧
        raw.change name opcode = .error fault := by
  unfold RawShape.ofMembers
  cases raw.name with
  | none => simp [ShapeField.key, eq_comm]
  | some name =>
      cases raw.opcode with
      | none => simp [ShapeField.key, eq_comm]
      | some opcode => simp

theorem late_fault_iff (dialect : Dialect) {members : List (String × Value)} {raw : RawShape}
    (read : (shapeRecord dialect).readMembers {} (inKeyOrder members) = .ok raw)
    (fault : DecodeError) : raw.ofMembers = .error fault ↔ LateFault members fault := by
  obtain ⟨toldName, toldOpcode⟩ := read_texts dialect read
  rw [of_members_eq_error_iff]
  constructor
  · rintro (⟨noName, rfl⟩ | ⟨name, named, noOpcode, rfl⟩ | ⟨name, opcode, named, told, refused⟩)
    · rw [noName] at toldName
      exact .noName toldName
    · rw [named] at toldName
      rw [noOpcode] at toldOpcode
      exact .noOpcode toldName toldOpcode
    · rw [named] at toldName
      rw [told] at toldOpcode
      rcases (change_eq_error_iff raw name opcode fault).mp refused with
        ⟨blank, rfl⟩ | ⟨readable, blank, rfl⟩
      · exact .blankName toldName toldOpcode blank
      · exact .blankOpcode toldName toldOpcode readable blank
  · have read_iff (content : Option String) (s : String) :
        content.map Value.string = some (.string s) ↔ content = some s := by simp
    intro lacking
    cases lacking with
    | noName absent =>
        rw [toldName, Option.map_eq_none_iff] at absent
        exact .inl ⟨absent, rfl⟩
    | @noOpcode name named absent =>
        rw [toldName, read_iff] at named
        rw [toldOpcode, Option.map_eq_none_iff] at absent
        exact .inr (.inl ⟨name, named, absent, rfl⟩)
    | @blankName name opcode named told blank =>
        rw [toldName, read_iff] at named
        rw [toldOpcode, read_iff] at told
        have refused := (change_eq_error_iff raw name opcode _).mpr (.inl ⟨blank, rfl⟩)
        exact .inr (.inr ⟨name, opcode, named, told, refused⟩)
    | @blankOpcode name opcode named told readable blank =>
        rw [toldName, read_iff] at named
        rw [toldOpcode, read_iff] at told
        have refused := (change_eq_error_iff raw name opcode _).mpr (.inr ⟨readable, blank, rfl⟩)
        exact .inr (.inr ⟨name, opcode, named, told, refused⟩)

theorem decode_shape_eq_error_iff (dialect : Dialect) (members : List (String × Value))
    (fault : DecodeError) :
    decodeShape dialect (.object members) = .error fault ↔ ShapeFault dialect members fault := by
  change ((shapeRecord dialect).readMembers {} (inKeyOrder members) >>= RawShape.ofMembers) = _ ↔ _
  rw [bind_eq_error_iff, read_members_eq_error_iff]
  constructor
  · rintro (⟨key, faulty, fine⟩ | ⟨raw, read, lacking⟩)
    · exact .first faulty fine
    · exact .late ((exists_read_iff_faultless dialect).mp ⟨raw, read⟩)
        ((late_fault_iff dialect read fault).mp lacking)
  · intro faulty
    cases faulty with
    | first faulty fine => exact .inl ⟨_, faulty, fine⟩
    | late faultless lacking =>
        obtain ⟨raw, read⟩ := (exists_read_iff_faultless dialect).mpr faultless
        exact .inr ⟨raw, read, (late_fault_iff dialect read fault).mpr lacking⟩

theorem exists_change_iff (dialect : Dialect) (members : List (String × Value)) :
    (∃ change, decodeShape dialect (.object members) = .ok change) ↔
      Faultless dialect members ∧ ∃ name opcode,
        member? "name" members = some (.string name) ∧
          member? "opcode" members = some (.string opcode) ∧
            ¬ Text.Blank name ∧ ¬ Text.Blank opcode := by
  constructor
  · rintro ⟨change, decoded⟩
    have described := (decode_shape_eq_ok_iff dialect members change).mp decoded
    refine ⟨?_, change.name, change.shape.opcode, described.name, described.opcode,
      described.name_not_blank, described.opcode_not_blank⟩
    obtain ⟨raw, read, _⟩ := (bind_eq_ok_iff _ RawShape.ofMembers change).mp decoded
    exact (exists_read_iff_faultless dialect).mp ⟨raw, read⟩
  · rintro ⟨faultless, name, opcode, named, told, nameReadable, opcodeReadable⟩
    cases decoded : decodeShape dialect (.object members) with
    | ok change => exact ⟨change, rfl⟩
    | error fault =>
        cases (decode_shape_eq_error_iff dialect members fault).mp decoded with
        | first faulty => exact absurd faulty (faultless _ fault)
        | late _ lacking =>
            cases lacking with
            | noName absent => simp [named] at absent
            | noOpcode _ absent => simp [told] at absent
            | blankName other _ blank =>
                obtain rfl : name = _ := by simpa [named] using other
                exact absurd blank nameReadable
            | blankOpcode _ other _ blank =>
                obtain rfl : opcode = _ := by simpa [told] using other
                exact absurd blank opcodeReadable

theorem key_fault_ne_blank_name {dialect : Dialect} {key : String} {v : Value}
    {fault : DecodeError} (faulty : KeyFault dialect key v fault) : fault ≠ .blankName := by
  cases faulty <;> simp

theorem blank_name_faultless {dialect : Dialect} {members : List (String × Value)}
    (told : decodeShape dialect (.object members) = .error .blankName) :
    Faultless dialect members := by
  cases (decode_shape_eq_error_iff dialect members .blankName).mp told with
  | late faultless => exact faultless
  | first faulty =>
      obtain ⟨_, _, wrong⟩ := faulty
      exact absurd rfl (key_fault_ne_blank_name wrong)

theorem unknown_fault_at_iff (dialect : Dialect) {members : List (String × Value)} {key : String}
    (unknown : key ∉ shapeKeys) (fault : DecodeError) :
    FaultAt dialect members key fault ↔
      key ∈ memberKeys members ∧ fault = .unknownField key shapeKeys := by
  simp only [FaultAt, unknown_key_fault_iff dialect unknown]
  constructor
  · rintro ⟨v, found, same⟩
    exact ⟨mem_keys_of_member found, same⟩
  · rintro ⟨listed, same⟩
    cases found : member? key members with
    | none => exact absurd listed (member_eq_none_iff.mp found)
    | some v => exact ⟨v, rfl, same⟩

theorem fault_at_unread (dialect : Dialect) {unknown : String} (strange : unknown ∉ shapeKeys)
    (before after : List (String × Value)) (v w : Value) (key : String) (fault : DecodeError) :
    FaultAt dialect (before ++ (unknown, v) :: after) key fault ↔
      FaultAt dialect (before ++ (unknown, w) :: after) key fault := by
  by_cases same : key = unknown
  · obtain rfl := same
    rw [unknown_fault_at_iff dialect strange, unknown_fault_at_iff dialect strange]
    simp [memberKeys]
  · unfold FaultAt
    rw [member_without same before after v, member_without same before after w]

theorem decode_shape_unread (dialect : Dialect) {unknown : String} (strange : unknown ∉ shapeKeys)
    (before after : List (String × Value)) (v w : Value) :
    decodeShape dialect (.object (before ++ (unknown, v) :: after)) =
      decodeShape dialect (.object (before ++ (unknown, w) :: after)) := by
  -- The unknown key itself is at fault, so neither object gets as far as what is missing or blank.
  have faulty : FaultAt dialect (before ++ (unknown, v) :: after) unknown
      (.unknownField unknown shapeKeys) := by
    rw [unknown_fault_at_iff dialect strange]
    simp [memberKeys]
  cases decoded : decodeShape dialect (.object (before ++ (unknown, v) :: after)) with
  | ok change =>
      obtain ⟨faultless, _⟩ := (exists_change_iff dialect _).mp ⟨change, decoded⟩
      exact absurd faulty (faultless unknown _)
  | error fault =>
      symm
      rw [decode_shape_eq_error_iff] at decoded ⊢
      cases decoded with
      | late faultless => exact absurd faulty (faultless unknown _)
      | first wrong fine =>
          simp only [fault_at_unread dialect strange before after v w] at wrong fine
          exact .first wrong fine

/-- Of all that is wrong with a shape the first fault of a key is told. Only if no key is at fault, what
is missing comes next, the name before the opcode, and at last what is blank, again the name before
the opcode; if nothing of all this is so, there is no fault. So a blank name stands back behind every
faulty key, and what stands under an unknown key is never looked at. -/
theorem shape_faults_ranked (dialect : Dialect) (members : List (String × Value)) :
    (∀ fault, decodeShape dialect (.object members) = .error fault ↔
      ShapeFault dialect members fault) ∧
    ((∃ change, decodeShape dialect (.object members) = .ok change) ↔
      Faultless dialect members ∧ ∃ name opcode,
        member? "name" members = some (.string name) ∧
          member? "opcode" members = some (.string opcode) ∧
            ¬ Text.Blank name ∧ ¬ Text.Blank opcode) ∧
    (∀ key fault, FaultAt dialect members key fault →
      decodeShape dialect (.object members) ≠ .error .blankName) ∧
    ∀ before unknown v w after, unknown ∉ shapeKeys → members = before ++ (unknown, v) :: after →
      decodeShape dialect (.object (before ++ (unknown, w) :: after)) =
        decodeShape dialect (.object members) := by
  refine ⟨decode_shape_eq_error_iff dialect members, exists_change_iff dialect members, ?_, ?_⟩
  · intro key fault faulty told
    exact blank_name_faultless told key fault faulty
  · rintro before unknown v w after strange rfl
    exact decode_shape_unread dialect strange before after w v

/-- A blank name, a flag that is no truth value, a list for an opcode and an unknown key. -/
def scribble : List (String × Value) :=
  [("name", .string " "), ("tune", .null), ("hat", .string "perhaps"), ("opcode", .list [])]

theorem scribble_told_by_flag :
    FaultAt .toml scribble "hat" (.trilean (.word ⟨"perhaps"⟩)) ∧
      ShapeFault .toml scribble (.trilean (.word ⟨"perhaps"⟩)) ∧
      decodeShape .toml (.object scribble) ≠ .error .blankName ∧
      decodeShape .toml (.object [("name", .string " "), ("tune", .bool true),
        ("hat", .string "perhaps"), ("opcode", .list [])]) =
          decodeShape .toml (.object scribble) := by
  obtain ⟨told, _, notBlank, unread⟩ := shape_faults_ranked .toml scribble
  have unspelled : ∀ t : Trilean, Text.word "perhaps" ≠ t.text := by
    intro t
    cases t <;> decide
  have faulty : FaultAt .toml scribble "hat" (.trilean (.word ⟨"perhaps"⟩)) :=
    ⟨.string "perhaps", rfl, @KeyFault.word .toml .hat _ unspelled⟩
  refine ⟨faulty, (told _).mp rfl, notBlank "hat" _ faulty, ?_⟩
  exact unread [("name", .string " ")] "tune" .null (.bool true) _ (by decide) rfl

end Config
end OpcodeShapes
