import OpcodeShapes.Config.Decoder
import OpcodeShapes.Proofs.Members
import OpcodeShapes.Proofs.Stages

/-!
# Reading records

A record is read member by member, and each field that is read goes into a
place of its own. So the order of the members plays no part in what is read:
a field has what its member says, or what it had before if there is no such
member. The three records of a configuration are of this kind.
-/

namespace OpcodeShapes.Config

set_option autoImplicit false

/-- A content is what a value means, or a default where there is no value. -/
def Told {Content : Type} (found : Option Value) (means : Value → Content → Prop)
    (absent content : Content) : Prop :=
  match found with
  | none => content = absent
  | some v => means v content

theorem told_congr {Content : Type} {found : Option Value} {means also : Value → Content → Prop}
    {absent content : Content} (same : ∀ v, found = some v → (means v content ↔ also v content)) :
    Told found means absent content ↔ Told found also absent content := by
  cases found with
  | none => exact Iff.rfl
  | some v => exact same v rfl

/-- A place for each field, apart from those of the others. -/
structure Places (Field Raw : Type) (Content : Field → Type) where
  content : Raw → (field : Field) → Content field
  put : Raw → (field : Field) → Content field → Raw
  ext : ∀ raw other, (∀ field, content raw field = content other field) → raw = other
  put_here : ∀ raw field told, content (put raw field told) field = told
  put_elsewhere : ∀ raw field told other, other ≠ field →
    content (put raw field told) other = content raw other

/-- A record that puts what a member says, which is `value` of it, into the place of its field. -/
structure Record.Placed {Field Raw : Type} {Content : Field → Type} (record : Record Field Raw)
    (places : Places Field Raw Content)
    (value : (field : Field) → Value → Except DecodeError (Content field)) : Prop where
  listed : ∀ field, field ∈ record.fields
  key_injective : ∀ {field other}, record.key field = record.key other → field = other
  read_eq : ∀ raw field v, record.read raw field v = (value field v).map (places.put raw field)

namespace Record

variable {Field Raw : Type} {Content : Field → Type} {record : Record Field Raw}
  {places : Places Field Raw Content}
  {value : (field : Field) → Value → Except DecodeError (Content field)}

/-- After some members a field has what its member says, or what it had before if there is none. -/
def Tells (record : Record Field Raw) (places : Places Field Raw Content)
    (value : (field : Field) → Value → Except DecodeError (Content field))
    (members : List (String × Value)) (before after : Raw) (field : Field) : Prop :=
  Told (members.lookup (record.key field)) (fun v told => value field v = .ok told)
    (places.content before field) (places.content after field)

theorem Placed.field_key (placed : record.Placed places value) (field : Field) :
    record.field? (record.key field) = some field := by
  unfold field?
  cases found : record.fields.find? fun other => record.key other = record.key field with
  | none =>
      have absent := List.find?_eq_none.mp found field (placed.listed field)
      simp at absent
  | some other =>
      have same : record.key other = record.key field := by simpa using List.find?_some found
      rw [placed.key_injective same]

theorem Placed.read_member_eq_ok_iff (placed : record.Placed places value) (raw next : Raw)
    (key : String) (v : Value) :
    record.readMember raw (key, v) = .ok next ↔
      ∃ field told, record.key field = key ∧ value field v = .ok told ∧
        places.put raw field told = next := by
  unfold readMember
  constructor
  · intro read
    cases found : record.field? key with
    | none => simp [found] at read
    | some field =>
        rw [found] at read
        dsimp only at read
        rw [placed.read_eq, map_eq_ok_iff] at read
        rcases read with ⟨told, means, put⟩
        exact ⟨field, told, by simpa using List.find?_some found, means, put⟩
  · rintro ⟨field, told, rfl, means, put⟩
    rw [placed.field_key field]
    dsimp only
    rw [placed.read_eq, map_eq_ok_iff]
    exact ⟨told, means, put⟩

/-- Once a member has been read, the members behind it say the same as all of them did. -/
theorem Placed.tells_behind (placed : record.Placed places value) {raw last : Raw} {field : Field}
    {v : Value} {told : Content field} {rest : List (String × Value)}
    (fresh : record.key field ∉ memberKeys rest) (means : value field v = .ok told) (other : Field) :
    record.Tells places value rest (places.put raw field told) last other ↔
      record.Tells places value ((record.key field, v) :: rest) raw last other := by
  unfold Tells
  rw [lookup_cons_eq_ite]
  by_cases this : other = field
  · subst this
    rw [if_pos rfl, lookup_eq_none_iff.mpr fresh]
    simp [Told, means, places.put_here, eq_comm]
  · have differs : record.key other ≠ record.key field := fun same =>
      this (placed.key_injective same)
    rw [if_neg differs, places.put_elsewhere raw field told other this]

theorem Placed.read_members_eq_ok_iff (placed : record.Placed places value) {raw last : Raw}
    {members : List (String × Value)} (distinct : (memberKeys members).Nodup) :
    record.readMembers raw members = .ok last ↔
      (∀ key ∈ memberKeys members, ∃ field, record.key field = key) ∧
        ∀ field, record.Tells places value members raw last field := by
  unfold readMembers
  -- Each member takes the place of its own field, which the members behind it leave alone because
  -- their keys are others.
  induction members generalizing raw with
  | nil =>
      constructor
      · intro read
        obtain rfl : raw = last := Except.ok.inj read
        exact ⟨by simp [memberKeys], fun field => rfl⟩
      · intro told
        exact congrArg Except.ok (places.ext raw last fun field => (told.2 field).symm)
  | cons member rest ih =>
      rcases member with ⟨key, v⟩
      have apart := List.nodup_cons.mp distinct
      rw [fold_m_cons_eq_ok_iff]
      constructor
      · rintro ⟨next, first, others⟩
        rcases (placed.read_member_eq_ok_iff raw next key v).mp first with
          ⟨field, told, rfl, means, rfl⟩
        rcases (ih apart.2).mp others with ⟨known, behind⟩
        constructor
        · intro other member
          rcases List.mem_cons.mp member with rfl | later
          · exact ⟨field, rfl⟩
          · exact known other later
        · intro other
          exact (placed.tells_behind apart.1 means other).mp (behind other)
      · rintro ⟨known, all⟩
        rcases known key List.mem_cons_self with ⟨field, rfl⟩
        have means := all field
        unfold Tells at means
        rw [lookup_cons_eq_ite, if_pos rfl] at means
        have first := (placed.read_member_eq_ok_iff raw _ (record.key field) v).mpr
          ⟨field, _, rfl, means, rfl⟩
        refine ⟨_, first, (ih apart.2).mpr ⟨?_, ?_⟩⟩
        · intro other later
          exact known other (List.mem_cons_of_mem _ later)
        · intro other
          exact (placed.tells_behind apart.1 means other).mpr (all other)

/-- In whatever order the members of an object stand, a field has what the last member with its key
says. -/
theorem Placed.read_object_eq_ok_iff (placed : record.Placed places value) (start last : Raw)
    (members : List (String × Value)) :
    record.readMembers start (inKeyOrder members) = .ok last ↔
      (∀ key ∈ memberKeys members, ∃ field, record.key field = key) ∧
        ∀ field, Told (member? (record.key field) members) (fun v told => value field v = .ok told)
          (places.content start field) (places.content last field) := by
  rw [placed.read_members_eq_ok_iff (in_key_order_keys_nodup members)]
  simp only [mem_keys_in_key_order, Tells, lookup_in_key_order]

/-- What is wrong with a member by itself: its key is unknown, or its field does not take the value. -/
def MemberFault (record : Record Field Raw)
    (value : (field : Field) → Value → Except DecodeError (Content field))
    (member : String × Value) (fault : DecodeError) : Prop :=
  (∀ field, record.key field ≠ member.1) ∧
      fault = .unknownField member.1 (record.fields.map record.key) ∨
    ∃ field, record.key field = member.1 ∧ value field member.2 = .error fault

theorem Placed.read_member_eq_error_iff (placed : record.Placed places value) (raw : Raw)
    (member : String × Value) (fault : DecodeError) :
    record.readMember raw member = .error fault ↔ record.MemberFault value member fault := by
  rcases member with ⟨key, v⟩
  unfold MemberFault
  by_cases known : ∃ field, record.key field = key
  · rcases known with ⟨field, rfl⟩
    unfold readMember
    rw [placed.field_key field]
    dsimp only
    rw [placed.read_eq, map_eq_error_iff]
    constructor
    · intro refused
      exact .inr ⟨field, rfl, refused⟩
    · rintro (⟨unknown, _⟩ | ⟨other, same, refused⟩)
      · exact absurd rfl (unknown field)
      · obtain rfl := placed.key_injective same
        exact refused
  · have unknown : ∀ field, record.key field ≠ key := fun field same => known ⟨field, same⟩
    have unfound : record.field? key = none := by
      apply List.find?_eq_none.mpr
      intro field _
      simpa using unknown field
    unfold readMember
    rw [unfound]
    constructor
    · intro refused
      exact .inl ⟨unknown, (Except.error.inj refused).symm⟩
    · rintro (⟨_, rfl⟩ | ⟨field, same, _⟩)
      · rfl
      · exact absurd same (unknown field)

/-- In whatever order the members of an object stand, the object has the fault of the first key in key
order that has one. -/
theorem Placed.read_object_eq_error_iff (placed : record.Placed places value) (start : Raw)
    (members : List (String × Value)) (fault : DecodeError) :
    record.readMembers start (inKeyOrder members) = .error fault ↔
      ∃ key v, member? key members = some v ∧ record.MemberFault value (key, v) fault ∧
        ∀ earlier w, earlier < key → member? earlier members = some w →
          ∀ cause, ¬ record.MemberFault value (earlier, w) cause := by
  unfold readMembers
  rw [fold_m_eq_error_iff placed.read_member_eq_error_iff]
  rw [splits_at_iff (in_key_order_rises members) (record.MemberFault value · fault)
    fun member => ∀ cause, ¬ record.MemberFault value member cause]
  constructor
  · rintro ⟨⟨key, v⟩, listed, faulty, first⟩
    refine ⟨key, v, (mem_in_key_order_iff (key, v)).mp listed, faulty, ?_⟩
    intro earlier w smaller found
    exact first (earlier, w) ((mem_in_key_order_iff (earlier, w)).mpr found) smaller
  · rintro ⟨key, v, found, faulty, first⟩
    refine ⟨(key, v), (mem_in_key_order_iff (key, v)).mpr found, faulty, ?_⟩
    rintro ⟨earlier, w⟩ listed smaller
    exact first earlier w smaller ((mem_in_key_order_iff (earlier, w)).mp listed)

theorem Placed.exists_read_iff (placed : record.Placed places value) (start : Raw)
    (members : List (String × Value)) :
    (∃ last, record.readMembers start (inKeyOrder members) = .ok last) ↔
      ∀ key v, member? key members = some v → ∀ fault, ¬ record.MemberFault value (key, v) fault := by
  constructor
  · rintro ⟨last, read⟩ key v found fault faulty
    rcases (placed.read_object_eq_ok_iff start last members).mp read with ⟨known, told⟩
    rcases faulty with ⟨unknown, _⟩ | ⟨field, rfl, refused⟩
    · rcases known key (mem_keys_of_member found) with ⟨field, same⟩
      exact unknown field same
    · have means := told field
      rw [found] at means
      have both : Except.error fault = Except.ok _ := refused.symm.trans means
      cases both
  · intro fine
    cases read : record.readMembers start (inKeyOrder members) with
    | ok last => exact ⟨last, rfl⟩
    | error fault =>
        rcases (placed.read_object_eq_error_iff start members fault).mp read with
          ⟨key, v, found, faulty, _⟩
        exact absurd faulty (fine key v found fault)

theorem Placed.read_object_only_fault (placed : record.Placed places value) (start : Raw)
    {members : List (String × Value)} {field : Field} {v : Value} {fault : DecodeError}
    (known : ∀ key ∈ memberKeys members, ∃ other, record.key other = key)
    (found : member? (record.key field) members = some v) (refused : value field v = .error fault)
    (others : ∀ other w, other ≠ field → member? (record.key other) members = some w →
      ∃ told, value other w = .ok told) :
    record.readMembers start (inKeyOrder members) = .error fault := by
  rw [placed.read_object_eq_error_iff]
  refine ⟨record.key field, v, found, .inr ⟨field, rfl, refused⟩, ?_⟩
  rintro earlier w smaller present cause (⟨unknown, _⟩ | ⟨other, rfl, fails⟩)
  · rcases known earlier (mem_keys_of_member present) with ⟨other, same⟩
    exact unknown other same
  · have apart : other ≠ field := by
      rintro rfl
      exact String.lt_irrefl _ smaller
    rcases others other w apart present with ⟨told, means⟩
    rw [means] at fails
    cases fails

theorem decode_keeps {holds : Raw → Prop}
    (keeps : ∀ raw field v next, record.read raw field v = .ok next → holds raw → holds next)
    {dialect : Dialect} {start last : Raw} {v : Value}
    (decoded : record.decode dialect start v = .ok last) (before : holds start) : holds last := by
  cases v with
  | object members =>
      refine fold_m_keeps ?_ decoded before
      intro raw member next read
      unfold readMember at read
      cases found : record.field? member.1 with
      | none => simp [found] at read
      | some field =>
          rw [found] at read
          exact keeps raw field member.2 next read
  | list items =>
      rcases (bind_eq_ok_iff _ _ last).mp decoded with ⟨raw, read, rest⟩
      rcases (bind_eq_ok_iff _ _ last).mp rest with ⟨_, _, same⟩
      obtain rfl : raw = last := Except.ok.inj same
      exact fold_m_keeps (fun raw pair next => keeps raw pair.1 pair.2 next) read before
  | _ => cases decoded

end Record

def ShapeField.Content : ShapeField → Type
  | .name => Option String
  | .opcode => Option String
  | .flag _ => Trilean
  | .replace => Bool

def RawShape.places : Places ShapeField RawShape ShapeField.Content where
  content raw
    | .name => raw.name
    | .opcode => raw.opcode
    | .flag f => raw.flags.get f
    | .replace => raw.replace
  put raw
    | .name, name => { raw with name }
    | .opcode, opcode => { raw with opcode }
    | .flag f, t => { raw with flags := raw.flags.set f t }
    | .replace, replace => { raw with replace }
  ext raw other same := by
    have flags : raw.flags = other.flags := Flags.ext_get fun f => same (.flag f)
    rcases raw with ⟨name, opcode, _, replace⟩
    rcases other with ⟨otherName, otherOpcode, _, otherReplace⟩
    simp only [RawShape.mk.injEq]
    exact ⟨same .name, same .opcode, flags, same .replace⟩
  put_here raw field told := by
    cases field with
    | flag f => exact (Flags.get_set raw.flags f f told).trans (if_pos rfl)
    | name => rfl
    | opcode => rfl
    | replace => rfl
  put_elsewhere raw field told other differs := by
    cases field with
    | flag f =>
        cases other with
        | flag g =>
            have apart : f ≠ g := fun same => differs (congrArg ShapeField.flag same.symm)
            exact (Flags.get_set raw.flags f g told).trans (if_neg apart)
        | _ => rfl
    | name => cases other with
        | name => exact absurd rfl differs
        | _ => rfl
    | opcode => cases other with
        | opcode => exact absurd rfl differs
        | _ => rfl
    | replace => cases other with
        | replace => exact absurd rfl differs
        | _ => rfl

def ShapeField.value (dialect : Dialect) :
    (field : ShapeField) → Value → Except DecodeError field.Content
  | .name, v => (readText dialect v).map some
  | .opcode, v => (readText dialect v).map some
  | .flag _, v => readTrilean v
  | .replace, v => readBool dialect v

theorem ShapeField.mem_all (field : ShapeField) : field ∈ ShapeField.all := by
  cases field with
  | flag f => simp [ShapeField.all, Flag.mem_all]
  | name => simp [ShapeField.all]
  | opcode => simp [ShapeField.all]
  | replace => simp [ShapeField.all]

theorem ShapeField.key_injective {field other : ShapeField} (same : field.key = other.key) :
    field = other := by
  have apart : ∀ one ∈ ShapeField.all, ∀ two ∈ ShapeField.all, one.key = two.key → one = two := by
    decide
  exact apart field field.mem_all other other.mem_all same

theorem shape_record_placed (dialect : Dialect) :
    (shapeRecord dialect).Placed RawShape.places (ShapeField.value dialect) where
  listed := ShapeField.mem_all
  key_injective := ShapeField.key_injective
  read_eq raw field v := by
    cases field with
    | name => cases v <;> rfl
    | opcode => cases v <;> rfl
    | flag f =>
        rw [ShapeField.value]
        change (readTrilean v >>= fun t => .ok { raw with flags := raw.flags.set f t }) = _
        cases readTrilean v <;> rfl
    | replace => cases v <;> rfl

def settingsPlaces : Places Unit Bool fun _ => Bool where
  content strict _ := strict
  put _ _ strict := strict
  ext _ _ same := same ()
  put_here _ _ _ := rfl
  put_elsewhere _ _ _ _ differs := absurd rfl differs

theorem settings_record_placed (dialect : Dialect) :
    (settingsRecord dialect).Placed settingsPlaces fun _ => readBool dialect where
  listed _ := List.mem_singleton.mpr rfl
  key_injective _ := rfl
  read_eq _ _ v := by cases v <;> rfl

def Section.Content : Section → Type
  | .registry => Bool
  | .shapes => List Change

def places : Places Section Config Section.Content where
  content config
    | .registry => config.strict
    | .shapes => config.shapes
  put config
    | .registry, strict => { config with strict }
    | .shapes, shapes => { config with shapes }
  ext config other same := by
    rcases config with ⟨strict, shapes⟩
    rcases other with ⟨otherStrict, otherShapes⟩
    simp only [Config.mk.injEq]
    exact ⟨same .registry, same .shapes⟩
  put_here _ part _ := by cases part <;> rfl
  put_elsewhere _ part _ other differs := by
    cases part with
    | registry => cases other with
        | registry => exact absurd rfl differs
        | shapes => rfl
    | shapes => cases other with
        | registry => rfl
        | shapes => exact absurd rfl differs

def Section.value (dialect : Dialect) :
    (part : Section) → Value → Except DecodeError part.Content
  | .registry, v => decodeSettings dialect v
  | .shapes, v => decodeShapes dialect v

theorem config_record_placed (dialect : Dialect) :
    (configRecord dialect).Placed places (Section.value dialect) where
  listed part := by cases part <;> simp [configRecord]
  key_injective {part other} same := by cases part <;> cases other <;> simp_all [configRecord, Section.key]
  read_eq config part v := by
    cases part with
    | registry =>
        change (decodeSettings dialect v >>= fun strict => .ok _) = _
        cases read : decodeSettings dialect v <;> simp [Section.value, read] <;> rfl
    | shapes =>
        change (decodeShapes dialect v >>= fun shapes => .ok _) = _
        cases read : decodeShapes dialect v <;> simp [Section.value, read] <;> rfl

theorem section_key_iff (key : String) :
    (∃ part : Section, part.key = key) ↔ key = "registry" ∨ key = "shapes" := by
  constructor
  · rintro ⟨part, rfl⟩
    cases part with
    | registry => exact .inl rfl
    | shapes => exact .inr rfl
  · rintro (rfl | rfl)
    · exact ⟨.registry, rfl⟩
    · exact ⟨.shapes, rfl⟩

theorem decode_object_told_iff (dialect : Dialect) (members : List (String × Value))
    (config : Config) :
    decode dialect (.object members) = .ok config ↔
      (∀ key ∈ memberKeys members, key = "registry" ∨ key = "shapes") ∧
        Told (member? "registry" members) (fun v told => decodeSettings dialect v = .ok told) false
          config.strict ∧
        Told (member? "shapes" members) (fun v told => decodeShapes dialect v = .ok told) []
          config.shapes := by
  change (configRecord dialect).readMembers {} (inKeyOrder members) = _ ↔ _
  rw [(config_record_placed dialect).read_object_eq_ok_iff]
  constructor
  · rintro ⟨keys, told⟩
    exact ⟨fun key member => (section_key_iff key).mp (keys key member), told .registry,
      told .shapes⟩
  · rintro ⟨keys, registry, shapes⟩
    refine ⟨fun key member => (section_key_iff key).mpr (keys key member), ?_⟩
    intro part
    cases part with
    | registry => exact registry
    | shapes => exact shapes

end OpcodeShapes.Config
