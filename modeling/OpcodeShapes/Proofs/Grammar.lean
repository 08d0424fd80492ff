import OpcodeShapes.Proofs.Records

/-!
# The grammar of a configuration

Which objects are configurations, and of which configuration each of them
tells, is said here without a decoder: what keys there are, what a value under
each of them means, and what holds where a key is missing. A decoder takes the
objects of this grammar and no others, whatever it does with records in the
listed form, and makes of each the configuration it tells of. The elements of
the list of shapes are read one by one, so the first that is no shape is the
last that is looked at.
-/

namespace OpcodeShapes

set_option autoImplicit false

/-- The third truth value has no boolean. Blanks around a word and its case do not count. -/
inductive SpellsTrilean : Value → Trilean → Prop where
  | boolean (b : Bool) : SpellsTrilean (.bool b) (.ofBool b)
  | word {s : String} {t : Trilean} (spelled : Text.word s = t.text) : SpellsTrilean (.string s) t

inductive SpellsBool : Value → Bool → Prop where
  | boolean (b : Bool) : SpellsBool (.bool b) b

inductive SpellsMode : Value → ChangeMode → Prop where
  | replace : SpellsMode (.bool true) .replace
  | add : SpellsMode (.bool false) .add

theorem Trilean.text_injective {t u : Trilean} (same : t.text = u.text) : t = u := by
  cases t <;> cases u <;> first | rfl | exact absurd same (by decide)

theorem Trilean.mem_all (t : Trilean) : t ∈ Trilean.all := by
  cases t <;> decide

theorem Trilean.parse_eq_ok_iff (s : String) (t : Trilean) :
    Trilean.parse s = .ok t ↔ Text.word s = t.text := by
  unfold Trilean.parse
  cases found : Trilean.all.find? fun u => u.text = Text.word s with
  | none =>
      have absent := List.find?_eq_none.mp found t t.mem_all
      simp only [decide_eq_true_eq] at absent
      simp only [reduceCtorEq, false_iff]
      exact fun spelled => absent spelled.symm
  | some u =>
      have spelled : u.text = Text.word s := by simpa using List.find?_some found
      rw [← spelled, Except.ok.injEq]
      constructor
      · rintro rfl
        rfl
      · exact Trilean.text_injective

namespace Config

theorem read_trilean_eq_ok_iff (v : Value) (t : Trilean) :
    readTrilean v = .ok t ↔ SpellsTrilean v t := by
  rw [readTrilean, map_error_eq_ok_iff]
  constructor
  · intro read
    cases v with
    | bool b =>
        obtain rfl : Trilean.ofBool b = t := Except.ok.inj read
        exact .boolean b
    | string s =>
        rw [Trilean.ofValue, map_error_eq_ok_iff, Trilean.parse_eq_ok_iff] at read
        exact .word read
    | _ => exact absurd read (by simp [Trilean.ofValue])
  · rintro (b | spelled)
    · rfl
    · rw [Trilean.ofValue, map_error_eq_ok_iff, Trilean.parse_eq_ok_iff]
      exact spelled

theorem read_bool_eq_ok_iff (dialect : Dialect) (v : Value) (b : Bool) :
    readBool dialect v = .ok b ↔ SpellsBool v b := by
  constructor
  · intro read
    cases v with
    | bool b =>
        obtain rfl := Except.ok.inj read
        exact .boolean b
    | _ => exact absurd read (by simp [readBool])
  · rintro ⟨b⟩
    rfl

theorem read_text_eq_ok_iff (dialect : Dialect) (v : Value) (s : String) :
    readText dialect v = .ok s ↔ v = .string s := by
  cases v <;> simp [readText]

/-- A record in its keyed form. -/
inductive IsObject : Value → Prop where
  | object (members : List (String × Value)) : IsObject (.object members)

/-- An object with the keys of a shape and no other ones. The name and the opcode have to be there
and are kept as they stand. -/
structure DescribesShape (members : List (String × Value)) (change : Change) : Prop where
  keys_known : ∀ key ∈ memberKeys members,
    key = "name" ∨ key = "opcode" ∨ (∃ flag : Flag, key = flag.name) ∨ key = "replace"
  name : member? "name" members = some (.string change.name)
  name_not_blank : ¬ Text.Blank change.name
  opcode : member? "opcode" members = some (.string change.shape.opcode)
  opcode_not_blank : ¬ Text.Blank change.shape.opcode
  flags : ∀ flag : Flag,
    Told (member? flag.name members) SpellsTrilean .no (change.shape.get flag)
  mode : Told (member? "replace" members) SpellsMode .add change.mode

inductive IsShape : Value → Change → Prop where
  | object {members : List (String × Value)} {change : Change}
      (described : DescribesShape members change) : IsShape (.object members) change

theorem shape_key_iff (key : String) :
    (∃ field : ShapeField, field.key = key) ↔
      key = "name" ∨ key = "opcode" ∨ (∃ flag : Flag, key = flag.name) ∨ key = "replace" := by
  constructor
  · rintro ⟨field, rfl⟩
    cases field with
    | name => exact .inl rfl
    | opcode => exact .inr (.inl rfl)
    | flag f => exact .inr (.inr (.inl ⟨f, rfl⟩))
    | replace => exact .inr (.inr (.inr rfl))
  · rintro (rfl | rfl | ⟨f, rfl⟩ | rfl)
    · exact ⟨.name, rfl⟩
    · exact ⟨.opcode, rfl⟩
    · exact ⟨.flag f, rfl⟩
    · exact ⟨.replace, rfl⟩

theorem told_text_iff (dialect : Dialect) (found : Option Value) (s : String) :
    Told found (fun v told => (readText dialect v).map some = .ok told) none (some s) ↔
      found = some (.string s) := by
  cases found with
  | none => simp [Told]
  | some v => simp [Told, map_eq_ok_iff, read_text_eq_ok_iff]

def modeOf (replace : Bool) : ChangeMode := if replace then .replace else .add

theorem told_mode_iff (dialect : Dialect) (found : Option Value) (replace : Bool) :
    Told found (fun v told => readBool dialect v = .ok told) false replace ↔
      Told found SpellsMode .add (modeOf replace) := by
  cases found with
  | none => cases replace <;> simp [Told, modeOf]
  | some v =>
      rw [Told, Told, read_bool_eq_ok_iff]
      constructor
      · rintro ⟨_ | _⟩
        · exact .add
        · exact .replace
      · intro mode
        cases replace with
        | false =>
            obtain rfl : v = .bool false := by cases mode; rfl
            exact .boolean false
        | true =>
            obtain rfl : v = .bool true := by cases mode; rfl
            exact .boolean true

theorem change_eq_ok_iff (raw : RawShape) (name opcode : String) (change : Change) :
    raw.change name opcode = .ok change ↔
      name = change.name ∧ opcode = change.shape.opcode ∧ ¬ Text.Blank change.name ∧
        change.shape.flags = raw.flags ∧ change.mode = modeOf raw.replace := by
  rcases change with ⟨otherName, shape, mode⟩
  unfold RawShape.change
  by_cases blank : Text.Blank name
  · rw [if_pos blank]
    constructor
    · intro refused
      cases refused
    · rintro ⟨rfl, _, notBlank, _⟩
      exact absurd blank notBlank
  · rw [if_neg blank]
    cases made : Shape.make opcode raw.flags with
    | error cause =>
        have blankOpcode := (Shape.make_eq_error_iff.mp made).1
        constructor
        · intro refused
          cases refused
        · rintro ⟨_, rfl, _⟩
          exact absurd blankOpcode shape.opcode_not_blank
    | ok other =>
        rcases Shape.make_eq_ok_iff.mp made with ⟨rfl, flags⟩
        simp only [Except.ok.injEq, Change.mk.injEq, Shape.ext_iff_opcode_flags, modeOf, flags]
        constructor
        · rintro ⟨rfl, ⟨sameOpcode, sameFlags⟩, rfl⟩
          exact ⟨rfl, sameOpcode, blank, sameFlags.symm, rfl⟩
        · rintro ⟨rfl, sameOpcode, _, sameFlags, rfl⟩
          exact ⟨rfl, ⟨sameOpcode, sameFlags.symm⟩, rfl⟩

theorem of_members_eq_ok_iff (raw : RawShape) (change : Change) :
    raw.ofMembers = .ok change ↔
      raw.name = some change.name ∧ raw.opcode = some change.shape.opcode ∧
        ¬ Text.Blank change.name ∧ change.shape.flags = raw.flags ∧
          change.mode = modeOf raw.replace := by
  unfold RawShape.ofMembers
  cases raw.name with
  | none => simp
  | some name =>
      cases raw.opcode with
      | none => simp
      | some opcode => simp [change_eq_ok_iff]

theorem read_shape_eq_ok_iff (dialect : Dialect) (members : List (String × Value))
    (raw : RawShape) :
    (shapeRecord dialect).readMembers {} (inKeyOrder members) = .ok raw ↔
      (∀ key ∈ memberKeys members, ∃ field : ShapeField, field.key = key) ∧
        Told (member? "name" members) (fun v told => (readText dialect v).map some = .ok told)
          none raw.name ∧
        Told (member? "opcode" members) (fun v told => (readText dialect v).map some = .ok told)
          none raw.opcode ∧
        (∀ flag : Flag, Told (member? flag.name members) SpellsTrilean .no (raw.flags.get flag)) ∧
        Told (member? "replace" members) (fun v told => readBool dialect v = .ok told)
          false raw.replace := by
  have flag_iff (flag : Flag) : Told (member? flag.name members)
      (fun v told => readTrilean v = .ok told) (Flags.none.get flag) (raw.flags.get flag) ↔
      Told (member? flag.name members) SpellsTrilean .no (raw.flags.get flag) := by
    rw [Flags.get_none]
    exact told_congr fun v _ => read_trilean_eq_ok_iff v (raw.flags.get flag)
  rw [(shape_record_placed dialect).read_object_eq_ok_iff]
  constructor
  · rintro ⟨keys, told⟩
    exact ⟨keys, told .name, told .opcode, fun flag => (flag_iff flag).mp (told (.flag flag)),
      told .replace⟩
  · rintro ⟨keys, name, opcode, flags, replace⟩
    refine ⟨keys, fun field => ?_⟩
    cases field with
    | name => exact name
    | opcode => exact opcode
    | flag f => exact (flag_iff f).mpr (flags f)
    | replace => exact replace

theorem decode_shape_eq_ok_iff (dialect : Dialect) (members : List (String × Value))
    (change : Change) :
    decodeShape dialect (.object members) = .ok change ↔ DescribesShape members change := by
  change ((shapeRecord dialect).readMembers {} (inKeyOrder members) >>= RawShape.ofMembers) = _ ↔ _
  rw [bind_eq_ok_iff]
  -- The decoder first collects what the members say and then asks for what a shape needs; the
  -- grammar says both of the change itself.
  constructor
  · rintro ⟨raw, read, complete⟩
    rcases (read_shape_eq_ok_iff dialect members raw).mp read with
      ⟨keys, toldName, toldOpcode, toldFlags, toldMode⟩
    rcases (of_members_eq_ok_iff raw change).mp complete with ⟨name, opcode, notBlank, flags, mode⟩
    rw [name, told_text_iff] at toldName
    rw [opcode, told_text_iff] at toldOpcode
    rw [told_mode_iff, ← mode] at toldMode
    rw [← flags] at toldFlags
    exact ⟨fun key member => (shape_key_iff key).mp (keys key member), toldName, notBlank,
      toldOpcode, change.shape.opcode_not_blank, toldFlags, toldMode⟩
  · intro described
    have mode : change.mode = modeOf (decide (change.mode = .replace)) := by
      cases change.mode <;> rfl
    let raw : RawShape :=
      ⟨some change.name, some change.shape.opcode, change.shape.flags,
        decide (change.mode = .replace)⟩
    refine ⟨raw, (read_shape_eq_ok_iff dialect members raw).mpr ?_,
      (of_members_eq_ok_iff raw change).mpr ⟨rfl, rfl, described.name_not_blank, rfl, mode⟩⟩
    refine ⟨fun key member => (shape_key_iff key).mpr (described.keys_known key member),
      (told_text_iff dialect _ _).mpr described.name,
      (told_text_iff dialect _ _).mpr described.opcode, described.flags,
      (told_mode_iff dialect _ _).mpr ?_⟩
    rw [← mode]
    exact described.mode

theorem decode_item_eq_ok_iff (dialect : Dialect) {item : Value} (keyed : IsObject item)
    (change : Change) : decodeShape dialect item = .ok change ↔ IsShape item change := by
  rcases keyed with ⟨members⟩
  rw [decode_shape_eq_ok_iff]
  constructor
  · exact IsShape.object
  · rintro ⟨described⟩
    exact described

inductive IsSettings : Value → Bool → Prop where
  | object {members : List (String × Value)} {strict : Bool}
      (keys_known : ∀ key ∈ memberKeys members, key = "strict")
      (told : Told (member? "strict" members) SpellsBool false strict) :
      IsSettings (.object members) strict

inductive IsShapes : Value → List Change → Prop where
  | list {items : List Value} {changes : List Change}
      (each : List.Forall₂ IsShape items changes) : IsShapes (.list items) changes

theorem decode_settings_eq_ok_iff (dialect : Dialect) {v : Value} (keyed : IsObject v)
    (strict : Bool) : decodeSettings dialect v = .ok strict ↔ IsSettings v strict := by
  rcases keyed with ⟨members⟩
  have told_iff : Told (member? "strict" members) (fun v told => readBool dialect v = .ok told)
      false strict ↔ Told (member? "strict" members) SpellsBool false strict :=
    told_congr fun v _ => read_bool_eq_ok_iff dialect v strict
  change (settingsRecord dialect).readMembers false (inKeyOrder members) = _ ↔ _
  rw [(settings_record_placed dialect).read_object_eq_ok_iff]
  constructor
  · rintro ⟨keys, told⟩
    apply IsSettings.object
    · intro key member
      rcases keys key member with ⟨_, rfl⟩
      rfl
    · exact told_iff.mp (told ())
  · rintro ⟨keys, told⟩
    exact ⟨fun key member => ⟨(), (keys key member).symm⟩, fun _ => told_iff.mpr told⟩

theorem decode_items_iff (dialect : Dialect) {items : List Value}
    (keyed : ∀ item ∈ items, IsObject item) (changes : List Change) :
    List.Forall₂ (fun item change => decodeShape dialect item = .ok change) items changes ↔
      List.Forall₂ IsShape items changes := by
  induction items generalizing changes with
  | nil => simp
  | cons item rest ih =>
      have first := decode_item_eq_ok_iff dialect (keyed item List.mem_cons_self)
      have others := ih fun other member => keyed other (List.mem_cons_of_mem item member)
      simp only [List.forall₂_cons_left_iff, first, others]

theorem decode_shapes_eq_ok_iff (dialect : Dialect) {v : Value}
    (keyed : ∀ items, v = .list items → ∀ item ∈ items, IsObject item) (changes : List Change) :
    decodeShapes dialect v = .ok changes ↔ IsShapes v changes := by
  constructor
  · intro read
    cases v with
    | list items =>
        rw [decodeShapes, map_m_eq_ok_iff, decode_items_iff dialect (keyed items rfl)] at read
        exact .list read
    | _ => exact absurd read (by simp [decodeShapes])
  · intro shapes
    cases shapes with
    | @list items _ each =>
        rw [decodeShapes, map_m_eq_ok_iff, decode_items_iff dialect (keyed items rfl)]
        exact each

/-- The records of a configuration stand in their keyed form. -/
structure Keyed (members : List (String × Value)) : Prop where
  registry : ∀ v, member? "registry" members = some v → IsObject v
  shapes : ∀ items, member? "shapes" members = some (.list items) → ∀ item ∈ items, IsObject item

structure Describes (members : List (String × Value)) (config : Config) : Prop where
  keys_known : ∀ key ∈ memberKeys members, key = "registry" ∨ key = "shapes"
  registry : Told (member? "registry" members) IsSettings false config.strict
  shapes : Told (member? "shapes" members) IsShapes [] config.shapes

theorem decode_object_eq_ok_iff (dialect : Dialect) {members : List (String × Value)}
    (keyed : Keyed members) (config : Config) :
    decode dialect (.object members) = .ok config ↔ Describes members config := by
  have registry_iff : Told (member? "registry" members)
      (fun v told => decodeSettings dialect v = .ok told) false config.strict ↔
      Told (member? "registry" members) IsSettings false config.strict := by
    apply told_congr
    intro v found
    exact decode_settings_eq_ok_iff dialect (keyed.registry v found) config.strict
  have shapes_iff : Told (member? "shapes" members)
      (fun v told => decodeShapes dialect v = .ok told) [] config.shapes ↔
      Told (member? "shapes" members) IsShapes [] config.shapes := by
    apply told_congr
    rintro v found
    apply decode_shapes_eq_ok_iff dialect
    rintro items rfl
    exact keyed.shapes items found
  rw [decode_object_told_iff, registry_iff, shapes_iff]
  constructor
  · rintro ⟨keys_known, registry, shapes⟩
    exact ⟨keys_known, registry, shapes⟩
  · rintro ⟨keys_known, registry, shapes⟩
    exact ⟨keys_known, registry, shapes⟩

theorem decode_shapes_stops (dialect : Dialect) {before : List Value} {item : Value}
    {fault : DecodeError} (taken : ∀ earlier ∈ before, ∃ change, IsShape earlier change)
    (refused : decodeShape dialect item = .error fault) (after : List Value) :
    decodeShapes dialect (.list (before ++ item :: after)) = .error fault := by
  apply map_m_stops _ refused
  rintro earlier member
  rcases taken earlier member with ⟨change, ⟨described⟩⟩
  exact ⟨change, (decode_shape_eq_ok_iff dialect _ change).mpr described⟩

theorem decode_object_stops (dialect : Dialect) {members : List (String × Value)} {shapes : Value}
    {fault : DecodeError}
    (keys_known : ∀ key ∈ memberKeys members, key = "registry" ∨ key = "shapes")
    (registry : ∀ v, member? "registry" members = some v → ∃ strict, IsSettings v strict)
    (found : member? "shapes" members = some shapes)
    (refused : decodeShapes dialect shapes = .error fault) :
    decode dialect (.object members) = .error fault := by
  have shapesFound : member? ((configRecord dialect).key .shapes) members = some shapes := found
  have shapesRefused : Section.value dialect .shapes shapes = .error fault := refused
  refine (config_record_placed dialect).read_object_only_fault {} ?_ shapesFound shapesRefused ?_
  · intro key member
    exact (section_key_iff key).mpr (keys_known key member)
  · intro part v differs registryFound
    cases part with
    | shapes => exact absurd rfl differs
    | registry =>
        rcases registry v registryFound with ⟨strict, settings⟩
        have keyed : IsObject v := by
          cases settings with
          | object => exact .object _
        exact ⟨strict, (decode_settings_eq_ok_iff dialect keyed strict).mpr settings⟩

/-- A document in keyed form is a configuration exactly if the grammar describes one, and then it is
that one. The elements of its list of shapes count one by one: an element that is no shape has a fault
of its own, and behind elements that are shapes it gives this fault to the list and, if nothing else
is wrong, to the document, whatever stands behind it. -/
theorem decoder_takes_exactly_the_grammar (dialect : Dialect) {members : List (String × Value)}
    (keyed : Keyed members) :
    (∀ config, decode dialect (.object members) = .ok config ↔ Describes members config) ∧
      ∀ before item after, member? "shapes" members = some (.list (before ++ item :: after)) →
        (∀ earlier ∈ before, ∃ change, IsShape earlier change) →
        (¬ ∃ change, IsShape item change) →
        ∃ fault, decodeShape dialect item = .error fault ∧
          decodeShapes dialect (.list (before ++ item :: after)) = .error fault ∧
          ((∀ key ∈ memberKeys members, key = "registry" ∨ key = "shapes") →
            (∀ v, member? "registry" members = some v → ∃ strict, IsSettings v strict) →
            decode dialect (.object members) = .error fault) := by
  constructor
  · exact decode_object_eq_ok_iff dialect keyed
  · intro before item after found taken noShape
    have itemKeyed := keyed.shapes _ found item (by simp)
    cases read : decodeShape dialect item with
    | ok change =>
        exact absurd ⟨change, (decode_item_eq_ok_iff dialect itemKeyed change).mp read⟩ noShape
    | error fault =>
        have stops := decode_shapes_stops dialect taken read after
        exact ⟨fault, rfl, stops, fun keys_known registry =>
          decode_object_stops dialect keys_known registry found stops⟩

/-- One flag is a word, one a boolean and the others are missing. -/
def scaleObject : Value :=
  .object [("replace", .bool true), ("opcode", .string "scale\u2003"), ("name", .string " SCALE"),
    ("boolean", .string " True\u00A0"), ("reporter", .bool true)]

def scale : Change :=
  ⟨" SCALE", ⟨"scale\u2003", Flags.ofList [.boolean, .reporter], by decide⟩, .replace⟩

def scaleDocument : List (String × Value) :=
  [("shapes", .list [scaleObject]), ("registry", .object [("strict", .bool true)])]

/-- A shape without an opcode, between one that is right and one with an unknown key. -/
def noteDocument : List (String × Value) :=
  [("shapes", .list [scaleObject, .object [("name", .string "NOTE")], .object [("tune", .null)]])]

theorem scale_read_and_note_refused :
    Keyed scaleDocument ∧ Describes scaleDocument ⟨true, [scale]⟩ ∧ Keyed noteDocument ∧
      IsShape scaleObject scale ∧ (¬ ∃ change, IsShape (.object [("name", .string "NOTE")]) change) ∧
      decode .toml (.object noteDocument) = .error (.missingField "opcode") := by
  have scaleKeyed : Keyed scaleDocument := by
    constructor
    · rintro v ⟨⟩
      exact .object _
    · rintro items ⟨⟩ item listed
      rw [List.mem_singleton.mp listed]
      exact .object _
  have noteKeyed : Keyed noteDocument := by
    constructor
    · rintro v ⟨⟩
    · rintro items ⟨⟩ item listed
      simp only [List.mem_cons, List.not_mem_nil, or_false] at listed
      rcases listed with rfl | rfl | rfl <;> exact .object _
  have described := ((decoder_takes_exactly_the_grammar .json scaleKeyed).1 ⟨true, [scale]⟩).mp rfl
  have isShape : IsShape scaleObject scale :=
    (decode_item_eq_ok_iff .json (.object _) scale).mp rfl
  have noShape : ¬ ∃ change, IsShape (.object [("name", .string "NOTE")]) change := by
    rintro ⟨change, ⟨described⟩⟩
    cases described.opcode
  have taken : ∀ earlier ∈ [scaleObject], ∃ change, IsShape earlier change := by
    intro earlier member
    rw [List.mem_singleton.mp member]
    exact ⟨scale, isShape⟩
  rcases (decoder_takes_exactly_the_grammar .toml noteKeyed).2 [scaleObject]
    (.object [("name", .string "NOTE")]) [.object [("tune", .null)]] rfl taken noShape with
    ⟨fault, refused, _, whole⟩
  obtain rfl : DecodeError.missingField "opcode" = fault := Except.error.inj refused
  refine ⟨scaleKeyed, described, noteKeyed, isShape, noShape, whole ?_ ?_⟩
  · intro key member
    exact .inr (List.mem_singleton.mp member)
  · rintro v ⟨⟩

end Config

end OpcodeShapes
