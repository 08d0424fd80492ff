import Mathlib.Data.List.Forall2
import OpcodeShapes.Proofs.Precedence

/-!
# The two forms of a record

A record is written as an object or as the list of its first values. Reading
the list is reading those values under the keys of the first fields, so a list
that has no more values than the record has fields stands for the object with
those members. Which form a record of a configuration has therefore makes no
difference to what is read, and each record in it can have a form of its own.
-/

namespace OpcodeShapes

set_option autoImplicit false

theorem zipped_keys (keys : List String) (items : List Value) :
    memberKeys (keys.zip items) = keys.take items.length := by
  induction keys generalizing items with
  | nil => simp [memberKeys]
  | cons key rest ih =>
      cases items with
      | nil => rfl
      | cons item later => exact congrArg (key :: ·) (ih later)

theorem zipped_keys_nodup {keys : List String} (distinct : keys.Nodup) (items : List Value) :
    (memberKeys (keys.zip items)).Nodup := by
  rw [zipped_keys]
  exact distinct.sublist (List.take_sublist _ _)

theorem member_eq_lookup {members : List (String × Value)}
    (distinct : (memberKeys members).Nodup) (key : String) :
    member? key members = members.lookup key := by
  apply Option.ext
  intro v
  rw [lookup_eq_some_iff distinct, ← mem_in_key_order_iff (key, v)]
  exact (in_key_order_perm distinct).mem_iff

/-- The same keys in the same order, with related values under them. -/
def MembersRelated (related : String → Value → Value → Prop)
    (members others : List (String × Value)) : Prop :=
  List.Forall₂ (fun one two => one.1 = two.1 ∧ related one.1 one.2 two.2) members others

section Related

variable {related : String → Value → Value → Prop} {members others : List (String × Value)}

theorem lookup_related (each : MembersRelated related members others) (key : String) :
    Option.Rel (related key) (members.lookup key) (others.lookup key) := by
  induction each with
  | nil => exact .none
  | @cons one two _ _ first _ ih =>
      rcases one with ⟨k, v⟩
      rcases two with ⟨_, w⟩
      obtain ⟨rfl, same⟩ := first
      rw [lookup_cons_eq_ite, lookup_cons_eq_ite]
      by_cases here : key = k
      · subst here
        rw [if_pos rfl, if_pos rfl]
        exact .some same
      · rw [if_neg here, if_neg here]
        exact ih

theorem member_related (each : MembersRelated related members others) (key : String) :
    Option.Rel (related key) (member? key members) (member? key others) :=
  lookup_related (List.forall₂_reverse_iff.mpr each) key

theorem keys_related (each : MembersRelated related members others) :
    memberKeys members = memberKeys others := by
  induction each with
  | nil => rfl
  | cons first _ ih => exact congrArg₂ List.cons first.1 ih

end Related

namespace Config

namespace Record

variable {Field Raw : Type} {Content : Field → Type} {record : Record Field Raw}
  {places : Places Field Raw Content}
  {value : (field : Field) → Value → Except DecodeError (Content field)}

def keys (record : Record Field Raw) : List String := record.fields.map record.key

theorem Placed.read_items_eq (placed : record.Placed places value) (raw : Raw)
    (items : List Value) :
    record.readItems raw items = record.readMembers raw (record.keys.zip items) := by
  have field_read (raw : Raw) (pair : Field × Value) :
      record.readMember raw (record.key pair.1, pair.2) = record.read raw pair.1 pair.2 := by
    rw [readMember, placed.field_key pair.1]
  rw [readItems, readMembers, keys, List.zip_map_left, List.foldlM_map]
  simp only [Prod.map, id_eq, field_read]

/-- The list is read in the order of the fields and the object in that of the keys. Either way each
field gets the value that stands for it. -/
theorem Placed.read_items_eq_ok_iff (placed : record.Placed places value)
    (distinct : record.keys.Nodup) (start last : Raw) (items : List Value) :
    record.readItems start items = .ok last ↔
      record.readMembers start (inKeyOrder (record.keys.zip items)) = .ok last := by
  have apart := zipped_keys_nodup distinct items
  rw [placed.read_items_eq, placed.read_members_eq_ok_iff apart, placed.read_object_eq_ok_iff]
  simp only [Tells, member_eq_lookup apart]

theorem check_length_of_room (record : Record Field Raw) (dialect : Dialect) {items : List Value}
    (room : items.length ≤ record.fields.length) : record.checkLength dialect items = .ok () := by
  have noSurplus : ¬ record.fields.length < items.length := Nat.not_lt.mpr room
  simp [checkLength, noSurplus]

theorem Placed.decode_list_iff (placed : record.Placed places value)
    (distinct : record.keys.Nodup) (dialect : Dialect) (start last : Raw) {items : List Value}
    (room : items.length ≤ record.fields.length) :
    record.decode dialect start (.list items) = .ok last ↔
      record.decode dialect start (.object (record.keys.zip items)) = .ok last := by
  have fits := record.check_length_of_room dialect room
  rw [decode, decode, ← placed.read_items_eq_ok_iff distinct, bind_eq_ok_iff]
  simp [fits, bind, Except.bind, pure, Except.pure]

end Record

theorem shape_keys_nodup : shapeKeys.Nodup := by decide

theorem read_shape_list_iff (dialect : Dialect) {items : List Value} (room : items.length ≤ 10)
    (change : Change) :
    decodeShape dialect (.list items) = .ok change ↔
      ∃ raw, (shapeRecord dialect).readItems {} items = .ok raw ∧ raw.ofMembers = .ok change := by
  have fits := (shapeRecord dialect).check_length_of_room dialect room
  rw [decodeShape, bind_eq_ok_iff]
  apply exists_congr
  intro raw
  apply and_congr_right
  intro _
  unfold RawShape.ofMembers
  cases raw.name with
  | none => simp
  | some name =>
      cases raw.opcode with
      | none => simp
      | some opcode =>
          dsimp only
          rw [fits]
          rfl

theorem shape_list_iff (dialect : Dialect) {items : List Value} (room : items.length ≤ 10)
    (change : Change) :
    decodeShape dialect (.list items) = .ok change ↔
      decodeShape dialect (.object (shapeKeys.zip items)) = .ok change := by
  have placed := shape_record_placed dialect
  rw [read_shape_list_iff dialect room]
  change _ ↔ ((shapeRecord dialect).readMembers {} (inKeyOrder (shapeKeys.zip items)) >>=
    RawShape.ofMembers) = _
  rw [bind_eq_ok_iff]
  apply exists_congr
  intro raw
  apply and_congr_left
  intro _
  exact placed.read_items_eq_ok_iff shape_keys_nodup {} raw items

theorem short_shape_refused (dialect : Dialect) {items : List Value} (short : items.length < 2) :
    ∃ fault, decodeShape dialect (.list items) = .error fault := by
  cases read : decodeShape dialect (.list items) with
  | error fault => exact ⟨fault, rfl⟩
  | ok change =>
      exfalso
      rw [shape_list_iff dialect (by omega), decode_shape_eq_ok_iff] at read
      have listed := mem_keys_of_member read.opcode
      rw [zipped_keys] at listed
      have early : "opcode" ∈ shapeKeys.take 1 :=
        (List.take_prefix_take_left (by omega : items.length ≤ 1)).subset listed
      exact absurd early (by decide)

theorem unreached_fields_default (dialect : Dialect) {items : List Value} {change : Change}
    (room : items.length ≤ 10) (read : decodeShape dialect (.list items) = .ok change) :
    (∀ flag : Flag, flag.name ∈ shapeKeys.drop items.length → change.shape.get flag = .no) ∧
      ("replace" ∈ shapeKeys.drop items.length → change.mode = .add) := by
  rw [shape_list_iff dialect room, decode_shape_eq_ok_iff] at read
  have absent {key : String} (behind : key ∈ shapeKeys.drop items.length) :
      member? key (shapeKeys.zip items) = none := by
    rw [member_eq_none_iff, zipped_keys]
    exact fun reached => List.disjoint_take_drop shape_keys_nodup (Nat.le_refl _) reached behind
  constructor
  · intro flag behind
    have told := read.flags flag
    rw [absent behind] at told
    exact told
  · intro behind
    have told := read.mode
    rw [absent behind] at told
    exact told

/-- A record written with some members: as an object, or as the list of its first values. -/
inductive HasMembers (keys : List String) : Value → List (String × Value) → Prop where
  | object (members : List (String × Value)) : HasMembers keys (.object members) members
  | list {items : List Value} (room : items.length ≤ keys.length) :
      HasMembers keys (.list items) (keys.zip items)

/-- The same value, or the same members in two forms. -/
inductive SameRecord (keys : List String) : Value → Value → Prop where
  | refl (v : Value) : SameRecord keys v v
  | forms {v w : Value} {members : List (String × Value)} (one : HasMembers keys v members)
      (other : HasMembers keys w members) : SameRecord keys v w

inductive SameShapes : Value → Value → Prop where
  | refl (v : Value) : SameShapes v v
  | forms {items others : List Value} (each : List.Forall₂ (SameRecord shapeKeys) items others) :
      SameShapes (.list items) (.list others)

inductive SameSection : String → Value → Value → Prop where
  | refl (key : String) (v : Value) : SameSection key v v
  | registry {v w : Value} (same : SameRecord ["strict"] v w) : SameSection "registry" v w
  | shapes {v w : Value} (same : SameShapes v w) : SameSection "shapes" v w

/-- The same document, but for the forms of the records in it and its own. -/
inductive SameDocument : Value → Value → Prop where
  | forms {v w : Value} {members others : List (String × Value)}
      (one : HasMembers ["registry", "shapes"] v members)
      (other : HasMembers ["registry", "shapes"] w others)
      (each : MembersRelated SameSection members others) : SameDocument v w

section Documents

variable {dialect : Dialect} {v w : Value}

theorem settings_list_iff (dialect : Dialect) {items : List Value} (room : items.length ≤ 1)
    (strict : Bool) :
    decodeSettings dialect (.list items) = .ok strict ↔
      decodeSettings dialect (.object (["strict"].zip items)) = .ok strict :=
  (settings_record_placed dialect).decode_list_iff (by decide : ["strict"].Nodup) dialect
    false strict room

theorem config_list_iff (dialect : Dialect) {items : List Value} (room : items.length ≤ 2)
    (config : Config) :
    decode dialect (.list items) = .ok config ↔
      decode dialect (.object (["registry", "shapes"].zip items)) = .ok config :=
  (config_record_placed dialect).decode_list_iff (by decide : ["registry", "shapes"].Nodup) dialect
    {} config room

theorem HasMembers.means_object {keys : List String} {members : List (String × Value)}
    (written : HasMembers keys v members) (means : Value → Prop)
    (list_iff : ∀ items : List Value, items.length ≤ keys.length →
      (means (.list items) ↔ means (.object (keys.zip items)))) :
    means v ↔ means (.object members) := by
  cases written with
  | object => exact Iff.rfl
  | list room => exact list_iff _ room

theorem SameRecord.means_same {keys : List String} (same : SameRecord keys v w)
    (means : Value → Prop)
    (list_iff : ∀ items : List Value, items.length ≤ keys.length →
      (means (.list items) ↔ means (.object (keys.zip items)))) : means v ↔ means w := by
  cases same with
  | refl => exact Iff.rfl
  | forms one other =>
      exact (one.means_object means list_iff).trans (other.means_object means list_iff).symm

theorem same_shape_read (same : SameRecord shapeKeys v w) (change : Change) :
    decodeShape dialect v = .ok change ↔ decodeShape dialect w = .ok change :=
  same.means_same (fun v => decodeShape dialect v = .ok change)
    fun _ room => shape_list_iff dialect room change

theorem same_settings_read (same : SameRecord ["strict"] v w) (strict : Bool) :
    decodeSettings dialect v = .ok strict ↔ decodeSettings dialect w = .ok strict :=
  same.means_same (fun v => decodeSettings dialect v = .ok strict)
    fun _ room => settings_list_iff dialect room strict

theorem same_shapes_read (same : SameShapes v w) (changes : List Change) :
    decodeShapes dialect v = .ok changes ↔ decodeShapes dialect w = .ok changes := by
  cases same with
  | refl => exact Iff.rfl
  | forms each =>
      rw [decodeShapes, decodeShapes, map_m_eq_ok_iff, map_m_eq_ok_iff]
      induction each generalizing changes with
      | nil => exact Iff.rfl
      | cons first _ ih => simp only [List.forall₂_cons_left_iff, same_shape_read first, ih]

theorem same_section_read {key : String} (same : SameSection key v w) :
    (key = "registry" → ∀ strict,
      decodeSettings dialect v = .ok strict ↔ decodeSettings dialect w = .ok strict) ∧
    (key = "shapes" → ∀ changes,
      decodeShapes dialect v = .ok changes ↔ decodeShapes dialect w = .ok changes) := by
  cases same with
  | refl => exact ⟨fun _ _ => Iff.rfl, fun _ _ => Iff.rfl⟩
  | registry same => exact ⟨fun _ => same_settings_read same, fun other => absurd other (by decide)⟩
  | shapes same => exact ⟨fun other => absurd other (by decide), fun _ => same_shapes_read same⟩

theorem told_related {Content : Type} {found other : Option Value}
    {related : Value → Value → Prop} (same : Option.Rel related found other)
    (means : Value → Content → Prop) (absent content : Content)
    (agree : ∀ {v w}, related v w → (means v content ↔ means w content)) :
    Told found means absent content ↔ Told other means absent content := by
  cases same with
  | none => exact Iff.rfl
  | some related => exact agree related

theorem same_members_read {members others : List (String × Value)}
    (each : MembersRelated SameSection members others) (config : Config) :
    decode dialect (.object members) = .ok config ↔
      decode dialect (.object others) = .ok config := by
  have registry := told_related (member_related each "registry")
    (fun v told => decodeSettings dialect v = .ok told) false config.strict
    fun same => (same_section_read same).1 rfl config.strict
  have shapes := told_related (member_related each "shapes")
    (fun v told => decodeShapes dialect v = .ok told) [] config.shapes
    fun same => (same_section_read same).2 rfl config.shapes
  rw [decode_object_told_iff, decode_object_told_iff, keys_related each, registry, shapes]

theorem same_document_read (same : SameDocument v w) (config : Config) :
    decode dialect v = .ok config ↔ decode dialect w = .ok config := by
  rcases same with ⟨one, other, each⟩
  have list_iff (items : List Value) (room : items.length ≤ 2) :=
    config_list_iff dialect room config
  calc decode dialect v = .ok config
    _ ↔ decode dialect (.object _) = .ok config :=
        one.means_object (fun v => decode dialect v = .ok config) list_iff
    _ ↔ decode dialect (.object _) = .ok config := same_members_read each config
    _ ↔ decode dialect w = .ok config :=
        (other.means_object (fun v => decode dialect v = .ok config) list_iff).symm

end Documents

/-- Every record can be written in either form: a list with no more values than the record has fields
is the object with these values under the keys of the first fields. Of a shape the fields that are
not reached have their defaults, and the second one has to be reached. Documents that differ only in
the forms of their records are read alike. -/
theorem listed_and_keyed_forms_agree (dialect : Dialect) :
    (∀ (items : List Value) (change : Change), 2 ≤ items.length → items.length ≤ 10 →
      (decodeShape dialect (.list items) = .ok change ↔
        decodeShape dialect (.object (shapeKeys.zip items)) = .ok change) ∧
      (decodeShape dialect (.list items) = .ok change ↔
        DescribesShape (shapeKeys.zip items) change) ∧
      (decodeShape dialect (.list items) = .ok change →
        (∀ flag : Flag, flag.name ∈ shapeKeys.drop items.length → change.shape.get flag = .no) ∧
          ("replace" ∈ shapeKeys.drop items.length → change.mode = .add))) ∧
    (∀ items : List Value, items.length < 2 →
      ∃ fault, decodeShape dialect (.list items) = .error fault) ∧
    (∀ (items : List Value) (strict : Bool), items.length ≤ 1 →
      (decodeSettings dialect (.list items) = .ok strict ↔
        decodeSettings dialect (.object (["strict"].zip items)) = .ok strict)) ∧
    (∀ (items : List Value) (config : Config), items.length ≤ 2 →
      (decode dialect (.list items) = .ok config ↔
        decode dialect (.object (["registry", "shapes"].zip items)) = .ok config)) ∧
    (∀ (v w : Value) (config : Config), SameDocument v w →
      (decode dialect v = .ok config ↔ decode dialect w = .ok config)) := by
  refine ⟨?_, ?_, ?_, ?_, ?_⟩
  · intro items change _ room
    have list_iff := shape_list_iff dialect room change
    exact ⟨list_iff, list_iff.trans (decode_shape_eq_ok_iff dialect _ change),
      unreached_fields_default dialect room⟩
  · intro items short
    exact short_shape_refused dialect short
  · intro items strict room
    exact settings_list_iff dialect room strict
  · intro items config room
    exact config_list_iff dialect room config
  · intro v w config same
    exact same_document_read same config

def ferryItems : List Value :=
  [.string "Ferry", .string "ferry", .bool false, .string " True"]

def ferry : Change := ⟨"Ferry", ⟨"ferry", Flags.ofList [.cMouth], by decide⟩, .add⟩

def quayMembers : List (String × Value) := [("name", .string "Quay"), ("opcode", .string "quay")]

def quay : Change := ⟨"Quay", ⟨"quay", Flags.none, by decide⟩, .add⟩

/-- Every record is a list but for the second shape. -/
def listedHarbour : Value :=
  .list [.list [.bool true], .list [.list ferryItems, .object quayMembers]]

/-- Every record is an object but for the second shape. -/
def keyedHarbour : Value :=
  .object [("registry", .object [("strict", .bool true)]),
    ("shapes", .list [.object (shapeKeys.zip ferryItems), .list [.string "Quay", .string "quay"]])]

theorem harbour_same_document : SameDocument listedHarbour keyedHarbour := by
  have settings : SameRecord ["strict"] (.list [.bool true]) (.object [("strict", .bool true)]) :=
    .forms (.list (by decide)) (.object _)
  have first : SameRecord shapeKeys (.list ferryItems) (.object (shapeKeys.zip ferryItems)) :=
    .forms (.list (by decide)) (.object _)
  have second : SameRecord shapeKeys (.object quayMembers)
      (.list [.string "Quay", .string "quay"]) :=
    .forms (.object _) (.list (by decide))
  refine .forms (.list (by decide)) (.object _) (.cons ⟨rfl, .registry settings⟩ ?_)
  exact .cons ⟨rfl, .shapes (.forms (.cons first (.cons second .nil)))⟩ .nil

theorem harbour_read_in_both_forms :
    decodeShape .toml (.list ferryItems) = .ok ferry ∧
      decodeShape .toml (.object (shapeKeys.zip ferryItems)) = .ok ferry ∧
      DescribesShape (shapeKeys.zip ferryItems) ferry ∧
      (∃ fault, decodeShape .toml (.list [.string "Ferry"]) = .error fault) ∧
      decodeSettings .toml (.object [("strict", .bool true)]) = .ok true ∧
      decode .toml (.object [("registry", .list [.bool true])]) = .ok ⟨true, []⟩ ∧
      SameDocument listedHarbour keyedHarbour ∧
      decode .toml keyedHarbour = .ok ⟨true, [ferry, quay]⟩ := by
  rcases listed_and_keyed_forms_agree .toml with ⟨shape, short, settings, config, documents⟩
  have read : decodeShape .toml (.list ferryItems) = .ok ferry := rfl
  rcases shape ferryItems ferry (by decide) (by decide) with ⟨keyed, described, _⟩
  refine ⟨read, keyed.mp read, described.mp read, short _ (by decide), ?_, ?_,
    harbour_same_document, ?_⟩
  · exact (settings [.bool true] true (by decide)).mp rfl
  · exact (config [.list [.bool true]] ⟨true, []⟩ (by decide)).mp rfl
  · exact (documents _ _ _ harbour_same_document).mp rfl

end Config

end OpcodeShapes
