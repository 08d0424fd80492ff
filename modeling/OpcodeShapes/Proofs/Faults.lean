import OpcodeShapes.Proofs.Batch
import OpcodeShapes.Proofs.Configured
import OpcodeShapes.Proofs.Grammar
import OpcodeShapes.Proofs.Refusals
import OpcodeShapes.Proofs.Verdict

/-!
# What can go wrong with a configuration

Everything that a configured build reports is the fault of a configured change.
The catalogue always loads, the names of a decoded configuration can be read
and the fallback is designated before any change is made. So a build fails in
one of two ways: a change is refused behind others that were taken, or all of
them are taken and the last replacement of the fallback is no fallback.
-/

namespace OpcodeShapes

set_option autoImplicit false

namespace Config

theorem decode_shape_nameable {dialect : Dialect} {v : Value} {change : Change}
    (read : decodeShape dialect v = .ok change) : ¬ Text.Blank change.name := by
  cases v with
  | object members =>
      rcases (bind_eq_ok_iff _ _ change).mp read with ⟨raw, _, complete⟩
      exact ((of_members_eq_ok_iff raw change).mp complete).2.2.1
  | list items =>
      rcases (bind_eq_ok_iff _ _ change).mp read with ⟨raw, _, rest⟩
      split at rest
      · rcases (bind_eq_ok_iff _ _ change).mp rest with ⟨_, _, changed⟩
        exact ((change_eq_ok_iff raw _ _ change).mp changed).2.2.1
      · cases rest
  | _ => cases read

theorem decode_shapes_nameable {dialect : Dialect} {v : Value} {changes : List Change}
    (read : decodeShapes dialect v = .ok changes) :
    ∀ change ∈ changes, ¬ Text.Blank change.name := by
  cases v with
  | list items =>
      rw [decodeShapes, map_m_eq_ok_iff] at read
      induction read with
      | nil => simp
      | cons first _ ih => exact List.forall_mem_cons.mpr ⟨decode_shape_nameable first, ih⟩
  | _ => cases read

/-- No shape of a configuration has a blank name, in whatever form the document stands. -/
theorem decoded_nameable {dialect : Dialect} {v : Value} {config : Config}
    (decoded : decode dialect v = .ok config) :
    ∀ change ∈ config.shapes, ¬ Text.Blank change.name := by
  have keeps (raw : Config) (part : Section) (v : Value) (next : Config)
      (read : readSection dialect raw part v = .ok next)
      (before : ∀ change ∈ raw.shapes, ¬ Text.Blank change.name) :
      ∀ change ∈ next.shapes, ¬ Text.Blank change.name := by
    cases part with
    | registry =>
        rcases (bind_eq_ok_iff _ _ next).mp read with ⟨strict, _, same⟩
        obtain rfl := Except.ok.inj same
        exact before
    | shapes =>
        rcases (bind_eq_ok_iff _ _ next).mp read with ⟨changes, listed, same⟩
        obtain rfl := Except.ok.inj same
        exact decode_shapes_nameable listed
  exact Record.decode_keeps keeps decoded (by simp)

/-- The names there are behind some changes: those of the catalogue and those that were added. -/
def knownNames (changes : List Change) : List String :=
  Catalogue.rows.map Row.name ++
    (changes.filter fun change => change.mode = .add).map Change.name

def entriesBehind (changes : List Change) : List Entry :=
  Catalogue.entries.map (settled (changes.map Change.write)) ++
    registered (changes.map Change.write)

def Taken (strict : Bool) (changes : List Change) (last : Draft) : Prop :=
  ∃ draft, Catalogue.draft strict = .ok draft ∧ OneByOne Change.perform draft changes last

theorem taken_iff {strict : Bool} {draft : Draft} (loaded : Catalogue.draft strict = .ok draft)
    (changes : List Change) (last : Draft) :
    Taken strict changes last ↔ OneByOne Change.perform draft changes last := by
  constructor
  · rintro ⟨other, again, oneByOne⟩
    obtain rfl : other = draft := Except.ok.inj (again.symm.trans loaded)
    exact oneByOne
  · intro oneByOne
    exact ⟨draft, loaded, oneByOne⟩

/-- What the catalogue is like once it has taken some changes. -/
structure HoldsBehind (strict : Bool) (changes : List Change) (last : Draft) : Prop where
  sound : last.Sound
  listed : last.entries = entriesBehind changes
  names : Entry.names last.entries = knownNames changes
  designated : last.fallbackName = some Catalogue.fallbackName
  strictness : last.strict = strict

theorem taken_holds {strict : Bool} {changes : List Change} {last : Draft}
    (taken : Taken strict changes last) : HoldsBehind strict changes last := by
  rcases taken with ⟨draft, loaded, oneByOne⟩
  have holds := Catalogue.loaded_holds loaded
  have reached := change_batch_reaches ((batch_performed_iff draft changes last).mpr oneByOne)
  refine ⟨reached_sound reached holds.sound, ?_, ?_, ?_, ?_⟩
  · rw [reached_entries reached holds.sound, holds.listed, entriesBehind]
  · rw [reached_names reached holds.sound, holds.listed, Catalogue.entries_names,
      registered_changes_names, knownNames]
  · rw [reached_fallback_name reached holds.sound, last_designated_changes, holds.designated]
  · rw [reached_strictness reached, last_strictness_changes, holds.strictness]

def lastReplacing (name : String) (changes : List Change) : Option Change :=
  (changes.filter fun change => change.mode = .replace ∧ change.name = name).getLast?

theorem last_replacement_changes (name : String) (changes : List Change) :
    lastReplacement name (changes.map Change.write) =
      (lastReplacing name changes).map Change.shape := by
  have brought : (changes.map Change.write).filterMap (Write.replacement? name) =
      (changes.filter fun change => change.mode = .replace ∧ change.name = name).map
        Change.shape := by
    induction changes with
    | nil => rfl
    | cons change rest ih =>
        rw [List.map_cons, Change.write, List.filterMap_cons, List.filter_cons, ih]
        cases change.mode with
        | add => rfl
        | replace => by_cases same : change.name = name <;> simp [Write.replacement?, same]
  rw [lastReplacement, brought, List.getLast?_map, lastReplacing]

theorem HoldsBehind.fallback {strict : Bool} {changes : List Change} {last : Draft}
    (holds : HoldsBehind strict changes last) :
    ∃ shape, shape.flags = Flags.hatCap ∧ last.designated? =
      some ⟨Catalogue.fallbackName,
        ((lastReplacing Catalogue.fallbackName changes).map Change.shape).getD shape⟩ := by
  rcases Catalogue.loads strict with ⟨draft, loaded⟩
  have start := Catalogue.loaded_holds loaded
  rcases designated_of_fallback_name start.designated with ⟨shape, member, _⟩
  rw [start.listed] at member
  rcases designated_of_fallback_name holds.designated with ⟨now, present, found⟩
  have left : settled (changes.map Change.write) ⟨Catalogue.fallbackName, shape⟩ ∈ last.entries := by
    rw [holds.listed]
    exact List.mem_append_left _ (List.mem_map_of_mem member)
  -- The names of the entries are all different, so both entries are one.
  have same := List.inj_on_of_nodup_map holds.sound.names.keys_nodup present left rfl
  refine ⟨shape, Catalogue.fallback_flags member rfl, ?_⟩
  rw [found, same, settled, last_replacement_changes]

theorem HoldsBehind.build_fault_iff {strict : Bool} {changes : List Change} {last : Draft}
    (holds : HoldsBehind strict changes last) (reason : RegistryError) :
    last.build = .error reason ↔
      ∃ change, lastReplacing Catalogue.fallbackName changes = some change ∧
        change.shape.flags ≠ Flags.hatCap ∧
        reason = .invalidFallback Catalogue.fallbackName change.shape.opcode := by
  rcases holds.fallback with ⟨shape, hatCap, designated⟩
  rw [build_eq_error_iff, build_verdict holds.sound, designated, verdict]
  cases lastReplacing Catalogue.fallbackName changes with
  | none => simp [hatCap]
  | some change =>
      simp only [Option.map_some, Option.getD_some, Option.some_inj]
      split_ifs with good
      · simp [good]
      · simp [good, eq_comm]

/-- A build fails at a change that is refused behind others that are taken, or at its end. -/
theorem registry_eq_error_iff (config : Config) (reason : RegistryError) :
    config.registry = .error reason ↔
      (∃ before change after last, config.shapes = before ++ change :: after ∧
        Taken config.strict before last ∧
        outcome change.perform last = (.error reason, last)) ∨
      ∃ last, Taken config.strict config.shapes last ∧ last.build = .error reason := by
  rcases Catalogue.loads config.strict with ⟨draft, loaded⟩
  have stages : config.registry = .error reason ↔
      (∃ last, outcome config.apply draft = (.error reason, last)) ∨
        ∃ last, outcome config.apply draft = (.ok (), last) ∧ last.build = .error reason := by
    rw [config.registry_eq loaded]
    rcases outcome config.apply draft with ⟨cause | answer, last⟩ <;> simp
  have refused_iff (last : Draft) :=
    batch_refused_iff change_atomic draft last config.shapes reason
  have performed_iff (last : Draft) : outcome config.apply draft = (.ok (), last) ↔
      OneByOne Change.perform draft config.shapes last :=
    batch_performed_iff draft config.shapes last
  rw [stages]
  simp only [taken_iff loaded]
  apply or_congr
  · constructor
    · rintro ⟨last, stopped⟩
      rcases (refused_iff last).mp stopped with ⟨before, change, after, split, taken, itself⟩
      exact ⟨before, change, after, last, split, taken, itself⟩
    · rintro ⟨before, change, after, last, split, taken, itself⟩
      exact ⟨last, (refused_iff last).mpr ⟨before, change, after, split, taken, itself⟩⟩
  · exact exists_congr fun last => and_congr_left' (performed_iff last)

theorem taken_refused_iff {strict : Bool} {before : List Change} {change : Change} {last : Draft}
    (taken : Taken strict before last) (nameable : ¬ Text.Blank change.name)
    (reason : RegistryError) :
    outcome change.perform last = (.error reason, last) ↔
      Refuses strict (knownNames before) (entriesBehind before) change reason := by
  have holds := taken_holds taken
  rw [change_refused_iff holds.sound nameable, holds.names, holds.listed, holds.strictness]

theorem registry_fault_iff {config : Config}
    (nameable : ∀ change ∈ config.shapes, ¬ Text.Blank change.name) (reason : RegistryError) :
    config.registry = .error reason ↔
      (∃ before change after last, config.shapes = before ++ change :: after ∧
        Taken config.strict before last ∧
        outcome change.perform last = (.error reason, last) ∧
        Refuses config.strict (knownNames before) (entriesBehind before) change reason) ∨
      ∃ last change, Taken config.strict config.shapes last ∧
        lastReplacing Catalogue.fallbackName config.shapes = some change ∧
        change.shape.flags ≠ Flags.hatCap ∧
        reason = .invalidFallback Catalogue.fallbackName change.shape.opcode := by
  rw [registry_eq_error_iff]
  apply or_congr
  · constructor
    · rintro ⟨before, change, after, last, split, taken, refused⟩
      have readable := nameable change (by simp [split])
      have refuses := (taken_refused_iff taken readable reason).mp refused
      exact ⟨before, change, after, last, split, taken, refused, refuses⟩
    · rintro ⟨before, change, after, last, split, taken, refused, _⟩
      exact ⟨before, change, after, last, split, taken, refused⟩
  · constructor
    · rintro ⟨last, taken, fault⟩
      rcases ((taken_holds taken).build_fault_iff reason).mp fault with ⟨change, spoilt⟩
      exact ⟨last, change, taken, spoilt⟩
    · rintro ⟨last, change, taken, spoilt⟩
      exact ⟨last, taken, ((taken_holds taken).build_fault_iff reason).mpr ⟨change, spoilt⟩⟩

end Config

/-- A decoded configuration can be built unless one of its changes is at fault. Nothing is wrong with
the catalogue, with a name or with the designation. If a build fails there is a change that the
catalogue and all changes before it refuse, for one of four reasons that can be told from the names
of the catalogue, the names added before and the entries at that moment. Or all changes are taken and
the last replacement of the fallback has other flags than a hat and a cap; then that entry is named.
In each of these cases the build fails with exactly this reason. -/
theorem configured_build_fault_iff {dialect : Config.Dialect} {v : Value} {config : Config}
    (decoded : Config.decode dialect v = .ok config) :
    (∃ draft, Catalogue.draft config.strict = .ok draft) ∧
      config.registry ≠ .error .blankName ∧
      config.registry ≠ .error .missingFallback ∧
      ∀ reason, config.registry = .error reason ↔
        (∃ before change after last, config.shapes = before ++ change :: after ∧
          Config.Taken config.strict before last ∧
          outcome change.perform last = (.error reason, last) ∧
          Refuses config.strict (Config.knownNames before) (Config.entriesBehind before) change
            reason) ∨
        ∃ last change, Config.Taken config.strict config.shapes last ∧
          Config.lastReplacing Catalogue.fallbackName config.shapes = some change ∧
          change.shape.flags ≠ Flags.hatCap ∧
          reason = .invalidFallback Catalogue.fallbackName change.shape.opcode := by
  have fault_iff := Config.registry_fault_iff (Config.decoded_nameable decoded)
  refine ⟨Catalogue.loads config.strict, ?_, ?_, fault_iff⟩
  · intro blank
    rcases (fault_iff _).mp blank with
      ⟨before, change, after, last, _, _, _, refuses⟩ | ⟨last, change, _, _, _, other⟩
    · cases refuses
    · cases other
  · intro missing
    rcases (fault_iff _).mp missing with
      ⟨before, change, after, last, _, _, _, refuses⟩ | ⟨last, change, _, _, _, other⟩
    · cases refuses
    · cases other

/-- The fallback loses its flags, a shape is added, and its replacement reports a truth value. -/
def chimeDocument : Value :=
  .object [("shapes", .list [
      .object [("name", .string "UNDEFINED"), ("opcode", .string "chime_lid"),
        ("replace", .bool true)],
      .object [("name", .string "CHIME"), ("opcode", .string "chime_plays")],
      .object [("name", .string "CHIME"), ("opcode", .string "chime_rings"),
        ("boolean", .string "TRUE"), ("replace", .bool true)]]),
    ("registry", .object [("strict", .bool true)])]

def chime : Config where
  strict := true
  shapes :=
    [⟨"UNDEFINED", ⟨"chime_lid", Flags.none, by decide⟩, .replace⟩,
     ⟨"CHIME", ⟨"chime_plays", Flags.none, by decide⟩, .add⟩,
     ⟨"CHIME", ⟨"chime_rings", Flags.ofList [.boolean], by decide⟩, .replace⟩]

/-- The same shapes in the listed form, where nothing asks for strictness. -/
def chimeRows : Value :=
  .list [.object [], .list [
    .object [("name", .string "UNDEFINED"), ("opcode", .string "chime_lid"),
      ("replace", .bool true)],
    .list [.string "CHIME", .string "chime_plays"],
    .object [("name", .string "CHIME"), ("opcode", .string "chime_rings"),
      ("boolean", .bool true), ("replace", .bool true)]]]

/-- Strictly, the replacement is refused behind two changes that are taken. Leniently, all are taken
and the fallback is no fallback. -/
theorem chime_at_fault :
    Config.decode .json chimeDocument = .ok chime ∧
      (∃ before change after last, chime.shapes = before ++ change :: after ∧
        Config.Taken true before last ∧
        Refuses true (Config.knownNames before) (Config.entriesBehind before) change
          (.invalidShape "CHIME" (.booleanWithoutReporter "chime_rings"))) ∧
      Config.decode .toml chimeRows = .ok { chime with strict := false } ∧
      ∃ last change, Config.Taken false chime.shapes last ∧
        Config.lastReplacing Catalogue.fallbackName chime.shapes = some change ∧
        change.shape.flags ≠ Flags.hatCap := by
  have strictly : Config.decode .json chimeDocument = .ok chime := rfl
  have leniently : Config.decode .toml chimeRows = .ok { chime with strict := false } := rfl
  have refused : chime.registry =
      .error (.invalidShape "CHIME" (.booleanWithoutReporter "chime_rings")) :=
    Config.registry_fault (by decide +kernel)
  have spoilt : ({ chime with strict := false } : Config).registry =
      .error (.invalidFallback "UNDEFINED" "chime_lid") :=
    Config.registry_fault (by decide +kernel)
  refine ⟨strictly, ?_, leniently, ?_⟩
  · rcases ((configured_build_fault_iff strictly).2.2.2 _).mp refused with
      ⟨before, change, after, last, split, taken, _, refuses⟩ | ⟨_, _, _, _, _, other⟩
    · exact ⟨before, change, after, last, split, taken, refuses⟩
    · cases other
  · rcases ((configured_build_fault_iff leniently).2.2.2 _).mp spoilt with
      ⟨_, _, _, _, _, _, _, refuses⟩ | ⟨last, change, taken, replaces, spoils, _⟩
    · cases refuses
    · exact ⟨last, change, taken, replaces, spoils⟩

end OpcodeShapes
