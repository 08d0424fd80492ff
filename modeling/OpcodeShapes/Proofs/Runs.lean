import OpcodeShapes.CommandLine.Process
import OpcodeShapes.Proofs.Configured
import OpcodeShapes.Proofs.Stages
import OpcodeShapes.Proofs.Verdict
import OpcodeShapes.Proofs.Writing

/-!
# Runs from end to end

A run goes through its stages one after another, and it succeeds exactly if
each of them does: the arguments spell a command, the chosen file is not there
or holds a configuration, the configuration makes a registry, and the command
asks for no name that this registry does not have. No stage before the command
writes anything, and neither does a command that fails. Of the files a run sees
only the chosen one, and what is installed is what the command is asked of.
-/

namespace OpcodeShapes

set_option autoImplicit false

namespace Config

/-- The configuration that an environment has for a run, if it has one. -/
inductive Environment.Provides (env : Environment) : Option Config → Prop where
  | nowhere (chosen : env.path? = none) : env.Provides none
  | absent {path : String} (chosen : env.path? = some path) (missing : env.files path = none) :
      env.Provides none
  | loaded {path text : String} {file : File} {config : Config} (chosen : env.path? = some path)
      (present : env.files path = some file) (readable : readText? (some file) = .ok text)
      (parsed : ofText text = .ok config) : env.Provides (some config)

theorem load_from_eq_ok_iff (env : Environment) (path : String) (config : Config) :
    env.loadFrom path = .ok config ↔
      ∃ text, readText? (env.files path) = .ok text ∧ ofText text = .ok config := by
  simp only [Environment.loadFrom, ofFile, map_error_eq_ok_iff, bind_eq_ok_iff]

theorem load_eq_ok_iff (env : Environment) (config : Option Config) :
    env.load = .ok config ↔ env.Provides config := by
  unfold Environment.load
  constructor
  · intro loads
    split at loads
    · rename_i chosen
      cases loads
      exact .nowhere chosen
    · rename_i path chosen
      split at loads
      · rename_i missing
        cases loads
        exact .absent chosen missing
      · rename_i file present
        cases result : env.loadFrom path with
        | error cause =>
            rw [result] at loads
            cases loads
        | ok found =>
            rw [result] at loads
            cases loads
            rw [load_from_eq_ok_iff, present] at result
            rcases result with ⟨text, readable, parsed⟩
            exact .loaded chosen present readable parsed
  · intro provides
    cases provides with
    | nowhere chosen => simp [chosen]
    | absent chosen missing => simp [chosen, missing]
    | loaded chosen present readable parsed =>
        rw [← present] at readable
        have found := (load_from_eq_ok_iff env _ _).mpr ⟨_, readable, parsed⟩
        simp [chosen, present, found, Except.map]

theorem load_congr {env : Environment} {files : String → Option File}
    (same : ∀ path, env.path? = some path → files path = env.files path) :
    ({ env with files } : Environment).load = env.load := by
  have path : ({ env with files } : Environment).path? = env.path? := rfl
  unfold Environment.load
  rw [path]
  cases chosen : env.path? with
  | none => rfl
  | some place =>
      have file : files place = env.files place := same place chosen
      simp only [Environment.loadFrom, file]

theorem override_path {env : Environment} {path : String} (overridden : env.override = some path)
    (given : path ≠ "") : env.path? = some path := by
  simp [Environment.path?, overridden, given]

theorem home_path {env : Environment} (unset : env.override = none ∨ env.override = some "") :
    env.path? = env.home.map fun home => join (join home ".blockshape") "config.toml" := by
  rcases unset with absent | empty
  · simp [Environment.path?, absent, directoryName, fileName]
  · simp [Environment.path?, empty, directoryName, fileName]

end Config

/-- The registry of a run: the built-in one, or the catalogue with the configured shapes put on it
one after another. -/
inductive Makes : Option Config → Registry → Prop where
  | builtin {registry : Registry} (built : Catalogue.registry = .ok registry) : Makes none registry
  | configured {config : Config} {draft last : Draft} {registry : Registry}
      (loaded : Catalogue.draft config.strict = .ok draft)
      (applied : outcome config.apply draft = (.ok (), last)) (built : last.build = .ok registry) :
      Makes (some config) registry

theorem Makes.sound {config : Option Config} {registry : Registry} (makes : Makes config registry) :
    registry.Sound := by
  cases makes with
  | builtin built =>
      rcases Catalogue.registry_eq_ok_iff.mp built with ⟨draft, loaded, finished⟩
      exact (built_from finished).sound (Catalogue.loaded_holds loaded).sound
  | configured loaded applied built =>
      have reached := change_batch_reaches applied
      exact (built_from built).sound (reached_sound reached (Catalogue.loaded_holds loaded).sound)

theorem Config.registry_eq_ok_iff (config : Config) (registry : Registry) :
    config.registry = .ok registry ↔ Makes (some config) registry := by
  obtain ⟨draft, loaded⟩ := Catalogue.loads config.strict
  rw [config.registry_eq loaded]
  constructor
  · intro built
    cases applied : outcome config.apply draft with
    | mk answer last =>
        rw [applied] at built
        cases answer with
        | error reason => cases built
        | ok answer => exact .configured loaded applied built
  · intro makes
    cases makes with
    | configured again applied built =>
        cases loaded.symm.trans again
        rw [applied]
        exact built

theorem Registry.Sound.named_is_ok_iff {registry : Registry} (sound : registry.Sound)
    (name : String) :
    (∃ shape, registry.named name = .ok shape) ↔ name ∈ Entry.names registry.entries := by
  simp only [sound.named_eq_ok_iff, Entry.names, List.mem_map]
  constructor
  · rintro ⟨shape, member⟩
    exact ⟨_, member, rfl⟩
  · rintro ⟨entry, member, rfl⟩
    exact ⟨entry.shape, member⟩

/-- Only a name that the registry does not have makes a command fail. -/
theorem command_runs_iff {registry : Registry} (sound : registry.Sound) (command : Command) :
    (∃ text, command.run registry = .ok text) ↔
      ∀ name, command = .named name → name ∈ Entry.names registry.entries := by
  cases command with
  | named name =>
      simp only [Command.named.injEq, forall_eq', ← sound.named_is_ok_iff]
      cases found : registry.named name with
      | ok shape => simp [Command.run_named registry found]
      | error cause => simp [Command.run_unknown registry found]
  | lookup opcodes => simp [Command.run_lookup]
  | list category => simp [Command.run_list]
  | categories => simp [Command.run_categories]
  | help => simp [Command.run_help]

namespace CommandLine

/-- Whoever installs first is seen, and nobody sees the built-in registry behind an installation. -/
theorem seen_eq (shared : SharedRegistry) (registry : Registry) :
    seen shared registry = .ok (shared.registry.getD registry) := by
  rcases shared with ⟨_ | first⟩ <;> rfl

theorem registry_of_eq_ok_iff (config : Option Config) (registry : Registry) :
    registryOf config = .ok registry ↔ Makes config registry := by
  cases config with
  | none =>
      rw [registryOf, map_error_eq_ok_iff]
      constructor
      · intro built
        exact .builtin built
      · intro makes
        cases makes with
        | builtin built => exact built
  | some config =>
      rw [registryOf, map_error_eq_ok_iff]
      exact config.registry_eq_ok_iff registry

theorem prepare_eq_ok_iff (args : List String) (env : Config.Environment) (command : Command)
    (registry : Registry) :
    prepare args env = .ok (command, registry) ↔
      ∃ config, Command.parse args = .ok command ∧ env.Provides config ∧ Makes config registry := by
  simp only [prepare, bind_eq_ok_iff, map_error_eq_ok_iff, seen_eq, Except.ok.injEq,
    Option.getD_none, exists_eq_left', Config.load_eq_ok_iff, registry_of_eq_ok_iff, pure,
    Except.pure, Prod.mk.injEq]
  constructor
  · intro prepared
    obtain ⟨_, parsed, config, provides, _, makes, rfl, rfl⟩ := prepared
    exact ⟨config, parsed, provides, makes⟩
  · intro stages
    obtain ⟨config, parsed, provides, makes⟩ := stages
    exact ⟨command, parsed, config, provides, registry, makes, rfl, rfl⟩

/-- Nothing is written before a run is prepared, and then only the command writes. -/
theorem outcome_perform (args : List String) (env : Config.Environment) (written : String) :
    outcome (perform args env) written =
      match prepare args env with
      | .error chain => (.error chain, written)
      | .ok (command, registry) =>
        ((outcome (command.perform registry) written).1.mapError Command.RunError.chain,
          (outcome (command.perform registry) written).2) := by
  rw [perform, outcome_bind, outcome_of_except]
  cases prepare args env with
  | error chain => rfl
  | ok prepared =>
      obtain ⟨command, registry⟩ := prepared
      exact outcome_adapt_except Command.RunError.chain (command.perform registry) written

theorem run_unprepared {args : List String} {env : Config.Environment} {chain : List String}
    (unprepared : prepare args env = .error chain) : run args env = ⟨1, "", report chain⟩ := by
  rw [run, outcome_perform, unprepared]

theorem run_prepared {args : List String} {env : Config.Environment} {command : Command}
    {registry : Registry} (prepared : prepare args env = .ok (command, registry)) :
    run args env =
      match command.run registry with
      | .ok text => ⟨0, text, ""⟩
      | .error e => ⟨1, "", report e.chain⟩ := by
  rw [run, outcome_perform, prepared]
  dsimp only
  rw [Command.outcome_perform]
  cases command.run registry with
  | ok text =>
      dsimp only [Except.mapError]
      rw [String.empty_append]
  | error e => rfl

theorem run_code_eq_zero_iff (args : List String) (env : Config.Environment) :
    (run args env).code = 0 ↔
      ∃ command registry, prepare args env = .ok (command, registry) ∧
        command.run registry = .ok (run args env).stdout := by
  cases result : prepare args env with
  | error chain => simp [run_unprepared result]
  | ok prepared =>
      obtain ⟨command, registry⟩ := prepared
      rw [run_prepared result]
      cases ran : command.run registry <;> simp [ran]

theorem run_congr {args : List String} {env other : Config.Environment}
    (same : other.load = env.load) : run args other = run args env := by
  have prepared : prepare args other = prepare args env := by
    rw [prepare, prepare, same]
  rw [run, run, outcome_perform, outcome_perform, prepared]

theorem run_succeeds_iff (args : List String) (env : Config.Environment) :
    (run args env).code = 0 ↔
      ∃ command config registry, Command.parse args = .ok command ∧ env.Provides config ∧
        Makes config registry ∧
        ∀ name, command = .named name → name ∈ Entry.names registry.entries := by
  constructor
  · intro succeeds
    obtain ⟨command, registry, prepared, ran⟩ := (run_code_eq_zero_iff args env).mp succeeds
    obtain ⟨config, parsed, provides, makes⟩ := (prepare_eq_ok_iff ..).mp prepared
    have known := (command_runs_iff makes.sound command).mp ⟨_, ran⟩
    exact ⟨command, config, registry, parsed, provides, makes, known⟩
  · intro stages
    obtain ⟨command, config, registry, parsed, provides, makes, known⟩ := stages
    have prepared := (prepare_eq_ok_iff ..).mpr ⟨config, parsed, provides, makes⟩
    obtain ⟨text, ran⟩ := (command_runs_iff makes.sound command).mpr known
    rw [run_prepared prepared, ran]

theorem run_writes {args : List String} {env : Config.Environment} {command : Command}
    {config : Option Config} {registry : Registry} (parsed : Command.parse args = .ok command)
    (provides : env.Provides config) (makes : Makes config registry)
    (succeeds : (run args env).code = 0) : command.run registry = .ok (run args env).stdout := by
  obtain ⟨command', registry', prepared', ran⟩ := (run_code_eq_zero_iff args env).mp succeeds
  have prepared := (prepare_eq_ok_iff ..).mpr ⟨config, parsed, provides, makes⟩
  cases prepared.symm.trans prepared'
  exact ran

/-- A run that fails leaves nothing written, be it before its command or in it. -/
theorem run_fails_silently {args : List String} {env : Config.Environment}
    (fails : (run args env).code ≠ 0) : (run args env).stdout = "" := by
  cases result : prepare args env with
  | error chain => rw [run_unprepared result]
  | ok prepared =>
      obtain ⟨command, registry⟩ := prepared
      rw [run_prepared result] at fails ⊢
      cases ran : command.run registry with
      | ok text =>
          rw [ran] at fails
          exact absurd rfl fails
      | error e => rfl

/-- A run succeeds if and only if its arguments spell a command, the chosen file is absent or holds
a configuration, that configuration makes a registry, and the command asks for no name that is not
in this registry. It then writes exactly what the command writes on this registry, and if it fails
it writes nothing. Of the files it sees only the chosen one, so that an override that leads nowhere
is a run with the built-in registry, whatever stands below the home directory. -/
theorem run_all_or_nothing (args : List String) (env : Config.Environment) :
    ((run args env).code = 0 ↔
        ∃ command config registry, Command.parse args = .ok command ∧ env.Provides config ∧
          Makes config registry ∧
          ∀ name, command = .named name → name ∈ Entry.names registry.entries) ∧
      (∀ command config registry, Command.parse args = .ok command → env.Provides config →
        Makes config registry → (run args env).code = 0 →
          command.run registry = .ok (run args env).stdout) ∧
      ((run args env).code ≠ 0 → (run args env).stdout = "") ∧
      (∃ registry, Makes none registry) ∧
      (∀ files, (∀ path, env.path? = some path → files path = env.files path) →
        run args { env with files } = run args env) ∧
      (∀ path, env.override = some path → path ≠ "" →
        env.path? = some path ∧ (env.files path = none → run args env = run args {})) ∧
      (env.override = none ∨ env.override = some "" →
        env.path? =
          env.home.map fun home => Config.join (Config.join home ".blockshape") "config.toml") := by
  refine ⟨run_succeeds_iff args env, ?_, run_fails_silently, ?_, ?_, ?_, Config.home_path⟩
  · intro command config registry parsed provides makes succeeds
    exact run_writes parsed provides makes succeeds
  · rcases Catalogue.builds with ⟨registry, built⟩
    exact ⟨registry, .builtin built⟩
  · intro files same
    exact run_congr (Config.load_congr same)
  · intro path overridden given
    have chosen := Config.override_path overridden given
    refine ⟨chosen, ?_⟩
    intro missing
    apply run_congr
    rw [(Config.load_eq_ok_iff env none).mpr (.absent chosen missing),
      (Config.load_eq_ok_iff {} none).mpr (.nowhere rfl)]

def scannerText : String := "[[shapes]]\nname = \"SCAN\"\nopcode = \"scan_block\"\n"

def scannerConfig : Config where
  shapes := [⟨"SCAN", ⟨"scan_block", Flags.none, by decide⟩, .add⟩]

/-- An override leads to a block of its own. Below the home directory stands what cannot be read. -/
def scanner : Config.Environment where
  override := some "/etc/blocks.toml"
  home := some "/home/ann"
  files := fun path =>
    if path = "/etc/blocks.toml" then some (.regular scannerText.toUTF8)
    else if path = "/home/ann/.blockshape/config.toml" then some .directory
    else none

set_option maxRecDepth 4000 in
theorem scanner_provides : scanner.Provides (some scannerConfig) := by
  have decoded : String.fromUTF8? scannerText.toUTF8 = some scannerText := by decide +kernel
  have readable : Config.readText? (some (.regular scannerText.toUTF8)) = .ok scannerText := by
    rw [Config.readText?, decoded]
  have parsed : (Config.ofText scannerText).toOption = some scannerConfig := by decide +kernel
  cases result : Config.ofText scannerText with
  | error cause =>
      rw [result] at parsed
      cases parsed
  | ok config =>
      rw [result] at parsed
      cases parsed
      exact .loaded rfl rfl readable result

theorem scanner_runs :
    (run ["name", "SCAN"] scanner).stdout =
        Command.nameLine "SCAN" ⟨"scan_block", Flags.none, by decide⟩ ∧
      (run ["list"] { scanner with override := none }).stdout = "" ∧
      run ["name", "SCAN"] { scanner with override := some "/etc/nowhere.toml" } =
        run ["name", "SCAN"] {} := by
  have plain : scannerConfig.book.isOk = true := by decide +kernel
  rcases Config.exists_registry plain with ⟨registry, built⟩
  rcases Config.registry_entries built with ⟨sound, listed, _⟩
  have makes := (Config.registry_eq_ok_iff _ _).mp built
  have member : ⟨"SCAN", ⟨"scan_block", Flags.none, by decide⟩⟩ ∈ registry.entries := by
    rw [listed, List.mem_append]
    exact .inr (List.mem_singleton_self _)
  refine ⟨?_, ?_, ?_⟩
  · rcases run_all_or_nothing ["name", "SCAN"] scanner with ⟨succeeds, writes, _⟩
    have known : ∀ name, Command.named "SCAN" = .named name →
        name ∈ Entry.names registry.entries := by
      intro name same
      cases same
      exact List.mem_map_of_mem member
    have success := succeeds.mpr ⟨_, _, registry, rfl, scanner_provides, makes, known⟩
    have written := writes _ _ registry rfl scanner_provides makes success
    rw [Command.run_named registry ((sound.named_eq_ok_iff _ _).mpr member)] at written
    exact (Except.ok.inj written).symm
  · have refused : (Config.Environment.load { scanner with override := none }).isOk = false := by
      decide +kernel
    rcases run_all_or_nothing ["list"] { scanner with override := none } with
      ⟨succeeds, _, silent, _⟩
    apply silent
    intro success
    rcases succeeds.mp success with ⟨_, _, _, _, provides, _⟩
    rw [(Config.load_eq_ok_iff _ _).mpr provides] at refused
    cases refused
  · rcases run_all_or_nothing ["name", "SCAN"]
      { scanner with override := some "/etc/nowhere.toml" } with ⟨_, _, _, _, _, overridden, _⟩
    exact (overridden "/etc/nowhere.toml" rfl (by decide)).2 rfl

end CommandLine

end OpcodeShapes
