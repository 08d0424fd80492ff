import OpcodeShapes.CommandLine.Command
import OpcodeShapes.Proofs.Steps

/-!
# What a command writes

A command puts its text behind what was written before and looks at none of it.
The only command that can fail asks for the shape first and writes afterwards,
so when it fails it has written nothing.
-/

namespace OpcodeShapes.Command

set_option autoImplicit false

theorem outcome_write (text written : String) :
    outcome (write text) written = (.ok (), written ++ text) := rfl

theorem outcome_write_all (texts : List String) (written : String) :
    outcome (writeAll texts) written = (.ok (), written ++ String.join texts) := by
  induction texts generalizing written with
  | nil =>
      rw [String.join_nil, String.append_empty]
      rfl
  | cons first rest ih =>
      rw [writeAll, outcome_batch_cons, outcome_write, String.join_cons, ← String.append_assoc]
      exact ih (written ++ first)

variable (registry : Registry)

theorem run_lookup (opcodes : List String) :
    run registry (.lookup opcodes) = .ok (String.join (opcodes.map (lookupLine registry))) := by
  rw [run, perform, outcome_write_all, String.empty_append]

theorem run_named {name : String} {shape : Shape} (found : registry.named name = .ok shape) :
    run registry (.named name) = .ok (nameLine name shape) := by
  rw [run, perform, found]
  dsimp only
  rw [outcome_write, String.empty_append]

theorem run_unknown {name : String} {cause : RegistryError}
    (unknown : registry.named name = .error cause) :
    run registry (.named name) = .error ⟨name, cause⟩ := by
  rw [run, perform, unknown]
  rfl

theorem run_list (category : Option String) :
    run registry (.list category) =
      .ok (String.join ((registry.entries.filter (isListed category)).map row)) := by
  rw [run, perform, outcome_write_all, String.empty_append]

theorem run_categories :
    run registry .categories = .ok (String.join (registry.categories.map (· ++ "\n"))) := by
  rw [run, perform, outcome_write_all, String.empty_append]

theorem run_help : run registry .help = .ok (usage ++ "\n") := by
  rw [run, perform, outcome_write, String.empty_append]

/-- Whatever was written before, a command that fails leaves it as it is. -/
theorem outcome_perform (command : Command) (written : String) :
    outcome (command.perform registry) written =
      match command.run registry with
      | .ok text => (.ok (), written ++ text)
      | .error e => (.error e, written) := by
  cases command with
  | lookup opcodes => rw [run_lookup, perform, outcome_write_all]
  | named name =>
      cases found : registry.named name with
      | ok shape =>
          rw [run_named registry found, perform, found]
          rfl
      | error cause =>
          rw [run_unknown registry found, perform, found]
          rfl
  | list category => rw [run_list, perform, outcome_write_all]
  | categories => rw [run_categories, perform, outcome_write_all]
  | help => rw [run_help, perform, outcome_write]

end OpcodeShapes.Command
