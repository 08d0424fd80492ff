import OpcodeShapes.CommandLine.Command
import OpcodeShapes.Config.Environment
import OpcodeShapes.Registry.Shared

/-!
# A run of the program

A run is a function of its arguments and its surroundings. The arguments are
read first, then the configuration, then the registry is built and installed as
the one of the process, then the command is carried out on the registry of the
process. What the command has written by then stays written if it fails.
Writing itself is taken to succeed.
-/

namespace OpcodeShapes.CommandLine

set_option autoImplicit false

structure Outcome where
  code : UInt32
  stdout : String
  stderr : String
  deriving DecidableEq, Repr

def pieces : List Char → List (List Char)
  | [] => [[]]
  | c :: rest =>
    if c = '\n' then [] :: pieces rest
    else
      match pieces rest with
      | [] => [[c]]
      | piece :: more => (c :: piece) :: more

/-- A text whose first line begins with `first` and whose other lines begin with `next`. -/
def indented (first next text : String) : String :=
  first ++ ("\n" ++ next).intercalate ((pieces text.toList).map String.ofList)

def numbered (number : Nat) (cause : String) : String :=
  let digits := toString number
  indented (String.ofList (List.replicate (5 - digits.length) ' ') ++ digits ++ ": ") "       " cause

/-- The causes below an error: a single one is only indented, several are numbered from zero. -/
def causesText (causes : List String) : String :=
  match causes with
  | [] => ""
  | [cause] => "\n\nCaused by:\n" ++ indented "    " "    " cause
  | _ =>
    "\n\nCaused by:\n" ++
      "\n".intercalate (causes.mapIdx numbered)

def report (chain : List String) : String :=
  "Error: " ++ chain.headD "" ++ causesText chain.tail ++ "\n"

def registryOf (config : Option Config) : Except (List String) Registry :=
  match config with
  | none =>
    Catalogue.registry.mapError fun e => "built-in catalogue failed to register" :: e.chain
  | some config =>
    config.registry.mapError fun e =>
      "configured shapes do not fit the built-in catalogue" :: e.chain

/-- The registry that the commands of a process see if it installs one. Whether the cell took it is
not asked. -/
def seen (shared : SharedRegistry) (registry : Registry) : Except RegistryError Registry :=
  (outcome SharedRegistry.current (outcome (SharedRegistry.install registry) shared).2).1

/-- The command of a run and the registry that it sees, or the chain of the error that ends the run
before. A run begins with an empty cell. -/
def prepare (args : List String) (env : Config.Environment) :
    Except (List String) (Command × Registry) := do
  let command ← (Command.parse args).mapError fun e => [e.message]
  let config ← env.load.mapError fun e => "failed to load config" :: e.chain
  let built ← registryOf config
  let registry ← (seen {} built).mapError RegistryError.chain
  return (command, registry)

def perform (args : List String) (env : Config.Environment) : EStateM (List String) String Unit := do
  let (command, registry) ← MonadExcept.ofExcept (prepare args env)
  (command.perform registry).adaptExcept Command.RunError.chain

def run (args : List String) (env : Config.Environment) : Outcome :=
  match outcome (perform args env) "" with
  | (.ok _, written) => ⟨0, written, ""⟩
  | (.error chain, written) => ⟨1, written, report chain⟩

end OpcodeShapes.CommandLine
