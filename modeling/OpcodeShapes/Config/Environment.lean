import OpcodeShapes.Config.Build
import OpcodeShapes.Toml.Document
import OpcodeShapes.Toml.Sound

/-!
# Finding and reading the configuration

The file is the one an override names, or else a fixed one below the home
directory. There need not be a file, but one that is there must be readable
text, well-formed and a configuration. Only the file at the chosen path is ever
looked at. Paths are text and are joined as text.
-/

namespace OpcodeShapes.Config

set_option autoImplicit false

inductive File where
  | regular (bytes : ByteArray)
  | directory
  /-- Something that is there but cannot be read, with the system's reason. -/
  | unreadable (reason : String)

/-- All that a run sees of its surroundings. An empty override counts as none. -/
structure Environment where
  override : Option String := none
  home : Option String := none
  files : String → Option File := fun _ => none

def directoryName : String := ".blockshape"

def fileName : String := "config.toml"

/-- One path below another. The separator is left out where there already is one, and below the
empty path. -/
def join (directory name : String) : String :=
  match directory.toList.getLast? with
  | none => name
  | some '/' => directory ++ name
  | some _ => directory ++ "/" ++ name

def Environment.path? (env : Environment) : Option String :=
  let ofHome := env.home.map fun home => join (join home directoryName) fileName
  match env.override with
  | some path => if path = "" then ofHome else some path
  | none => ofHome

inductive ReadError where
  | missing
  | directory
  | notText
  | refused (reason : String)
  deriving DecidableEq, Repr

def ReadError.message : ReadError → String
  | .missing => "No such file or directory (os error 2)"
  | .directory => "Is a directory (os error 21)"
  | .notText => "stream did not contain valid UTF-8"
  | .refused reason => reason

def readText? : Option File → Except ReadError String
  | none => .error .missing
  | some .directory => .error .directory
  | some (.unreadable reason) => .error (.refused reason)
  | some (.regular bytes) =>
    match String.fromUTF8? bytes with
    | some text => .ok text
    | none => .error .notText

inductive LoadCause where
  | unreadable (cause : ReadError)
  /-- The text is no well-formed document, or not a sound one. -/
  | malformed
  | undecodable (cause : DecodeError)
  deriving DecidableEq, Repr

structure LoadError where
  path : String
  cause : LoadCause
  deriving DecidableEq, Repr

/-- What went wrong, in one line. Where a malformed document goes wrong is not told. -/
def LoadError.message (e : LoadError) : String :=
  match e.cause with
  | .unreadable cause => "failed to read config at " ++ e.path ++ ": " ++ cause.message
  | .malformed => "failed to parse config at " ++ e.path
  | .undecodable cause => "failed to parse config at " ++ e.path ++ ": " ++ cause.message

def LoadError.chain (e : LoadError) : List String :=
  match e.cause with
  | .unreadable cause => [e.message, cause.message]
  | .malformed => [e.message]
  | .undecodable cause => [e.message, cause.message]

/-- Why a document is no configuration. One that is not sound counts as malformed, whatever else is
wrong with it. -/
def causeOf (document : Value) (cause : DecodeError) : LoadCause :=
  if Toml.isSoundDocument document then .undecodable cause else .malformed

/-- The configuration that a text holds. What stands for nothing does no harm where it is not read. -/
def ofText (text : String) : Except LoadCause Config :=
  match Toml.read? text with
  | none => .error .malformed
  | some v => (decode .toml v).mapError (causeOf v)

def ofFile (file : Option File) : Except LoadCause Config := do
  ofText (← (readText? file).mapError .unreadable)

def Environment.loadFrom (env : Environment) (path : String) : Except LoadError Config :=
  (ofFile (env.files path)).mapError fun cause => ⟨path, cause⟩

/-- The configuration of the chosen file. No place for a file, or no file there, is no error. -/
def Environment.load (env : Environment) : Except LoadError (Option Config) :=
  match env.path? with
  | none => .ok none
  | some path =>
    match env.files path with
    | none => .ok none
    | some _ => (env.loadFrom path).map some

end OpcodeShapes.Config
