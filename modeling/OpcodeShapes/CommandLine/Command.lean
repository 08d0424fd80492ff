import OpcodeShapes.Json.Printer
import OpcodeShapes.Registry.Basic

/-!
# Commands

What a registry can be asked from a terminal. `parse` reads a command off its
arguments and `render` gives the arguments of a command. A command writes lines
of text: objects in JSON with their members in key order, or fields with tabs
between them. Names and opcodes stand in those fields as they are, so a tab or
a line break inside one is not told apart from the ones between them.
-/

namespace OpcodeShapes

set_option autoImplicit false

inductive Command where
  | lookup (opcodes : List String)
  | named (name : String)
  | list (category : Option String)
  | categories
  | help
  deriving DecidableEq, Repr

namespace Command

def usage : String :=
  "usage: blockshape <command>\n\n" ++
  "commands:\n" ++
  "  lookup <opcode>...   print the shape of each opcode as JSON\n" ++
  "  name <NAME>          print the shape registered under NAME as JSON\n" ++
  "  list [category]      print NAME, opcode and attachability of every shape\n" ++
  "  categories           print the opcode categories\n" ++
  "  help                 print this message"

inductive ParseError where
  | noOpcode
  | unrecognized (word : String) (rest : List String)
  deriving DecidableEq, Repr

def ParseError.message : ParseError → String
  | .noOpcode => "lookup needs at least one opcode\n\n" ++ usage
  | .unrecognized word rest =>
    "unrecognized arguments: " ++ word ++ " " ++ " ".intercalate rest ++ "\n\n" ++ usage

def parse : List String → Except ParseError Command
  | [] => .ok .help
  | word :: rest =>
    match word, rest with
    | "lookup", [] => .error .noOpcode
    | "lookup", opcodes => .ok (.lookup opcodes)
    | "name", [name] => .ok (.named name)
    | "list", [] => .ok (.list none)
    | "list", [category] => .ok (.list (some category))
    | "categories", [] => .ok .categories
    | "help", _ => .ok .help
    | "--help", _ => .ok .help
    | "-h", _ => .ok .help
    | word, rest => .error (.unrecognized word rest)

def render : Command → List String
  | .lookup opcodes => "lookup" :: opcodes
  | .named name => ["name", name]
  | .list none => ["list"]
  | .list (some category) => ["list", category]
  | .categories => ["categories"]
  | .help => ["help"]

/-- A name that the registry does not know. -/
structure RunError where
  name : String
  cause : RegistryError
  deriving DecidableEq, Repr

def RunError.chain (e : RunError) : List String :=
  ("no shape named " ++ e.name) :: e.cause.chain

def jsonLine (members : List (String × Value)) : String :=
  Json.print (Value.object members).ordered ++ "\n"

/-- The answer to one opcode. An unknown one gets the fallback. -/
def lookupLine (registry : Registry) (opcode : String) : String :=
  let shape := registry.ofOpcode opcode
  jsonLine [
    ("query", .string opcode),
    ("known", .bool (registry.containsOpcode opcode)),
    ("attachable", shape.attachability.toValue),
    ("shape", shape.toValue)]

def nameLine (name : String) (shape : Shape) : String :=
  jsonLine [
    ("name", .string name),
    ("attachable", shape.attachability.toValue),
    ("shape", shape.toValue)]

def row (entry : Entry) : String :=
  entry.name ++ "\t" ++ entry.shape.opcode ++ "\t" ++ entry.shape.attachability.text ++ "\n"

def isListed (category : Option String) (entry : Entry) : Bool :=
  match category with
  | none => true
  | some category => entry.shape.category = category

/-- A command at work on what was written so far. Its text stays also if it fails behind it. -/
abbrev Writing := EStateM RunError String Unit

def write (text : String) : Writing := modify fun written => written ++ text

def writeAll (texts : List String) : Writing := texts.forM write

def perform (registry : Registry) : Command → Writing
  | .lookup opcodes => writeAll (opcodes.map (lookupLine registry))
  | .named name =>
    match registry.named name with
    | .ok shape => write (nameLine name shape)
    | .error cause => throw ⟨name, cause⟩
  | .list category => writeAll ((registry.entries.filter (isListed category)).map row)
  | .categories => writeAll (registry.categories.map (· ++ "\n"))
  | .help => write (usage ++ "\n")

def run (registry : Registry) (command : Command) : Except RunError String :=
  match outcome (command.perform registry) "" with
  | (.ok _, written) => .ok written
  | (.error e, _) => .error e

end Command

end OpcodeShapes
