import OpcodeShapes.Registry.Draft

/-!
# Kinds of blocks

The few combinations of flags that the rows of the catalogue have.
-/

namespace OpcodeShapes.Catalogue

set_option autoImplicit false

def plain : Flags := Flags.none

def command : Flags := Flags.ofList [.stack]

def mouth : Flags := Flags.ofList [.stack, .cMouth]

def closedMouth : Flags := Flags.ofList [.stack, .cMouth, .cap]

def ending : Flags := Flags.ofList [.stack, .cap]

/-- Ends a stack or not, depending on what is chosen in its menu. -/
def doubtfulEnding : Flags := command.set .cap .indeterminate

def hat : Flags := Flags.ofList [.hat]

def reporter : Flags := Flags.ofList [.reporter]

def predicate : Flags := Flags.ofList [.reporter, .boolean]

/-- The shadow reporter of a menu. -/
def menu : Flags := Flags.ofList [.reporter, .menu]

end OpcodeShapes.Catalogue
