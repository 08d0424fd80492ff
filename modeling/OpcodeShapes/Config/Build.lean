import OpcodeShapes.Catalogue.Builtin
import OpcodeShapes.Config.Decoder

/-!
# Building what is configured

The changes of a configuration go onto the built-in catalogue in the order of
the file, under its strictness. The designated fallback stays the same entry: a
configuration can change its shape but not choose another.
-/

namespace OpcodeShapes.Config

set_option autoImplicit false

def apply (config : Config) : Registration Unit := Draft.change config.shapes

def registry (config : Config) : Except RegistryError Registry := do
  let draft ← Catalogue.draft config.strict
  let (answer, draft) := outcome config.apply draft
  answer
  draft.build

end OpcodeShapes.Config
