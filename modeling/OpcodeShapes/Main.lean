import OpcodeShapes.CommandLine.Process

/-!
# The program

Reads the surroundings of a run and writes what the run answers. The file is
read once, at the path that the run will choose.
-/

namespace OpcodeShapes.CommandLine

def reasonOf : IO.Error → String
  | .permissionDenied _ code details => details ++ " (os error " ++ toString code ++ ")"
  | e => toString e

def isThere (path : String) : IO Bool := do
  try
    discard (IO.FS.realPath path)
    return true
  catch _ => return false

/-- What is at a path. A path that leads nowhere and one that cannot be followed count the same. -/
def readFile (path : String) : IO (Option Config.File) := do
  try
    return some (.regular (← IO.FS.readBinFile path))
  catch
    | .inappropriateType _ 21 _ => return some .directory
    | e => return if ← isThere path then some (.unreadable (reasonOf e)) else none

end OpcodeShapes.CommandLine

open OpcodeShapes in
def main (args : List String) : IO UInt32 := do
  let override ← IO.getEnv "BLOCKSHAPE_CONFIG"
  let home := (← IO.getEnv "HOME").filter (· ≠ "")
  let place : Config.Environment := { override, home }
  let file ← match place.path? with
    | some path => CommandLine.readFile path
    | none => pure none
  let outcome := CommandLine.run args { place with files := fun _ => file }
  (← IO.getStdout).putStr outcome.stdout
  (← IO.getStderr).putStr outcome.stderr
  return outcome.code
