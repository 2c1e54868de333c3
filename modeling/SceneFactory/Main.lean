import SceneFactory.CommandLine.Program

/-!
# Running the command line

Reads the files that the program wants, writes what it says, and ends with its exit
code.
-/

namespace SceneFactory.CommandLine

/-- The fault behind an error of the system. -/
def faultOf : IO.Error → Files.ReadFault
  | .noFileOrDirectory .. => .notFound
  | .noSuchThing .. => .notFound
  | .inappropriateType _ code _ => if code = 20 then .notDirectory else .isDirectory
  | .permissionDenied .. => .permissionDenied
  | e => .other (toString e)

/-- Reads a file as text. -/
def readText (path : String) : IO (Except Files.ReadFault String) := do
  if path.toList.contains '\x00' then return .error .zeroInPath
  try
    let bytes ← IO.FS.readBinFile path
    match String.fromUTF8? bytes with
    | some text => return .ok text
    | none => return .error .notText
  catch e => return .error (faultOf e)

/-- Runs a program on the files of the system. -/
def Program.execute : Program → IO Result
  | .done result => return result
  | .read path next => do (next (← readText path)).execute

end SceneFactory.CommandLine

/-- Runs the command line. -/
def main (arguments : List String) : IO UInt32 := do
  let result ← (SceneFactory.CommandLine.program arguments).execute
  IO.print result.output
  IO.eprint result.errors
  return UInt32.ofNat result.code
