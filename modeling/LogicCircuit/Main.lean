import LogicCircuit.CommandLine.Command

/-!
# The program

Gives the command its arguments and its file, and writes what it leaves.
-/

namespace LogicCircuit.CommandLine

/-- What is found at a path. A file that cannot be opened counts as missing. -/
def FileContent.ofPath (path : String) : IO FileContent := do
  try
    return .bytes (← IO.FS.readBinFile path)
  catch _ =>
    return .missing

/-- Runs the command on the files of the system. -/
def execute (arguments : List String) : IO UInt32 := do
  let content ← match Arguments.read arguments with
    | .ok found => FileContent.ofPath found.path
    | .error _ => pure .missing
  let outcome := run arguments fun _ => content
  (← IO.getStdout).putStr outcome.stdout
  (← IO.getStderr).putStr outcome.stderr
  return outcome.code.toUInt32

end LogicCircuit.CommandLine

def main (arguments : List String) : IO UInt32 :=
  LogicCircuit.CommandLine.execute arguments
