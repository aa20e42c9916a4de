import PushdownLexer.Command.Run

/-!
# The program

Reads files and the environment, and writes what a run gives.
-/

namespace PushdownLexer

/-- Why the operating system could not read a file. -/
def ReadFault.ofSystem : IO.Error → ReadFault
  | .noFileOrDirectory .. => .missing
  | .inappropriateType _ 21 _ => .directory
  | .inappropriateType _ 20 _ => .notDirectory
  | .permissionDenied .. => .denied
  | .invalidArgument _ 36 _ => .longName
  | e => .other (toString e)

/-- The content of a file. -/
def readFile (path : String) : IO (Except ReadFault ByteArray) := do
  if path.contains '\x00' then return .error .nulInName
  else
    try
      return .ok (← IO.FS.readBinFile path)
    catch e =>
      return .error (ReadFault.ofSystem e)

end PushdownLexer

/-- Run the program. -/
def main (arguments : List String) : IO UInt32 := do
  let directives ← IO.getEnv "RUST_LOG"
  let result ← PushdownLexer.runCommand PushdownLexer.readFile directives arguments
  IO.print result.output
  IO.eprint result.errors
  return result.exitCode.toUInt32
