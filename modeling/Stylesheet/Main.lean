import Stylesheet.CommandLine.Arguments

/-!
# The command

What is left to do outside: to look at the files that the arguments name, and to write what the
program says.
-/

namespace Stylesheet

/-- What is found at a path. Of something that is no file at all, a folder can still be opened; a
path that the system does not take for one is too long. -/
def lookAt (path : String) : IO Found := do
  match ← (IO.FS.readBinFile path).toBaseIO with
  | .ok bytes => return .file bytes.toList
  | .error (.inappropriateType (some _) _ _) => return .throughFile
  | .error (.inappropriateType none _ _) => return .directory
  | .error (.invalidArgument ..) => return .tooLong
  | .error _ => return .missing

/-- The files at these paths, and at the same paths in short. -/
def filesAt (paths : List String) : IO Files := do
  let seen ← (paths ++ paths.map Path.normal).mapM fun path => return (path, ← lookAt path)
  return fun path => (seen.lookup path).getD .missing

end Stylesheet

open Stylesheet in
def main (arguments : List String) : IO UInt32 := do
  let files ← filesAt arguments
  let o := CommandLine.run (CommandLine.understand files) files arguments
  IO.print o.output
  IO.eprint o.errors
  match o.crash with
  | some c => IO.eprintln c.message
  | none => pure ()
  return UInt32.ofNat o.exitCode
