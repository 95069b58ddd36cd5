import Stylesheet.Encoding.Name
import Stylesheet.Folder
import Stylesheet.Run
import Stylesheet.Text.Newline

/-!
# Sources in files

A sheet can be read from a file in any of the encodings. The file is opened before the name of the
encoding is looked at, all of it is decoded before any of it is parsed, and the parsed text has
line feeds for all its line ends.
-/

namespace Stylesheet

inductive Unreadable where
  | nullInEncoding
  | nullInPath
  | missing (path : String)
  | directory (path : String)
  | throughFile (path : String)
  | tooLong (path : String)
  | badEncoding (b : Encoding.BadName)
  | undecodable (u : Encoding.Undecodable)
deriving DecidableEq

def Unreadable.message : Unreadable → String
  | nullInEncoding => "embedded null character"
  | nullInPath => "embedded null byte"
  | missing path =>
    "[Errno 2] No such file or directory: " ++ String.ofList (quoted path.toList)
  | directory path => "[Errno 21] Is a directory: " ++ String.ofList (quoted path.toList)
  | throughFile path => "[Errno 20] Not a directory: " ++ String.ofList (quoted path.toList)
  | tooLong path => "[Errno 36] File name too long: " ++ String.ofList (quoted path.toList)
  | badEncoding b => b.message
  | undecodable u => u.message

def hasNull (s : String) : Bool :=
  s.toList.contains '\x00'

def readBytes (files : Files) (path : String) : Except Unreadable (List UInt8) :=
  let path := Path.normal path
  if hasNull path then .error .nullInPath
  else
    match files path with
    | .file bytes => .ok bytes
    | .directory => .error (.directory path)
    | .missing => .error (.missing path)
    | .throughFile => .error (.throughFile path)
    | .tooLong => .error (.tooLong path)

def readSource (files : Files) (path encoding : String) : Except Unreadable (List Char) := do
  if hasNull encoding then throw .nullInEncoding
  let bytes ← readBytes files path
  let encoding ← (Encoding.ofName encoding).mapError .badEncoding
  return unifyNewlines (← (encoding.decode bytes).mapError .undecodable)

def Sheet.runFile (files : Files) (path encoding : String) : Except Unreadable Run :=
  (readSource files path encoding).map Sheet.run

end Stylesheet
