import Stylesheet.Text.Parts

/-!
# Folders and paths

Files are found by paths. A path is a list of names that are parted by slashes and followed one
after the other from a folder; an empty name or a point stays, and two points go up. Every name
but the last has to lead into a folder, and nothing but a folder can be followed further, not even
by an empty name. A name that is too long is refused when it is come to, and a path that is too
long before any of it is followed; both are measured in bytes of UTF-8.
-/

namespace Stylesheet

inductive Found where
  | file (bytes : List UInt8)
  | directory
  | missing
  /-- A file stands where the path goes on. -/
  | throughFile
  /-- The path is too long, or a name in it. -/
  | tooLong
deriving DecidableEq

/-- The files that a program can see, by path. -/
abbrev Files := String → Found

namespace Path

/-- The names of a path, the empty ones included. -/
def names (path : String) : List String :=
  (partsAt '/' path.toList).map String.ofList

def mostBytes : Nat := 4095

def mostBytesInName : Nat := 255

/-- A name that stays where it is. -/
def isIdle (name : String) : Bool :=
  name = "" || name = "."

/-- The slashes that a path starts with, where three or more mean one. -/
def root (path : String) : String :=
  match (path.toList.takeWhile (· = '/')).length with
  | 0 => ""
  | 2 => "//"
  | _ => "/"

/-- A path without the names that stay where they are. -/
def normal (path : String) : String :=
  match root path ++ "/".intercalate ((names path).filter fun n => !isIdle n) with
  | "" => "."
  | short => short

/-- The last name that goes anywhere. -/
def lastName (path : String) : String :=
  ((names path).filter fun n => !isIdle n).getLastD ""

end Path

/-- A folder with everything in it, each file and folder by the names that lead to it. What comes
later in the list replaces what came before. -/
structure Folder where
  entries : List (List String × Option (List UInt8))

namespace Folder

/-- The file or folder that these names lead to; folders on the way to something exist. -/
def at? (f : Folder) (names : List String) : Option (Option (List UInt8)) :=
  match f.entries.reverse.find? fun e => e.1 = names with
  | some e => some e.2
  | none => if f.entries.any fun e => names.isPrefixOf e.1 then some none else none

/-- Follows names from a place that holds nothing but the way up. -/
def followUp : List String → Found
  | [] => .directory
  | name :: names =>
    if Path.isIdle name || name = ".." then followUp names
    else if Path.mostBytesInName < name.utf8ByteSize then .tooLong
    else .missing

/-- Follows names from the folder that `here` leads to. Outside of the whole folder there is
nothing but the way up. -/
def follow (f : Folder) (here : List String) : List String → Found
  | [] => .directory
  | name :: names =>
    if Path.isIdle name then f.follow here names
    else if name = ".." then
      if here.isEmpty then followUp names else f.follow here.dropLast names
    else if Path.mostBytesInName < name.utf8ByteSize then .tooLong
    else
      match f.at? (here ++ [name]) with
      | none => .missing
      | some none => f.follow (here ++ [name]) names
      | some (some bytes) => if names.isEmpty then .file bytes else .throughFile

/-- What a path leads to from the folder. The folder knows nothing of paths from the root. -/
def look (f : Folder) : Files := fun path =>
  if path = "" then .missing
  else if Path.mostBytes < path.utf8ByteSize then .tooLong
  else if path.toList.head? = some '/' then followUp (Path.names path)
  else f.follow [] (Path.names path)

end Folder

end Stylesheet
