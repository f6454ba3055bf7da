import RegisterMachine.Machine.ByteConsole

/-!
# Folders

The files that a command can load. A path is a row of names between slashes; it
is followed name by name, from the working folder or, when it begins with a
slash, from the root. The first name that cannot be followed decides the fault.
Nothing is known about the folders around the working folder, and they count as
empty.
-/

namespace RegisterMachine
namespace Command

/-- Why the source text in a file cannot be loaded. -/
inductive LoadFault
  | notFound
  | notFolder
  | isFolder
  | nameTooLong
  | notText
  | other (details : String)
  deriving DecidableEq

namespace LoadFault

/-- The wording of a load fault. -/
def text : LoadFault → String
  | .notFound => "No such file or directory (os error 2)"
  | .notFolder => "Not a directory (os error 20)"
  | .isFolder => "Is a directory (os error 21)"
  | .nameTooLong => "File name too long (os error 36)"
  | .notText => notTextMessage
  | .other details => details

/-- The kind under which a load fault is reported. -/
def kind : LoadFault → Report.Kind
  | .notFound => .fileNotFound
  | _ => .fileError

/-- The report of a load fault. -/
def report (fault : LoadFault) (path : String) : Report where
  kind := fault.kind
  text := path ++ ": " ++ fault.text

end LoadFault

/-- A working folder: its files with their bytes, and the empty folders in it. -/
structure Folder where
  files : List (String × List UInt8)
  folders : List String := []
  deriving DecidableEq

/-- A place that a path can lead to. -/
inductive Place
  | outside
  | working
  | inner
  | file (bytes : List UInt8)
  deriving DecidableEq

/-- The greatest number of bytes in a name. -/
def longestName : Nat := 255

/-- The greatest number of bytes in a path. -/
def longestPath : Nat := 4095

/-- The names between the slashes of a path, after the reversed beginning of the first of them. -/
def pathNames (begun : List Char) : List Char → List String
  | [] => [String.ofList begun.reverse]
  | c :: cs =>
      if c = '/' then String.ofList begun.reverse :: pathNames [] cs
      else pathNames (c :: begun) cs

namespace Place

/-- The place around a place. -/
def parent : Place → Place
  | .inner => .working
  | _ => .outside

end Place

namespace Folder

/-- The place that a name stands for in the working folder. -/
def find (folder : Folder) (name : String) : Except LoadFault Place :=
  match folder.files.lookup name with
  | some bytes => .ok (.file bytes)
  | none => if name ∈ folder.folders then .ok .inner else .error .notFound

/-- Follow one name of a path. -/
def enter (folder : Folder) (place : Place) (name : String) : Except LoadFault Place :=
  match place with
  | .file _ => .error .notFolder
  | place =>
      if name = "" ∨ name = "." then .ok place
      else if name = ".." then .ok place.parent
      else if longestName < name.utf8ByteSize then .error .nameTooLong
      else if place = .working then folder.find name
      else .error .notFound

/-- The place that a path leads to. -/
def follow (folder : Folder) (path : String) : Except LoadFault Place :=
  if path = "" then .error .notFound
  else if longestPath < path.utf8ByteSize then .error .nameTooLong
  else
    let origin := if path.toList.head? = some '/' then Place.outside else Place.working
    (pathNames [] path.toList).foldlM folder.enter origin

/-- The source text in the file at a path. -/
def load (folder : Folder) (path : String) : Except LoadFault String := do
  match ← folder.follow path with
  | .file bytes =>
      match decodeText? bytes with
      | some source => .ok source
      | none => .error .notText
  | _ => .error .isFolder

end Folder
end Command
end RegisterMachine
