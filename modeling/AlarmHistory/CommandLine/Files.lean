/- Files as a command finds them by their paths. -/
namespace AlarmHistory.CommandLine

inductive FileFault where
  | notFound
  | denied
  | notFolder
  | isFolder
  | nameTooLong
  | notText
  | other (message : String)
  deriving DecidableEq, Repr

def FileFault.message : FileFault → String
  | notFound => "No such file or directory (os error 2)"
  | denied => "Permission denied (os error 13)"
  | notFolder => "Not a directory (os error 20)"
  | isFolder => "Is a directory (os error 21)"
  | nameTooLong => "File name too long (os error 36)"
  | notText => "stream did not contain valid UTF-8"
  | other message => message

/-- A folder that a command may run in. Its files are told by their paths from there, and of what
   lies outside only the empty device is known. -/
structure Folder where
  files : List (String × String)
  deriving DecidableEq, Repr

namespace Folder

abbrev Steps := List String

def maxName : Nat := 255

def maxPath : Nat := 4095

def emptyDevice : Steps := ["dev", "null"]

def systemFolders : List Steps := [[], ["dev"], ["etc"], ["tmp"], ["usr"]]

def steps (path : String) : Steps := path.splitOn "/"

def isStill (step : String) : Bool := step == "" || step == "."

/-- Beyond the folder; the place is known when the path began at the root. -/
def readOutside (place : Option Steps) : Steps → Except FileFault String
  | [] => if place.all systemFolders.contains then .error .isFolder else .error .notFound
  | step :: rest =>
    if isStill step then readOutside place rest
    else if step == ".." then readOutside (place.map List.dropLast) rest
    else if maxName < step.utf8ByteSize then .error .nameTooLong
    else
      match place.map (· ++ [step]) with
      | none => .error .notFound
      | some there =>
        if there == emptyDevice then (if rest.isEmpty then .ok "" else .error .notFolder)
        else if systemFolders.contains there then readOutside (some there) rest
        else .error .notFound

def readFrom (f : Folder) (place : Steps) : Steps → Except FileFault String
  | [] => .error .isFolder
  | step :: rest =>
    if isStill step then f.readFrom place rest
    else if step == ".." then
      if place.isEmpty then readOutside none rest else f.readFrom place.dropLast rest
    else if maxName < step.utf8ByteSize then .error .nameTooLong
    else
      let there := place ++ [step]
      match f.files.find? fun (name, _) => steps name == there with
      | some (_, text) => if rest.isEmpty then .ok text else .error .notFolder
      | none =>
        if f.files.any fun (name, _) => there.isPrefixOf (steps name) then f.readFrom there rest
        else .error .notFound

def read (f : Folder) (path : String) : Except FileFault String :=
  if path == "" then .error .notFound
  else if maxPath < path.utf8ByteSize then .error .nameTooLong
  else
    match steps path with
    | "" :: rest => readOutside (some []) rest
    | ss => f.readFrom [] ss

end Folder
end AlarmHistory.CommandLine
