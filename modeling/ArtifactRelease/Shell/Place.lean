import ArtifactRelease.Number.Decimal
import ArtifactRelease.Shell.Account
import ArtifactRelease.Shell.Octets
import ArtifactRelease.Text.Lines

/-!
# Places in a file system

The file system that children see: the directories, programs and files that every machine has, and
the files that they make themselves.  A path is walked one name at a time, as far as every name but
the last leads to a directory.
-/

namespace ArtifactRelease.Shell

open ArtifactRelease.Text

/-- A path from the root, cut at the slashes. -/
abbrev Path := List String

namespace Path

def text (path : Path) : String :=
  "/" ++ "/".intercalate path

/-- One name further, by the names alone. -/
def walk (path : Path) : (name : String) → Path
  | "" | "." => path
  | ".." => path.dropLast
  | name => path ++ [name]

end Path

def programNames : List String :=
  ["awk", "basename", "cat", "cut", "dash", "dirname", "echo", "expr", "false", "grep", "head",
    "ls", "mawk", "mkdir", "od", "printf", "pwd", "rm", "sed", "seq", "sh", "sleep", "sort", "tail",
    "tee", "test", "touch", "tr", "true", "uniq", "wc", "yes", "["]

inductive Place where
  | directory
  | program (name : String)
  | file (content : List UInt8)
  /-- A file that stands for something else. -/
  | device (name : String)
  /-- A file that stands for an open descriptor. -/
  | descriptor (number : Nat)
  | missing
  deriving Repr, DecidableEq

inductive PathProblem where
  | missing
  | notDirectory
  | nameTooLong
  deriving Repr, DecidableEq

structure FileSystem where
  /-- Directories and files that were made, the latest first. -/
  made : List (Path × Place) := []
  deriving Repr

namespace FileSystem

def directories : List Path :=
  [[], ["boot"], ["dev"], ["dev", "fd"], ["etc"], ["home"], ["media"], ["mnt"], ["opt"], ["proc"],
    ["proc", "self"], ["proc", "self", "fd"], ["root"], ["run"], ["srv"], ["sys"], ["tmp"], ["usr"], ["usr", "bin"], ["usr", "lib"], ["usr", "local"],
    ["usr", "local", "bin"], ["usr", "sbin"], ["usr", "share"], ["var"], ["var", "log"],
    ["var", "tmp"]]

/-- Names in the root that lead to directories elsewhere. -/
def linked : List String := ["bin", "lib", "sbin"]

def files : List (Path × String) :=
  [(["etc", "group"], ""), (["etc", "hostname"], ""), (["etc", "hosts"], ""),
    (["etc", "passwd"], accountTable)]

def devices : List String :=
  ["null", "zero", "full"]

/-- The names of the descriptors that every process has. -/
def descriptorNames : List (String × Nat) :=
  [("stdin", 0), ("stdout", 1), ("stderr", 2)]

/-- The place with a number as its name among the descriptors. -/
def descriptorPlace (name : String) : Place :=
  if name.toList.all Char.isDigit then .descriptor (Number.ofDigits name.toList) else .missing

def place (system : FileSystem) (path : Path) : Place :=
  match system.made.find? (·.1 = path) with
  | some (_, place) => place
  | none =>
    if path ∈ directories then .directory
    else match files.find? (·.1 = path) with
      | some (_, content) => .file (bytesOf content.toList)
      | none =>
        match path with
        | ["usr", "bin", name] => if name ∈ programNames then .program name else .missing
        | ["dev", name] =>
          if name ∈ devices then .device name
          else match descriptorNames.find? (·.1 = name) with
            | some (_, number) => .descriptor number
            | none => .missing
        | ["dev", "fd", name] | ["proc", "self", "fd", name] => descriptorPlace name
        | _ => .missing

def maxName : Nat := 255

def maxPath : Nat := 4095

def enter (system : FileSystem) (path : Path) (name : String) : Except PathProblem Path :=
  match system.place path with
  | .directory =>
    if name = "" || name = "." then .ok path
    else if name = ".." then .ok path.dropLast
    else if maxName < name.length then .error .nameTooLong
    else if path.isEmpty && name ∈ linked then .ok ["usr", name]
    else .ok (path ++ [name])
  | .missing => .error .missing
  | _ => .error .notDirectory

/-- The path that a text names, seen from a directory. -/
def locate (system : FileSystem) (directory : Path) (text : String) : Except PathProblem Path :=
  if text.isEmpty then .error .missing
  else if maxPath < text.length then .error .nameTooLong
  else
    let start := if text.toList.head? = some '/' then [] else directory
    (start ++ pieces '/' text).foldlM system.enter []

/-- A text without the slashes at its end. -/
def trimSlashes (text : List Char) : List Char :=
  (text.reverse.dropWhile (· = '/')).reverse

/-- The path for something new, the name of which may end in slashes if it is a directory. -/
def locateNew (system : FileSystem) (directory : Path) (text : String) : Except PathProblem Path :=
  let trimmed := trimSlashes text.toList
  system.locate directory (if trimmed.isEmpty then text else String.ofList trimmed)

/-- Whether the slashes at the end of a text ask for a directory where none is. -/
def wantsDirectory (system : FileSystem) (directory : Path) (text : String) : Bool :=
  text.toList.getLast? = some '/' && match system.locateNew directory text with
    | .ok path => system.place path ≠ .directory
    | .error _ => false

def linkedPrograms : List (String × String) := [("awk", "mawk"), ("sh", "dash")]

/-- The path at the end of the links that start at a path. -/
def unlinked : Path → Path
  | ["usr", "bin", name] =>
    ["usr", "bin", ((linkedPrograms.find? (·.1 = name)).map (·.2)).getD name]
  | path => path

/-- Whether a text names a link, seen from a directory. -/
def isLink (system : FileSystem) (directory : Path) (text : String) : Bool :=
  let names := (directory ++ pieces '/' text).filter (!·.isEmpty)
  let names := if text.toList.head? = some '/' then (pieces '/' text).filter (!·.isEmpty)
    else names
  match names.dropLast.foldlM system.enter [], names.getLast? with
  | .ok path, some name =>
    text.toList.getLast? ≠ some '/' && match path with
      | [] => name ∈ linked
      | ["usr", "bin"] => linkedPrograms.any (·.1 = name)
      | ["dev"] => name = "fd" || descriptorNames.any (·.1 = name)
      | _ => false
  | _, _ => false

/-- What a text names, seen from a directory. -/
def find (system : FileSystem) (directory : Path) (text : String) : Except PathProblem Place :=
  (system.locate directory text).map system.place

def set (system : FileSystem) (path : Path) (place : Place) : FileSystem :=
  ⟨(path, place) :: system.made.filter (·.1 ≠ path)⟩

/-- The names in a directory, as far as they are known. -/
def names (system : FileSystem) (directory : Path) : List String :=
  let given := directories ++ files.map (·.1) ++ programNames.map (["usr", "bin", ·])
    ++ (devices ++ descriptorNames.map (·.1)).map (["dev", ·]) ++ linked.map ([·])
  let known := (system.made.map (·.1) ++ given).filter fun path =>
    !path.isEmpty && path.dropLast = directory
      && (system.place path ≠ .missing || path ∈ linked.map ([·]))
  (known.filterMap (·.getLast?)).eraseDups.mergeSort (· ≤ ·)

end FileSystem

end ArtifactRelease.Shell
