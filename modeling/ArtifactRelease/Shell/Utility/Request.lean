import ArtifactRelease.Shell.Format
import ArtifactRelease.Shell.Machine
import ArtifactRelease.Shell.Utility.Quotation

/-!
# What small programs are given and what they give

A small program is a function of its arguments, its input and the file system.
-/

namespace ArtifactRelease.Shell

/-- Why nothing is read under a name: it could not be opened, or it could but nothing comes from
it. -/
inductive ReadFault where
  | absent (reason : String)
  | broken (reason : String)
  deriving Repr, DecidableEq

def ReadFault.reason : ReadFault → String
  | absent reason | broken reason => reason

def isDirectoryReason : String := "Is a directory"

/-- The reason where there is nothing behind a descriptor. -/
def closedReason : String := "Bad file descriptor"

structure Request where
  /-- What the program was called as. -/
  name : String
  arguments : List String
  input : Content
  /-- The variables that are handed on. -/
  environment : List (String × String)
  directory : Path
  system : FileSystem
  /-- The file that is the input, and where in it that goes on. -/
  inputFile : Option (Path × Nat) := none
  outputFile : Option Path := none
  /-- What can be read from other descriptors that arguments name. -/
  opened : List (Nat × Content) := []
  /-- Why nothing can be read from the input, if that is so. -/
  inputFault : Option String := none
  /-- Whether there is no input at all. -/
  inputIsClosed : Bool := false
  /-- How the program is called, where complaints say so. -/
  usage : Option String := none

structure Response where
  output : Content := {}
  errors : List String := []
  /-- What goes to the error stream as it is. -/
  copied : List UInt8 := []
  status : Nat := 0
  /-- How long the program takes. -/
  delay : Time := 0
  /-- The file system, if it was changed. -/
  system : Option FileSystem := none
  /-- Whether the program was through before the end of its input. -/
  stopped : Bool := false
  /-- How many bytes at the end of the input it leaves to others, if the input is a file. -/
  left : Nat := 0

abbrev Utility := Request → Response

namespace Utility

def text (text : List Char) : Content :=
  { bytes := bytesOf text }

def reason : PathProblem → String
  | .missing => "No such file or directory"
  | .notDirectory => "Not a directory"
  | .nameTooLong => "File name too long"

/-- An argument of a command line, taken apart. -/
inductive Part where
  | option (letter : Char) (value : String)
  /-- An option without its value. -/
  | bare (letter : Char)
  /-- An option that is spelled out. -/
  | long (name : String)
  | operand (text : String)
  deriving Repr, DecidableEq

/-- Takes arguments apart.  The letters in `valued` need a value; options may stand anywhere in
front of two hyphens. -/
def parts (valued : List Char) : (fuel : Nat) → List String → List Part
  | 0, _ => []
  | _, [] => []
  | _, "--" :: rest => rest.map .operand
  | fuel + 1, argument :: rest =>
    match argument.toList with
    | '-' :: '-' :: name => .long (String.ofList name) :: parts valued fuel rest
    | '-' :: letter :: letters =>
      if letter ∈ valued then
        match letters, rest with
        | [], value :: rest => .option letter value :: parts valued fuel rest
        | [], [] => [.bare letter]
        | _, rest => .option letter (String.ofList letters) :: parts valued fuel rest
      else
        let rest := if letters.isEmpty then rest else String.ofList ('-' :: letters) :: rest
        .option letter "" :: parts valued fuel rest
    | _ => .operand argument :: parts valued fuel rest

def number? (text : String) : Option Nat :=
  let digits := text.toList
  if !digits.isEmpty && digits.all Char.isDigit then some (Number.ofDigits digits) else none

def signed? (text : String) : Option Int :=
  match text.toList with
  | '-' :: digits => (number? (String.ofList digits)).map fun number => -(number : Int)
  | '+' :: digits => (number? (String.ofList digits)).map fun number => (number : Int)
  | _ => (number? text).map fun number => (number : Int)

/-- Whether a text comes before another or is equal to it, byte by byte. -/
def inOrder : List UInt8 → List UInt8 → Bool
  | [], _ => true
  | _ :: _, [] => false
  | first :: left, second :: right =>
    first.toNat < second.toNat || (first = second && inOrder left right)

/-- The lines of bytes, each with its end. -/
def linesOf (bytes : List UInt8) : List (List UInt8) :=
  bytes.foldr (fun byte lines =>
    if byte = 0x0A then [byte] :: lines
    else match lines with
      | [] => [[byte]]
      | line :: later => (byte :: line) :: later) []

/-- The bytes of a line without its end. -/
def unended (line : List UInt8) : List UInt8 :=
  line.filter (· ≠ 0x0A)

def lineText (lines : List (List UInt8)) : Content :=
  { bytes := lines.flatMap (· ++ [0x0A]) }

def alignedText (width : Nat) (text : String) : String :=
  String.ofList (List.replicate (width - text.length) ' ') ++ text

def aligned (width : Nat) (number : Nat) : String :=
  alignedText width (toString number)

def joinContents (contents : List Content) : Content :=
  contents.foldr (fun first rest =>
    if first.endless.isEmpty then { rest with bytes := first.bytes ++ rest.bytes } else first) {}

end Utility

structure OptionTable where
  flags : List Char := []
  /-- Options with a value. -/
  valued : List Char := []
  /-- Options that are spelled out, with their letters. -/
  names : List (String × Char) := []
  /-- The status for a command line that is not understood. -/
  status : Nat := 1

namespace Request

def inputContent (request : Request) : Except ReadFault Content :=
  match request.inputFault with
  | some reason => .error (.broken reason)
  | none => .ok request.input

/-- What can be read under a name; a hyphen is the input. -/
def content (request : Request) (name : String) : Except ReadFault Content :=
  if name = "-" then request.inputContent
  else match request.system.find request.directory name with
    | .ok (.file content) => .ok { bytes := content }
    | .ok .directory => .error (.broken isDirectoryReason)
    | .ok (.device "zero") | .ok (.device "full") => .ok { endless := [0] }
    | .ok (.device _) => .ok {}
    | .ok (.descriptor 0) => request.inputContent
    | .ok (.descriptor number) =>
      match request.opened.find? (·.1 = number) with
      | some (_, content) => .ok content
      | none => .error (.absent (Utility.reason .missing))
    | .ok (.program _) => .ok {}
    | .ok .missing => .error (.absent (Utility.reason .missing))
    | .error problem => .error (.absent (Utility.reason problem))

def descriptor? (request : Request) (name : String) : Option Nat :=
  match request.system.find request.directory name with
  | .ok (.descriptor number) => some number
  | _ => none

def hint (request : Request) : String :=
  s!"Try '{request.name} --help' for more information."

/-- Fails with a complaint about how the program was called. -/
def misused (request : Request) (status : Nat) (complaint : String) : Response :=
  { errors := s!"{request.name}: {complaint}" :: request.usage.toList ++ [request.hint], status }

/-- Turns options that are spelled out into those with a letter.  The start of a name is enough, if
it belongs to no other. -/
def abbreviated (names : List (String × Char)) : List String → List String
  | [] => []
  | "--" :: rest => "--" :: rest
  | argument :: rest =>
    let short := match argument.toList with
      | '-' :: '-' :: spelled =>
        let name := spelled.takeWhile (· ≠ '=')
        let value := String.ofList ((spelled.drop name.length).drop 1)
        let fitting := names.filter fun entry => name.isPrefixOf entry.1.toList
        match fitting.find? (·.1.toList = name), fitting with
        | some (_, letter), _ => s!"-{letter}{value}"
        | none, [(_, letter)] => s!"-{letter}{value}"
        | none, _ => argument
      | _ => argument
    short :: abbreviated names rest

/-- Answers by the options and the other arguments, if there are no options but the known ones. -/
def withOptions (request : Request) (known : OptionTable)
    (answer : List (Char × String) → List String → Response) : Response :=
  let arguments := abbreviated known.names request.arguments
  let fuel := (" ".intercalate arguments).length + 1
  let parts := Utility.parts known.valued fuel arguments
  let complaint? : Utility.Part → Option String
    | .option letter _ =>
      if letter ∈ known.flags ++ known.valued then none else some s!"invalid option -- '{letter}'"
    | .bare letter => some s!"option requires an argument -- '{letter}'"
    | .long name => some s!"unrecognized option '--{name}'"
    | .operand _ => none
  match parts.findSome? complaint? with
  | some complaint => request.misused known.status complaint
  | none =>
    answer
      (parts.filterMap fun part => match part with
        | .option letter value => some (letter, value)
        | _ => none)
      (parts.filterMap fun part => match part with
        | .operand text => some text
        | _ => none)

/-- The path of a file that is also the output, and how much of it has been read. -/
def ownOutput? (request : Request) (name : String) : Option (Path × Nat) :=
  let source := if name = "-" then request.inputFile
    else (request.system.locate request.directory name).toOption.map (·, 0)
  source.filter fun (path, _) => request.outputFile = some path

/-- The contents of the named files, or of the input, with the complaints about those that cannot
be read. -/
def contents (request : Request) (names : List String)
    (complaint : String → ReadFault → String) : List Content × List String :=
  let names := if names.isEmpty then ["-"] else names
  -- the input is there only once
  let content (index : Nat) (name : String) : Except ReadFault Content :=
    let repeated : Bool := name = "-" && (names.take index).contains "-"
    if repeated && request.inputFault.isNone then .ok {} else request.content name
  let results := (List.zip (List.range names.length) names).map fun (index, name) =>
    (name, content index name)
  (results.filterMap fun (_, result) => result.toOption,
    results.filterMap fun (name, result) => match result with
      | .error fault => some (complaint name fault)
      | .ok _ => none)

def plainComplaint (request : Request) (name : String) (fault : ReadFault) : String :=
  s!"{request.name}: {shownName name}: {fault.reason}"

/-- What is said in the end of an input that was to be read and could not be closed. -/
def closingComplaint (request : Request) (names : List String) (title : String) : List String :=
  if (names.isEmpty || names.contains "-") && request.inputIsClosed then
    [s!"{request.name}: {title}: {closedReason}"]
  else []

end Request

namespace Utility

def store (request : Request) (system : FileSystem) (name : String) (bytes : List UInt8)
    (appends : Bool) : FileSystem :=
  match system.locate request.directory name with
  | .ok path =>
    match system.place path with
    | .file old => system.set path (.file (if appends then old ++ bytes else bytes))
    | .missing => system.set path (.file bytes)
    | _ => system
  | .error _ => system

end Utility

end ArtifactRelease.Shell
