import ArtifactRelease.Shell.Utility.Files
import ArtifactRelease.Shell.Utility.Sed.Editor
import ArtifactRelease.Shell.Utility.Sed.Reader

/-!
# The editor as a program

The script comes from options or is the first argument; the other arguments are files.  The lines
go to the output, or back into the files.
-/

namespace ArtifactRelease.Shell

namespace Sed

/-- A part of the script, as it was given. -/
structure ScriptPart where
  /-- The file that it comes from, if it does. -/
  file : Option String := none
  text : List Char

/-- A place in a part of the script; `number` counts the parts that are no files. -/
def ScriptPart.place (part : ScriptPart) (number read : Nat) : String :=
  match part.file with
  | some file =>
    let line := ((part.text.take (read - 1)).filter (· = '\n')).length + 1
    s!"file {file} line {line}"
  | none => s!"-e expression #{number}, char {read}"

/-- The place of a fault, by how much of the whole script is read there. -/
def placeIn : (number : Nat) → List ScriptPart → (read : Nat) → String
  | number, [], read => s!"-e expression #{number}, char {read}"
  | number, part :: later, read =>
    if later.isEmpty || read ≤ part.text.length then part.place number read
    else
      placeIn (if part.file.isSome then number else number + 1) later
        (read - part.text.length - 1)

def known : OptionTable :=
  { flags := ['n', 'E', 'r', 's', 'i', 'u', 'z']
    valued := ['e', 'f', 'l']
    names := [("expression", 'e'), ("file", 'f'), ("in-place", 'i'), ("line-length", 'l'),
      ("null-data", 'z'), ("quiet", 'n'), ("regexp-extended", 'E'), ("separate", 's'),
      ("silent", 'n'), ("unbuffered", 'u')] }

/-- An option that takes what is left of its word as a value ends the word. -/
def splitInPlace (arguments : List String) : List String :=
  arguments.map fun argument => match argument.toList with
    | '-' :: 'i' :: _ => "-i"
    | '-' :: '-' :: 'i' :: 'n' :: '-' :: 'p' :: _ => "-i"
    | _ => argument

def inputLines (separator : Char) (file : String) (text : List Char) : List InputLine :=
  let pieces := Text.splitOn separator text
  let ended : List InputLine := pieces.dropLast.map fun text =>
    { buffer := { text, ended := true }, file }
  match pieces.getLast? with
  | some (c :: rest) => ended ++ [{ buffer := { text := c :: rest, ended := false }, file }]
  | _ => ended

/-- The contents of files up to the first that breaks off the work, and the complaint about that.
Only proper files can be edited in their places. -/
def readable (request : Request) (inPlace : Bool) :
    List String → List (String × Except ReadFault Content) × Option String
  | [] => ([], none)
  | file :: later =>
    let result := request.content file
    let isProper : Bool := match request.system.find request.directory file with
      | .ok (.file _) => true
      | _ => false
    let go (_ : Unit) : List (String × Except ReadFault Content) × Option String :=
      let (others, complaint) := readable request inPlace later
      ((file, result) :: others, complaint)
    match result with
    | .error (.absent _) => go ()
    | .ok _ =>
      if inPlace && !isProper then
        ([], some s!"{request.name}: couldn't edit {file}: not a regular file")
      else go ()
    | .error (.broken reason) =>
      let title := if file = "-" then "stdin" else file
      ([], some (if inPlace then s!"{request.name}: couldn't edit {file}: not a regular file"
        else s!"{request.name}: read error on {title}: {reason}"))

/-- Edits files one by one, each as an input of its own, and gives what is written for each. -/
def editEach (manner : Manner) (script : Script) :
    List (String × List InputLine) → Editor → List (String × List Char) × Editor
  | [], editor => ([], editor)
  | (file, input) :: later, editor =>
    let (stopped, editor) := Editor.run manner script
      { editor with input, number := 0, ranges := [], finished := [], output := []
                    unended := false }
    let result := (file, editor.output.reverse.flatten)
    if stopped then
      -- what was not read stays as it is
      let left := editor.input.flatMap fun line =>
        line.buffer.text ++ if line.buffer.ended then [manner.separator] else []
      ([(file, result.2 ++ left)], editor)
    else
      let (others, editor) := editEach manner script later editor
      (result :: others, editor)

end Sed

namespace Utility

open Sed in
def sed : Utility := fun request =>
  let request := { request with arguments := splitInPlace request.arguments }
  let failed (status : Nat) (complaint : String) : Response :=
    { errors := [s!"{request.name}: {complaint}"], status }
  request.withOptions known fun options operands =>
    let has (letter : Char) : Bool := options.any (·.1 = letter)
    let given := options.filter fun option => option.1 = 'e' || option.1 = 'f'
    let (given, files) := if given.isEmpty then
        ((operands.take 1).map (('e', ·)), operands.drop 1)
      else (given, operands)
    if given.isEmpty then failed 1 "no script specified" else
    let parts := given.map fun (letter, value) =>
      if letter = 'e' then Except.ok { text := value.toList : ScriptPart }
      else match request.content value with
        | .ok content =>
          .ok { file := some value, text := Text.dropLastIf '\n' (ofBytes content.excerpt) }
        | .error fault => .error s!"couldn't open file {value}: {fault.reason}"
    match parts.mapM id with
    | .error complaint => failed 4 complaint
    | .ok parts =>
    let whole := ['\n'].intercalate (parts.map (·.text))
    let dialect : Regular.Dialect := { extended := has 'E' || has 'r', strict := true }
    match readScript dialect (whole.length + 1) 0 0 whole with
    | .error fault =>
      let place := match fault.left with
        | some left => placeIn 1 parts (whole.length - left)
        | none => "-e expression #1, char 0"
      failed 1 s!"{place}: {fault.message}"
    | .ok script =>
    match script.missingLabel? with
    | some name => failed 4 s!"can't find label for jump to `{name}'"
    | none =>
      let files := if files.isEmpty then ["-"] else files
      let quietLine : Bool := whole = ['#', 'n'] || ['#', 'n', '\n'].isPrefixOf whole
      let manner : Manner :=
        { quiet := has 'n' || quietLine
          separator := if has 'z' then Char.ofNat 0 else '\n'
          content := fun name =>
            (request.content name).toOption.map fun content => ofBytes content.excerpt }
      let (contents, broken) := readable request (has 'i') files
      let errors := contents.filterMap fun (file, result) => match result with
        | .error fault => some s!"{request.name}: can't read {file}: {fault.reason}"
        | .ok _ => none
      let inputs := contents.filterMap fun (file, result) => match result with
        | .ok content => some (file, inputLines manner.separator file (ofBytes content.excerpt))
        | .error _ => none
      let separate := has 's' || has 'i'
      let (results, stopped, editor) :=
        if separate then
          let (results, editor) := editEach manner script inputs { input := [] }
          (results, false, editor)
        else
          let (stopped, editor) := Editor.run manner script { input := inputs.flatMap (·.2) }
          ([("-", editor.output.reverse.flatten)], stopped, editor)
      let left := editor.input.map fun line =>
        line.buffer.text.length + if line.buffer.ended then 1 else 0
      let system := script.writtenFiles.foldl (fun system file =>
        store request system file [] false) request.system
      let written := editor.written.reverse
      let system := (written.filter (·.1 ≠ "/dev/stderr")).foldl (fun system (file, line) =>
        store request system file (bytesOf line) true) system
      let system := if has 'i' then results.foldl (fun system (file, content) =>
          store request system file (bytesOf content) false) system
        else system
      let unfounded := if editor.broken then
          [s!"{request.name}: -e expression #1, char 0: no previous regular expression"] else []
      { output := text (if has 'i' then [] else results.flatMap (·.2))
        errors := errors ++ unfounded ++ broken.toList
        copied := bytesOf ((written.filter (·.1 = "/dev/stderr")).flatMap (·.2))
        status := if editor.status ≠ 0 then editor.status
          else if editor.broken then 1 else if broken.isSome then 4
          else if errors.isEmpty then 0 else 2
        system := some system
        stopped
        left := if stopped && files = ["-"] then left.foldl (· + ·) 0 else 0 }

end Utility

end ArtifactRelease.Shell
