import ArtifactRelease.Shell.Utility.Awk.Interpreter
import ArtifactRelease.Shell.Utility.Awk.Reader
import ArtifactRelease.Shell.Utility.Files

/-!
# Record scripts as a program

Options come first, then the script unless an option names a file with it, and then the files whose
records the script is for.
-/

namespace ArtifactRelease.Shell

namespace Awk

structure Task where
  separator : Option String := none
  assignments : List (String × String) := []
  scriptFiles : List String := []
  operands : List String := []

def task : (fuel : Nat) → Task → List String → Except String Task
  | 0, found, _ => .ok found
  | _, found, [] => .ok found
  | fuel + 1, found, argument :: rest =>
    let valued (value : List Char) (add : String → Except String Task) : Except String Task := do
      match value, rest with
      | [], value :: rest => task fuel (← add value) rest
      | [], [] => throw s!"option {argument} lacks argument"
      | value, rest => task fuel (← add (String.ofList value)) rest
    match argument.toList with
    | ['-', '-'] => .ok { found with operands := rest }
    | '-' :: 'F' :: value =>
      valued value fun separator => .ok { found with separator := some separator }
    | '-' :: 'f' :: value =>
      valued value fun file => .ok { found with scriptFiles := found.scriptFiles ++ [file] }
    | '-' :: 'v' :: value =>
      valued value fun text => match Work.assignment? text with
        | some assignment => .ok { found with assignments := found.assignments ++ [assignment] }
        | none => .error s!"improper assignment: -v {text}"
    | '-' :: 'W' :: value => valued value fun _ => .ok found
    | '-' :: _ :: _ => .error s!"not an option: {argument}"
    | _ => .ok { found with operands := argument :: rest }

def presetVariables : List (String × Value) :=
  [("FS", .text " "), ("OFS", .text " "), ("ORS", .text "\n"), ("RS", .text "\n"),
    ("SUBSEP", .text "\x1c"), ("CONVFMT", .text "%.6g"), ("OFMT", .text "%.6g"),
    ("NR", .number 0.0), ("FNR", .number 0.0), ("RSTART", .number 0.0), ("RLENGTH", .number (-1.0)),
    ("FILENAME", .text "")]

def fillTable (name : String) (entries : List (String × String)) : Work Unit := do
  let number ← Work.tableNumber name
  for (index, text) in entries do Work.setElement number index (.input text)

/-- Sets everything up for a task, and runs a script. -/
def perform (name : String) (task : Task) (environment : List (String × String)) (script : Script) :
    Work Unit := do
  for (name, value) in presetVariables do Work.setGlobal name value
  match task.separator with
  | some separator => Work.assignText "FS" separator
  | none => pure ()
  for (name, value) in task.assignments do Work.assignText name value
  fillTable "ENVIRON" environment
  let words := name :: task.operands
  fillTable "ARGV" ((List.zip (List.range words.length) words).map fun (index, word) =>
    (toString index, word))
  Work.setGlobal "ARGC" (.ofNat words.length)
  script.run

/-- The first function that is called and is not there. -/
def undefined? (tokens : List Located) (script : Script) : Option String :=
  tokens.findSome? fun located => match located.token with
    | .call name => if script.functions.any (·.name = name) then none else some name
    | _ => none

/-- Reads a script, all of whose functions have to be there. -/
def load (text : List Char) : Except Fault Script := do
  let script ← parse text
  let tokens ← tokens (text.length + 1) none 1 text
  match undefined? tokens script with
  | some name => throw ⟨(tokens.getLast?.map (·.line)).getD 1, s!"function {name} never defined"⟩
  | none => return script

end Awk

namespace Utility

open Awk in
def awk : Utility := fun request =>
  let failed (complaint : String) : Response :=
    { errors := [s!"{request.name}: {complaint}"], status := 2 }
  match task (request.arguments.length + 1) {} request.arguments with
  | .error complaint => failed complaint
  | .ok task =>
  let script : Except String (List Char) := do
    if task.scriptFiles.isEmpty then return (task.operands.headD "").toList
    let texts ← task.scriptFiles.mapM fun file =>
      match request.content file with
      | .ok content => .ok (ofBytes content.excerpt)
      | .error fault => .error s!"cannot open \"{file}\" ({fault.reason})"
    return ['\n'].intercalate texts
  let operands := if task.scriptFiles.isEmpty then task.operands.drop 1 else task.operands
  match script with
  | .error complaint => failed complaint
  | .ok source =>
  match load source with
  | .error fault =>
    let file := match task.scriptFiles.getLast? with
      | some file => s!"{file}: "
      | none => ""
    failed s!"{file}line {fault.line}: {fault.message}"
  | .ok script =>
    let machine : Awk.Machine :=
      { functions := script.functions
        arguments := operands
        content := fun name => (request.content name).map fun content => ofBytes content.excerpt }
    let work := perform request.name { task with operands } request.environment script
    let (result, machine) := work.run.run machine
    let errors := match result with
      | .error (.failed message) => [s!"{request.name}: {message}"]
      | _ => []
    let system := machine.opened.foldl (fun system (name, appends) =>
      if appends then system else store request system name [] false) request.system
    let system := machine.written.reverse.foldl (fun system (name, text) =>
      store request system name (bytesOf text) true) system
    { output := text machine.output.reverse.flatten
      errors
      copied := bytesOf machine.errors.reverse.flatten
      status := if errors.isEmpty then machine.status else 2
      system := some system
      stopped := machine.left || !machine.readAny && machine.source.isNone
      left := if machine.readAny || machine.source.isSome then 0
        else request.input.bytes.length }

end Utility

end ArtifactRelease.Shell
