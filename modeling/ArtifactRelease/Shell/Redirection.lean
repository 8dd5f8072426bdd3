import ArtifactRelease.Shell.Subshell

/-!
# Redirections

They make a descriptor lead to a file, to a text in the script, to where another descriptor leads,
or nowhere.
-/

namespace ArtifactRelease.Shell

/-- Opens a file for a redirection, or says why that cannot be done. -/
def openFile (kind : RedirectionKind) (name : String) : Run (Except String Channel) := do
  let machine ← get
  let system := machine.world.system
  let reads : Bool := kind = .read
  let verb := if reads then "open" else "create"
  let refused (reason : String) : Except String Channel := .error s!"cannot {verb} {name}: {reason}"
  let absent := refused (if reads then "No such file" else "Directory nonexistent")
  let opened (path : Path) : Run (Except String Channel) := do
    let index := machine.world.openFiles.size
    Run.changeWorld fun world => { world with
      openFiles := world.openFiles.push { path, appends := kind = .append } }
    return .ok (.file index)
  match system.locate machine.process.directory name with
  | .error .nameTooLong => return refused "File name too long"
  | .error _ =>
    if !reads && system.wantsDirectory machine.process.directory name then
      return refused "Is a directory"
    return absent
  | .ok path =>
    match system.place path with
    | .device "null" => return .ok .null
    | .device "zero" => return .ok .zeros
    | .device _ => return .ok .full
    | .descriptor number =>
      match ← Run.opening? number with
      | some opening => return .ok opening.channel
      | none => return absent
    | .directory => if reads then return .ok .directory else return refused "Is a directory"
    | .program _ => if reads then return .ok .null else return refused "Text file busy"
    | .file _ =>
      if kind = .write && machine.process.options.contains 'C' then return refused "File exists"
      if kind = .write || kind = .overwrite then
        Run.changeWorld fun world => { world with system := world.system.set path (.file []) }
      opened path
    | .missing =>
      if reads || system.place path.dropLast ≠ .directory then return absent
      Run.changeWorld fun world => { world with system := world.system.set path (.file []) }
      opened path

def RedirectionKind.access : RedirectionKind → Access
  | .read | .document | .duplicate => .reading
  | .write | .overwrite | .append => .writing
  | .readWrite => .both

inductive Rerouted where
  | toFile (kind : RedirectionKind) (name : String)
  /-- The text is expanded when it is needed. -/
  | toText (text : Word)
  | toDescriptor (other : Nat)
  | toNothing

/-- Complains about a descriptor as if the script could not be read any further. -/
def badNumber {α : Type} : Run α := do
  Run.change fun process => { process with line := process.sourceLine }
  Run.abort "Syntax error: Bad fd number"

def prepare (engine : Engine) (redirection : Redirection) : Run (Nat × Rerouted) := do
  let target : Run String := expandText (substitute engine) redirection.target
  let rerouted ← match redirection.kind with
    | .document => pure (.toText redirection.target)
    | .duplicate => do
      match (← target).toList with
      | ['-'] => pure .toNothing
      | [c] => if c.isDigit then pure (.toDescriptor (c.toNat - 48)) else badNumber
      | _ => badNumber
    | kind => do pure (.toFile kind (← target))
  return (redirection.descriptor, rerouted)

/-- Finds out where redirections lead, before any of them is carried out. -/
def prepareAll (engine : Engine) (redirections : List Redirection) :
    Run (List (Nat × Rerouted)) :=
  redirections.mapM (prepare engine)

/-- Carries out a redirection, and tells whether that was possible. -/
def redirect (engine : Engine) (descriptor : Nat) : Rerouted → Run Bool
  | .toText text => do
    let expansion : Run Unit := do
      let text ← expandText (substitute engine) text
      let channel ← Run.supply { bytes := bytesOf text.toList } 0
      Run.setDescriptor descriptor (some ⟨channel, .reading⟩)
    match ← attempt expansion with
    | none => return true
    | some .failed => return false
    | some stop => throw stop
  | .toNothing => do
    Run.setDescriptor descriptor none
    return true
  | .toDescriptor other => do
    let opening ← Run.opening? other
    Run.setDescriptor descriptor opening
    if opening.isNone then Run.complain s!"{other}: Bad file descriptor"
    return opening.isSome
  | .toFile kind name => do
    match ← openFile kind name with
    | .ok channel =>
      Run.setDescriptor descriptor (some ⟨channel, kind.access⟩)
      return true
    | .error reason =>
      Run.complain reason
      return false

/-- Carries out redirections up to the first that fails. -/
def redirectAll (engine : Engine) : List (Nat × Rerouted) → Run Bool
  | [] => return true
  | (descriptor, rerouted) :: later => do
    if ← redirect engine descriptor rerouted then redirectAll engine later else return false

/-- Puts descriptors back as they were, however the action ends.  Others stay as the action leaves
them. -/
def withDescriptors (descriptors : List Nat) (action : Run Unit) : Run Unit := do
  let old ← descriptors.mapM fun descriptor => do return (descriptor, ← Run.opening? descriptor)
  let stop ← attempt action
  old.forM fun (descriptor, opening) => Run.setDescriptor descriptor opening
  match stop with
  | some stop => throw stop
  | none => return ()

/-- Runs something under redirections that are undone afterwards, if they can be carried out. -/
def withRedirections (engine : Engine) (redirections : List Redirection) (action : Run Unit) :
    Run Unit := do
  let prepared ← prepareAll engine redirections
  withDescriptors (prepared.map (·.1)) do
    if ← redirectAll engine prepared then action else Run.setStatus 2

end ArtifactRelease.Shell
