import ArtifactRelease.Metadata.Rendering
import ArtifactRelease.Publisher

/-!
# Arguments

Arguments are read from left to right on two levels: those before the name of an operation and
those behind it.  An option is written `--name value`, `--name=value`, `-n value`, `-nvalue` or
`-n=value`; a flag takes no value; `--` makes the rest positional.  Nothing may be given twice on
one level.  The log level may be given on both levels, and then the inner one counts.

A value that stands on its own is looked at when the next switch comes or when the level is at its
end, which for the outer level is behind the inner one.  So a call for help behind it comes first.
-/

namespace ArtifactRelease.CommandLine

inductive Operation where
  | publish (options : PublishOptions)
  | showMetadata (format : MetadataFormat)
  | validateTag (tag : String)
  deriving Repr, DecidableEq

structure Invocation where
  logLevel : Option String
  operation : Operation
  deriving Repr, DecidableEq

inductive Request where
  | perform (invocation : Invocation)
  | help
  | version
  | misuse
  deriving Repr, DecidableEq

/-! ## Levels -/

inductive SwitchKind where
  | flag
  | option
  | help
  | version
  deriving Repr, DecidableEq

/-- A flag or an option. -/
structure Switch where
  name : String
  short : Option Char := none
  kind : SwitchKind
  /-- The values that an option takes, if not all. -/
  values : Option (List String) := none
  deriving Repr, DecidableEq

structure Level where
  switches : List Switch
  /-- The operations that can be named here. -/
  operations : List String := []
  /-- How many positional arguments there are. -/
  positionals : Nat := 0
  deriving Repr, DecidableEq

/-- Why reading stops early. -/
inductive Stop where
  | help
  | version
  | misuse
  deriving Repr, DecidableEq

def Stop.request : Stop → Request
  | .help => .help
  | .version => .version
  | .misuse => .misuse

structure Reading where
  given : List (String × String) := []
  positionals : List String := []
  /-- The option whose value is to come. -/
  awaiting : Option Switch := none
  /-- An option with its value, which is looked at when the next one comes. -/
  pending : Option (Switch × String) := none
  /-- Whether only positional arguments follow. -/
  positionalOnly : Bool := false
  deriving Repr, DecidableEq

namespace Reading

def value? (reading : Reading) (name : String) : Option String :=
  (reading.given.find? (·.1 = name)).map (·.2)

def has (reading : Reading) (name : String) : Bool :=
  (reading.value? name).isSome

/-- Takes a flag or the value of an option. -/
def put (reading : Reading) (switch : Switch) (value : String) : Except Stop Reading :=
  if reading.has switch.name then .error .misuse
  else if switch.values.all (value ∈ ·) then
    .ok { reading with given := reading.given ++ [(switch.name, value)] }
  else .error .misuse

/-- Takes the option that is still to be looked at.  One whose value is missing is a misuse. -/
def settle (reading : Reading) : Except Stop Reading :=
  if reading.awaiting.isSome then .error .misuse
  else match reading.pending with
    | some (switch, value) => { reading with pending := none }.put switch value
    | none => .ok reading

def takeSwitch (reading : Reading) (switch : Switch) (attached : Option String) :
    Except Stop Reading := do
  let reading ← reading.settle
  match switch.kind, attached with
  | .option, some value => reading.put switch value
  | .option, none => return { reading with awaiting := some switch }
  | _, some _ => throw .misuse
  | .flag, none => reading.put switch ""
  | .help, none => throw .help
  | .version, none => throw .version

/-- Takes the letters behind a single hyphen. -/
def takeShort (level : Level) : Reading → List Char → Except Stop Reading
  | reading, [] => .ok reading
  | reading, letter :: rest =>
    match level.switches.find? (·.short = some letter) with
    | none => .error .misuse
    | some switch =>
      if switch.kind = .option then
        match rest with
        | [] => reading.takeSwitch switch none
        | '=' :: value => reading.takeSwitch switch (some (String.ofList value))
        | value => reading.takeSwitch switch (some (String.ofList value))
      else do
        let reading ← reading.takeSwitch switch none
        takeShort level reading rest

/-- Takes what stands behind two hyphens. -/
def takeLong (level : Level) (reading : Reading) (text : List Char) : Except Stop Reading :=
  let name := String.ofList (text.takeWhile (· ≠ '='))
  let attached := match text.dropWhile (· ≠ '=') with
    | [] => none
    | _ :: value => some (String.ofList value)
  match level.switches.find? (·.name = name) with
  | none => .error .misuse
  | some switch => reading.takeSwitch switch attached

def takePositional (level : Level) (reading : Reading) (argument : String) :
    Except Stop Reading :=
  if reading.positionals.length < level.positionals then
    .ok { reading with positionals := reading.positionals ++ [argument] }
  else .error .misuse

/-- Takes an argument that is not the name of an operation. -/
def take (level : Level) (reading : Reading) (argument : String) : Except Stop Reading :=
  if reading.positionalOnly then reading.takePositional level argument
  else match argument.toList with
    | '-' :: '-' :: [] => .ok { reading with positionalOnly := true }
    | '-' :: '-' :: text => reading.takeLong level text
    | '-' :: letter :: rest => takeShort level reading (letter :: rest)
    | _ =>
      match reading.awaiting with
      | some switch => .ok { reading with awaiting := none, pending := some (switch, argument) }
      | none => reading.takePositional level argument

end Reading

/-- Reads a level up to the name of an operation or to the end. -/
def readLevel (level : Level) : Reading → List String →
    Except Stop (Reading × Option (String × List String))
  | reading, [] => do return (← reading.settle, none)
  | reading, argument :: later =>
    if !reading.positionalOnly && reading.awaiting.isNone && argument ∈ level.operations then
      .ok (reading, some (argument, later))
    else do readLevel level (← reading.take level argument) later

/-! ## The arguments of this program -/

def helpSwitch : Switch := { name := "help", short := some 'h', kind := .help }

def versionSwitch : Switch := { name := "version", short := some 'V', kind := .version }

def logLevelSwitch : Switch := { name := "log-level", kind := .option }

def topLevel : Level :=
  { switches := [logLevelSwitch, helpSwitch, versionSwitch]
    operations := ["publish", "meta", "validate-tag", "help"] }

def publishLevel : Level :=
  { switches := [{ name := "no-build", kind := .flag }, { name := "publish", kind := .flag },
      { name := "no-list", kind := .flag }, logLevelSwitch, helpSwitch] }

def metaLevel : Level :=
  { switches := [
      { name := "format", short := some 'f', kind := .option, values := some ["json", "yaml"] },
      logLevelSwitch, helpSwitch] }

def validateLevel : Level :=
  { switches := [logLevelSwitch, helpSwitch], positionals := 1 }

/-- `--publish` and `--no-build` exclude each other. -/
def publishOperation (reading : Reading) : Except Stop Operation :=
  if reading.has "publish" && reading.has "no-build" then .error .misuse
  else .ok (.publish
    { build := !reading.has "no-build"
      publish := reading.has "publish"
      list := !reading.has "no-list" })

def metaOperation (reading : Reading) : Except Stop Operation :=
  .ok (.showMetadata (if reading.value? "format" = some "yaml" then .yaml else .json))

def validateOperation (reading : Reading) : Except Stop Operation :=
  match reading.positionals with
  | tag :: _ => .ok (.validateTag tag)
  | [] => .error .misuse

/-- Reads the arguments behind the name of an operation. -/
def readOperation (outer : Reading) (level : Level)
    (operation : Reading → Except Stop Operation) (arguments : List String) :
    Except Stop Invocation := do
  let (inner, _) ← readLevel level {} arguments
  let outer ← outer.settle
  let logLevel := (inner.value? "log-level").or (outer.value? "log-level")
  return ⟨logLevel, ← operation inner⟩

/-- `help` takes at most the name of one operation. -/
def readHelp (topics : List String) : Stop :=
  match topics with
  | [] => .help
  | [topic] => if topic ∈ topLevel.operations then .help else .misuse
  | _ => .misuse

def readInvocation (arguments : List String) : Except Stop Invocation := do
  let (outer, operation) ← readLevel topLevel {} arguments
  match operation with
  | none => return ⟨outer.value? "log-level", .publish {}⟩
  | some (name, later) =>
    match name with
    | "publish" => readOperation outer publishLevel publishOperation later
    | "meta" => readOperation outer metaLevel metaOperation later
    | "validate-tag" => readOperation outer validateLevel validateOperation later
    | _ => throw (readHelp later)

def parse (arguments : List String) : Request :=
  match readInvocation arguments with
  | .ok invocation => .perform invocation
  | .error stop => stop.request

end ArtifactRelease.CommandLine
