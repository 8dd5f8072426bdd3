import ArtifactRelease.Shell.Utility.Request

/-!
# Programs for files and paths
-/

namespace ArtifactRelease.Shell.Utility

/-! ## Paths -/

/-- The last name of a path, without an ending. -/
def lastName (path ending : String) : String :=
  let trimmed := FileSystem.trimSlashes path.toList
  let name := (trimmed.reverse.takeWhile (· ≠ '/')).reverse
  let name := if trimmed.isEmpty && !path.isEmpty then ['/'] else name
  let ending := ending.toList
  String.ofList (if ending.isSuffixOf name && ending ≠ name then
    name.take (name.length - ending.length) else name)

def basename : Utility := fun request =>
  let known : OptionTable :=
    { flags := ['a', 'z'], valued := ['s'], names := [("multiple", 'a'), ("suffix", 's')] }
  request.withOptions known fun options paths =>
    let ending := (options.reverse.find? (·.1 = 's')).map (·.2)
    let several : Bool := ending.isSome || options.any (·.1 = 'a')
    let shown (names : List String) : Response :=
      { output := text (String.join (names.map (· ++ "\n"))).toList }
    match several, paths with
    | _, [] => request.misused 1 "missing operand"
    | true, paths => shown (paths.map (lastName · (ending.getD "")))
    | false, [path] => shown [lastName path ""]
    | false, [path, ending] => shown [lastName path ending]
    | false, _ :: _ :: extra :: _ => request.misused 1 s!"extra operand {inQuotes extra}"

/-- A path without its last name. -/
def parent (path : String) : String :=
  let trimmed := FileSystem.trimSlashes path.toList
  let parent := FileSystem.trimSlashes (trimmed.reverse.dropWhile (· ≠ '/')).reverse
  String.ofList (if !parent.isEmpty then parent
    else if path.toList.head? = some '/' then ['/'] else ['.'])

def dirname : Utility := fun request =>
  request.withOptions { flags := ['z'] } fun _ paths =>
    if paths.isEmpty then request.misused 1 "missing operand"
    else { output := text (String.join (paths.map fun path => parent path ++ "\n")).toList }

/-- The directory, or with `-L` the name for it that is handed on, if that leads there. -/
def pwd : Utility := fun request =>
  let known : OptionTable := { flags := ['L', 'P'], names := [("logical", 'L'), ("physical", 'P')] }
  request.withOptions known fun options extra =>
    let isRight (name : String) : Bool :=
      name.toList.head? = some '/' && (Text.pieces '/' name).all (· ∉ [".", ".."])
        && (request.system.locate [] name).toOption = some request.directory
    let told := (request.environment.find? (·.1 = "PWD")).map (·.2)
    let shown := if options.getLast?.any (·.1 = 'L') then told.filter isRight else none
    { output := text (shown.getD request.directory.text ++ "\n").toList
      errors := if extra.isEmpty then [] else [s!"{request.name}: ignoring non-option arguments"] }

/-! ## Changing files -/

/-- The file system under change, with what is said about it. -/
structure Progress where
  system : FileSystem
  shown : List String := []
  errors : List String := []

namespace Progress

def refuse (progress : Progress) (request : Request) (complaint : String) : Progress :=
  { progress with errors := progress.errors ++ [s!"{request.name}: {complaint}"] }

def say (progress : Progress) (line : String) : Progress :=
  { progress with shown := progress.shown ++ [line] }

def response (progress : Progress) : Response :=
  { output := text (String.join (progress.shown.map (· ++ "\n"))).toList
    errors := progress.errors
    status := if progress.errors.isEmpty then 0 else 1
    system := some progress.system }

end Progress

/-- Why nothing can be written under a name, if so. -/
def unwritable? (request : Request) (system : FileSystem) (name : String) : Option String :=
  if system.wantsDirectory request.directory name then some isDirectoryReason
  else match system.locate request.directory name with
    | .error problem => some (reason problem)
    | .ok path => if system.place path = .directory then some isDirectoryReason else none

def tee : Utility := fun request =>
  request.withOptions { flags := ['a', 'i', 'p'], names := [("append", 'a')] } fun options names =>
    let appends := options.any (·.1 = 'a')
    let bytes := request.input.bytes
    let progress := names.foldl (fun (progress : Progress) name =>
      if (request.descriptor? name).isSome then progress
      else match unwritable? request progress.system name with
        | some reason => progress.refuse request s!"{shownName name}: {reason}"
        | none =>
          { progress with system := store request progress.system name bytes appends })
      { system := request.system }
    let progress := match request.inputFault with
      | some reason => progress.refuse request s!"read error: {reason}"
      | none => progress
    let copiesTo (number : Nat) : List UInt8 :=
      (names.filter (request.descriptor? · = some number)).flatMap fun _ => bytes
    { progress.response with
      errors := progress.errors ++ request.closingComplaint [] "standard input"
      output := { request.input with bytes := bytes ++ copiesTo 1 }
      copied := copiesTo 2 }

def touch : Utility := fun request =>
  let known : OptionTable :=
    { flags := ['a', 'c', 'm', 'h'], valued := ['d', 'r', 't'], names := [("no-create", 'c')] }
  request.withOptions known fun options names =>
    if names.isEmpty then request.misused 1 "missing file operand" else
    (names.foldl (fun (progress : Progress) name =>
      match progress.system.locate request.directory name with
      | .error problem =>
        let reason := reason problem
        let step := if progress.system.wantsDirectory request.directory name then "setting times of"
          else "cannot touch"
        progress.refuse request s!"{step} {nameInQuotes name}: {reason}"
      | .ok _ =>
        if options.any (·.1 = 'c') then progress
        else { progress with system := store request progress.system name [] true })
      ({ system := request.system } : Progress)).response

def below (system : FileSystem) (path : Path) : List Path :=
  (system.made.filter fun entry =>
    path.isPrefixOf entry.1 && entry.1 ≠ path && entry.2 ≠ .missing).map (·.1)

/-- Removes files, if they are there. -/
def rm : Utility := fun request =>
  let known : OptionTable :=
    { flags := ['d', 'f', 'i', 'r', 'R', 'v']
      names := [("dir", 'd'), ("force", 'f'), ("recursive", 'r'), ("verbose", 'v')] }
  request.withOptions known fun options names =>
    let has (letters : List Char) : Bool := options.any (·.1 ∈ letters)
    let forced := has ['f']
    if names.isEmpty && !forced then request.misused 1 "missing operand" else
    (names.foldl (fun (progress : Progress) name =>
      let system := progress.system
      let refused (reason : String) : Progress :=
        progress.refuse request s!"cannot remove {nameInQuotes name}: {reason}"
      let removed (paths : List Path) (kind : String) : Progress :=
        let system := paths.foldl (fun system path => system.set path .missing) system
        let progress := { progress with system }
        if has ['v'] then progress.say s!"removed {kind}{nameInQuotes name}" else progress
      match system.locate request.directory name with
      | .error problem => if forced then progress else refused (reason problem)
      | .ok path =>
        match system.place path with
        | .missing => if forced then progress else refused (reason .missing)
        | .directory =>
          if has ['r', 'R'] then removed (path :: below system path) "directory "
          else if has ['d'] then
            if (system.names path).isEmpty then removed [path] "directory "
            else refused "Directory not empty"
          else refused "Is a directory"
        | _ => removed [path] "") ({ system := request.system } : Progress)).response

/-- Makes the directories on the way to a name, and says which. -/
def makeAll (request : Request) (verbose : Bool) (name : String) (progress : Progress) : Progress :=
  let names := Text.splitOn '/' name.toList
  let counts := (List.range names.length).map (· + 1)
  counts.foldl (fun progress count =>
    let part := String.ofList (['/'].intercalate (names.take count))
    if part.isEmpty || (names[count - 1]?).all (·.isEmpty) then progress
    else match progress.system.locate request.directory part with
      | .error problem =>
        let reason := reason problem
        if progress.errors.isEmpty then
          progress.refuse request s!"cannot create directory {nameInQuotes part}: {reason}"
        else progress
      | .ok path =>
        match progress.system.place path with
        | .missing =>
          let progress := { progress with system := progress.system.set path .directory }
          if verbose then
            progress.say s!"{request.name}: created directory {nameInQuotes part}"
          else progress
        | .directory => progress
        | _ =>
          let reason := if count = names.length then "File exists" else "Not a directory"
          progress.refuse request s!"cannot create directory {nameInQuotes part}: {reason}")
    progress

def mkdir : Utility := fun request =>
  let known : OptionTable :=
    { flags := ['p', 'v', 'Z'], valued := ['m']
      names := [("mode", 'm'), ("parents", 'p'), ("verbose", 'v')] }
  request.withOptions known fun options names =>
    if names.isEmpty then request.misused 1 "missing operand" else
    let has (letter : Char) : Bool := options.any (·.1 = letter)
    (names.foldl (fun (progress : Progress) name =>
      if has 'p' then makeAll request (has 'v') name progress
      else
        let refused (reason : String) : Progress :=
          progress.refuse request s!"cannot create directory {nameInQuotes name}: {reason}"
        match progress.system.locateNew request.directory name with
        | .error problem => refused (reason problem)
        | .ok path =>
          match progress.system.place path with
          | .missing =>
            let progress := { progress with system := progress.system.set path .directory }
            if has 'v' then progress.say s!"{request.name}: created directory {nameInQuotes name}"
            else progress
          | _ => refused "File exists") ({ system := request.system } : Progress)).response

/-! ## Listing -/

def ls : Utility := fun request =>
  let known : OptionTable :=
    { flags := ['1', 'a', 'A', 'd', 'F', 'p', 'r', 'U']
      names := [("all", 'a'), ("almost-all", 'A'), ("directory", 'd'), ("reverse", 'r')]
      status := 2 }
  request.withOptions known fun options names =>
    let has (letter : Char) : Bool := options.any (·.1 = letter)
    let ordered (names : List String) : List String :=
      let sorted := names.mergeSort (· ≤ ·)
      if has 'r' then sorted.reverse else sorted
    let names := ordered (if names.isEmpty then ["."] else names)
    let found := names.map fun name => (name, request.system.find request.directory name)
    let errors := found.filterMap fun (name, result) => match result with
      | .ok .missing =>
        some s!"{request.name}: cannot access {nameInQuotes name}: No such file or directory"
      | .ok _ => none
      | .error problem =>
        let reason := reason problem
        some s!"{request.name}: cannot access {nameInQuotes name}: {reason}"
    let isDirectory (result : Except PathProblem Place) : Bool := match result with
      | .ok .directory => !has 'd'
      | _ => false
    let present (result : Except PathProblem Place) : Bool := match result with
      | .ok .missing | .error _ => false
      | .ok _ => true
    let files := found.filter fun (_, result) => present result && !isDirectory result
    let directories := found.filter fun (_, result) => isDirectory result
    let marked (directory : Path) (name : String) : String :=
      let place := (request.system.find directory name).toOption.getD .missing
      if (has 'F' || has 'p') && place = .directory then name ++ "/"
      else match place with
        | .program _ => if has 'F' then name ++ "*" else name
        | _ => name
    let listed (name : String) : List String :=
      match request.system.locate request.directory name with
      | .ok path =>
        let entries := request.system.names path
        let entries := if has 'a' then "." :: ".." :: entries
          else if has 'A' then entries
          else entries.filter fun entry => entry.toList.head? ≠ some '.'
        (ordered entries).map (marked path)
      | .error _ => []
    let fileLines := files.map fun (name, _) => marked request.directory name
    let titled : Bool := 1 < names.length
    let sections := directories.map fun (name, _) =>
      (if titled then [s!"{name}:"] else []) ++ listed name
    let sections := if fileLines.isEmpty then sections else fileLines :: sections
    let lines := [""].intercalate sections
    { output := text (String.join (lines.map (· ++ "\n"))).toList
      errors, status := if errors.isEmpty then 0 else 2 }

end ArtifactRelease.Shell.Utility
