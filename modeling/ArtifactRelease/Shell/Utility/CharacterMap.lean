import ArtifactRelease.Shell.Glob
import ArtifactRelease.Shell.Utility.Request

/-!
# Programs that put bytes in the place of others
-/

namespace ArtifactRelease.Shell.Utility

namespace CharacterMap

/-- A member of a set of bytes, or so many of one; zero stands for as many as are needed. -/
inductive Member where
  | bytes (members : List Char)
  | repeated (c : Char) (count : Nat)

/-- A character, which may be escaped, and what follows it. -/
def character (text : List Char) : Option (Char × List Char) :=
  match text with
  | [] => none
  | '\\' :: rest => some (if rest.isEmpty then ('\\', []) else Format.readEscape rest)
  | c :: rest => some (c, rest)

/-- A repetition in brackets, behind the opening one, such as `x*3]`. -/
def repetition? (text : List Char) : Option (Char × Nat × List Char) := do
  let (c, rest) ← character text
  match rest with
  | '*' :: rest =>
    let digits := rest.takeWhile Char.isDigit
    match rest.drop digits.length with
    | ']' :: rest =>
      let base := if digits.head? = some '0' then 8 else 10
      some (c, Arithmetic.valueIn base digits, rest)
    | _ => none
  | _ => none

/-- A name between colons and brackets, behind the opening ones. -/
def className? (text : List Char) : Option (String × List Char) :=
  let name := text.takeWhile Char.isAlpha
  match text.drop name.length with
  | ':' :: ']' :: rest => some (String.ofList name, rest)
  | _ => none

/-- The members of a set: characters, ranges, named classes and repetitions. -/
def members : (fuel : Nat) → List Char → Except String (List Member)
  | 0, _ => .ok []
  | _, [] => .ok []
  | fuel + 1, text => do
    let plain : Except String (List Member) := do
      match character text with
      | none => return []
      | some (low, rest) =>
        match rest with
        | '-' :: behind =>
          match character behind with
          | some (high, rest) =>
            if high.toNat < low.toNat then
              let shown := String.ofList [low, '-', high]
              throw s!"range-endpoints of '{shown}' are in reverse collating sequence order"
            let range := (List.range (high.toNat - low.toNat + 1)).map fun step =>
              Char.ofNat (low.toNat + step)
            return .bytes range :: (← members fuel rest)
          | none => return .bytes [low] :: (← members fuel rest)
        | _ => return .bytes [low] :: (← members fuel rest)
    match text with
    | '[' :: ':' :: rest =>
      match className? rest with
      | some (name, rest) =>
        let found := ((List.range 256).map Char.ofNat).filter (Glob.inCategory name)
        if found.isEmpty then throw s!"invalid character class '{name}'"
        return .bytes found :: (← members fuel rest)
      | none => plain
    | '[' :: '=' :: c :: '=' :: ']' :: rest => return .bytes [c] :: (← members fuel rest)
    | '[' :: rest =>
      match repetition? rest with
      | some (c, count, rest) => return .repeated c count :: (← members fuel rest)
      | none => plain
    | _ => plain

/-- How many bytes there are without those that are repeated as needed. -/
def fixedLength (members : List Member) : Nat :=
  members.foldl (fun length member => match member with
    | .bytes bytes => length + bytes.length
    | .repeated _ count => length + count) 0

/-- The bytes of a set that is filled up to a length. -/
def filled (length : Nat) (members : List Member) : List UInt8 :=
  let missing := length - fixedLength members
  bytesOf (members.flatMap fun member => match member with
    | .bytes bytes => bytes
    | .repeated c count => List.replicate (if count = 0 then missing else count) c)

def squeezed (set : List UInt8) : List UInt8 → List UInt8
  | first :: second :: rest =>
    if first = second && first ∈ set then squeezed set (second :: rest)
    else first :: squeezed set (second :: rest)
  | rest => rest

def known : OptionTable :=
  { flags := ['c', 'C', 'd', 's', 't']
    names := [("complement", 'c'), ("delete", 'd'), ("squeeze-repeats", 's'),
      ("truncate-set1", 't')] }

end CharacterMap

open CharacterMap in
def tr : Utility := fun request =>
  request.withOptions known fun options sets =>
    let has (letter : Char) : Bool := options.any (·.1 = letter)
    let (deletes, squeezes) := (has 'd', has 's')
    let noted (complaint note : String) : Response :=
      { errors := [s!"{request.name}: {complaint}", note, request.hint], status := 1 }
    let failed (complaint : String) : Response :=
      { errors := [s!"{request.name}: {complaint}"], status := 1 }
    let needed := if deletes == squeezes then 2 else 1
    let allowed := if deletes && !squeezes then 1 else 2
    if sets.isEmpty then request.misused 1 "missing operand"
    else if sets.length < needed then
      let first := sets.headD ""
      noted s!"missing operand after {inQuotes first}"
        (if deletes then "Two strings must be given when both deleting and squeezing repeats."
          else "Two strings must be given when translating.")
    else if allowed < sets.length then
      let extra := (sets.drop allowed).headD ""
      if allowed = 1 && sets.length = 2 then
        noted s!"extra operand {inQuotes extra}"
          "Only one string may be given when deleting without squeezing repeats."
      else request.misused 1 s!"extra operand {inQuotes extra}"
    else match sets.mapM fun set => members (set.length + 1) set.toList with
    | .error complaint => failed complaint
    | .ok sets =>
      let given := filled 0 (sets.headD [])
      let listed := if has 'c' || has 'C' then
          ((List.range 256).map UInt8.ofNat).filter (· ∉ given)
        else given
      let onBoth (f : List UInt8 → List UInt8) : Response :=
        match request.inputFault with
        | some reason => failed s!"read error: {reason}"
        | none =>
          { output := { bytes := f request.input.bytes, endless := f request.input.endless } }
      match deletes, sets[1]? with
      | true, second =>
        let squeezedSet := filled 0 (second.getD [])
        onBoth fun bytes => squeezed squeezedSet (bytes.filter (· ∉ listed))
      | false, none => onBoth (squeezed listed)
      | false, some second =>
        let targets := filled listed.length second
        if targets.isEmpty && !has 't' then
          failed "when not truncating set1, string2 must be non-empty"
        else
          let listed := if has 't' then listed.take targets.length else listed
          let last := targets.getLast?.getD 0
          let pairs := List.zip listed
            (targets ++ List.replicate (listed.length - targets.length) last)
          let mapped (byte : UInt8) : UInt8 :=
            ((pairs.reverse.find? (·.1 = byte)).map (·.2)).getD byte
          onBoth fun bytes =>
            let bytes := bytes.map mapped
            if squeezes then squeezed targets bytes else bytes

end ArtifactRelease.Shell.Utility
