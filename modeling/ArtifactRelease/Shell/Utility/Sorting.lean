import ArtifactRelease.Shell.Utility.Request

/-!
# Programs for the order of lines

Lines are put in order by keys, which are parts of them, and compared as texts, as numbers of
several kinds, as names of months or as versions.
-/

namespace ArtifactRelease.Shell.Utility

namespace Sorting

inductive Kind where
  | text
  | numeric
  | general
  | sized
  | month
  | version
  deriving Repr, DecidableEq

structure Manner where
  kind : Kind := .text
  fold : Bool := false
  dictionary : Bool := false
  printable : Bool := false
  reverse : Bool := false
  blanksBefore : Bool := false
  blanksBehind : Bool := false
  deriving Repr, DecidableEq

/-- A place in a line: a field and an offset in it, both from zero. -/
structure Place where
  field : Nat
  offset : Nat
  deriving Repr

structure Key where
  start : Place
  /-- The place behind the key.  Without an offset that is the end of the field before. -/
  stop : Option Place := none
  manner : Manner := {}
  deriving Repr

def isBlank (byte : UInt8) : Bool := byte = 0x20 || byte = 0x09

/-- Passes a field without a separator: blanks and what follows them. -/
def passWord (line : List UInt8) : List UInt8 :=
  (line.dropWhile isBlank).dropWhile (!isBlank ·)

def passFields (separator : Option UInt8) : Nat → List UInt8 → List UInt8
  | 0, line => line
  | count + 1, line =>
    passFields separator count (match separator with
      | some separator => (line.dropWhile (· ≠ separator)).drop 1
      | none => passWord line)

/-- How much of a line lies in front of the end of a key. -/
def stopOffset (separator : Option UInt8) (line : List UInt8) (stop : Place) (blanks : Bool) :
    Nat :=
  if stop.offset = 0 then
    let before := passFields separator stop.field line
    let rest := match separator with
      | some separator => before.dropWhile (· ≠ separator)
      | none => passWord before
    line.length - rest.length
  else
    let rest := passFields separator stop.field line
    let rest := if blanks then rest.dropWhile isBlank else rest
    line.length - (rest.drop stop.offset).length

def Key.bytes (key : Key) (separator : Option UInt8) (line : List UInt8) : List UInt8 :=
  let start := passFields separator key.start.field line
  let start := if key.manner.blanksBefore then start.dropWhile isBlank else start
  let start := start.drop key.start.offset
  match key.stop with
  | none => start
  | some stop =>
    let length := stopOffset separator line stop key.manner.blanksBehind
    start.take (length - (line.length - start.length))

/-- The number at the start of a text, as units of its last place and the number of places. -/
def leadingNumber (bytes : List UInt8) : Int × Nat × List Char :=
  let text := (ofBytes bytes).dropWhile fun c => c = ' ' || c = '\t'
  let (negative, digits) := match text with
    | '-' :: rest => (true, rest)
    | rest => (false, rest)
  let (whole, places, rest) := Floating.readPlaces Char.isDigit digits
  let units : Int := Number.ofDigits (whole ++ places)
  (if negative then -units else units, places.length, rest)

def compareNumbers (first second : Int × Nat) : Ordering :=
  compare (first.1 * (Nat.pow 10 second.2 : Nat)) (second.1 * (Nat.pow 10 first.2 : Nat))

def sizeRank (rest : List Char) : Nat :=
  match rest.head? with
  | some c =>
    match ['K', 'M', 'G', 'T', 'P', 'E', 'Z', 'Y'].findIdx? (· = c) with
    | some index => index + 1
    | none => if c = 'k' then 1 else 0
  | none => 0

def compareSizes (first second : List UInt8) : Ordering :=
  let (one, places, rest) := leadingNumber first
  let (other, otherPlaces, otherRest) := leadingNumber second
  let rank (units : Int) (rest : List Char) : Int :=
    if units = 0 then 0 else if units < 0 then -(sizeRank rest : Int) else sizeRank rest
  match compare one.sign other.sign with
  | .eq =>
    match compare (rank one rest) (rank other otherRest) with
    | .eq => compareNumbers (one, places) (other, otherPlaces)
    | ordering => ordering
  | ordering => ordering

/-- Compares numbers with exponents; what is no number comes first. -/
def compareGeneral (first second : List UInt8) : Ordering :=
  let value (bytes : List UInt8) : Option Floating :=
    (Floating.read? (ofBytes bytes)).map (·.1)
  let signed (negative : Bool) (magnitude : Number.Ratio) : Int :=
    if negative then -(magnitude.numerator : Int) else magnitude.numerator
  match value first, value second with
  | some (.finite one left), some (.finite other right) =>
    compare (signed one left * right.denominator) (signed other right * left.denominator)
  | none, none => .eq
  | none, some _ => .lt
  | some _, none => .gt
  | some (.infinite one), some (.infinite other) => compare other one
  | some (.infinite negative), some _ => if negative then .lt else .gt
  | some _, some (.infinite negative) => if negative then .gt else .lt
  | some _, some _ => .eq

def months : List String :=
  ["JAN", "FEB", "MAR", "APR", "MAY", "JUN", "JUL", "AUG", "SEP", "OCT", "NOV", "DEC"]

/-- The number of a month by the start of its name, or zero. -/
def month (bytes : List UInt8) : Nat :=
  let name := ((bytes.dropWhile isBlank).take 3).map fun byte => (Char.ofNat byte.toNat).toUpper
  ((months.findIdx? (·.toList = name)).map (· + 1)).getD 0

def compareBytes : List UInt8 → List UInt8 → Ordering
  | [], [] => .eq
  | [], _ :: _ => .lt
  | _ :: _, [] => .gt
  | first :: left, second :: right =>
    match compare first.toNat second.toNat with
    | .eq => compareBytes left right
    | ordering => ordering

/-- The rank of a character in a version: a tilde comes before the end, letters before others. -/
def versionRank : Option Char → Int
  | none => 0
  | some c =>
    if c = '~' then -1 else if c.isAlpha then c.toNat else if c.isDigit then 0 else c.toNat + 256

/-- Compares versions: texts and numbers in turn. -/
def compareVersions : (fuel : Nat) → List Char → List Char → Ordering
  | 0, _, _ => .eq
  | _, [], [] => .eq
  | fuel + 1, left, right =>
    let bothDigits := left.head?.any Char.isDigit && right.head?.any Char.isDigit
    if bothDigits then
      let (one, other) := (left.takeWhile Char.isDigit, right.takeWhile Char.isDigit)
      match compare (Number.ofDigits one) (Number.ofDigits other) with
      | .eq => compareVersions fuel (left.drop one.length) (right.drop other.length)
      | ordering => ordering
    else match compare (versionRank left.head?) (versionRank right.head?) with
      | .eq => compareVersions fuel (left.drop 1) (right.drop 1)
      | ordering => ordering

def Manner.compare (manner : Manner) (first second : List UInt8) : Ordering :=
  let cleaned (bytes : List UInt8) : List UInt8 :=
    let kept := bytes.filter fun byte =>
      let c := Char.ofNat byte.toNat
      (!manner.dictionary || isBlank byte || c.isAlphanum)
        && (!manner.printable || (0x20 ≤ byte && byte < 0x7F))
    if manner.fold then
      kept.map fun byte => UInt8.ofNat (Char.ofNat byte.toNat).toUpper.toNat
    else kept
  let numbers (bytes : List UInt8) : Int × Nat :=
    let (units, places, _) := leadingNumber bytes
    (units, places)
  let ordering := match manner.kind with
    | .text => compareBytes (cleaned first) (cleaned second)
    | .numeric => compareNumbers (numbers first) (numbers second)
    | .general => compareGeneral first second
    | .sized => compareSizes first second
    | .month => Ord.compare (month first) (month second)
    | .version =>
      compareVersions (first.length + second.length + 1) (ofBytes first) (ofBytes second)
  if manner.reverse then ordering.swap else ordering

/-- Takes an option for keys into account; `atEnd` if it stands behind the end of one. -/
def Manner.add (manner : Manner) (atEnd : Bool) : Char → Option Manner
  | 'b' => some (if atEnd then { manner with blanksBehind := true }
      else { manner with blanksBefore := true })
  | 'd' => some { manner with dictionary := true }
  | 'f' => some { manner with fold := true }
  | 'g' => some { manner with kind := .general }
  | 'h' => some { manner with kind := .sized }
  | 'i' => some { manner with printable := true }
  | 'M' => some { manner with kind := .month }
  | 'n' => some { manner with kind := .numeric }
  | 'r' => some { manner with reverse := true }
  | 'V' => some { manner with kind := .version }
  | _ => none

/-- A field and an offset, from one, with the options behind them. -/
def readPlace (text : List Char) : Option (Nat × Option Nat × List Char) :=
  let field := text.takeWhile Char.isDigit
  if field.isEmpty then none
  else match text.drop field.length with
    | '.' :: rest =>
      let offset := rest.takeWhile Char.isDigit
      some (Number.ofDigits field, some (Number.ofDigits offset), rest.drop offset.length)
    | rest => some (Number.ofDigits field, none, rest)

def key (text : String) : Except String Key :=
  let refused (reason : String) : Except String Key :=
    .error s!"{reason}: invalid count at start of {inQuotes text}"
  let stray : Except String Key :=
    .error s!"stray character in field spec: invalid field specification {inQuotes text}"
  match Text.splitOn ',' text.toList with
  | start :: later =>
    match readPlace start with
    | none => refused "invalid number at field start"
    | some (0, _, _) => .error s!"-: invalid field specification {inQuotes text}"
    | some (field, offset, letters) =>
      let first := letters.foldlM (fun manner letter => Manner.add manner false letter) {}
      match first, later with
      | none, _ => stray
      | some manner, [] =>
        .ok { start := ⟨field - 1, (offset.getD 1) - 1⟩, manner }
      | some manner, last :: _ =>
        match readPlace last with
        | none => refused "invalid number after ','"
        | some (stopField, stopOffset, letters) =>
          match letters.foldlM (fun manner letter => Manner.add manner true letter) manner with
          | none => stray
          | some manner =>
            .ok
              { start := ⟨field - 1, (offset.getD 1) - 1⟩
                stop := some ⟨stopField - 1, stopOffset.getD 0⟩
                manner }
  | [] => refused "invalid number at field start"

/-- Compares lines by keys; `whole` is how lines are compared that agree in them. -/
def compareLines (separator : Option UInt8) (keys : List Key) (whole : Option Manner)
    (first second : List UInt8) : Ordering :=
  let byKeys := keys.foldl (fun ordering key => match ordering with
    | .eq => key.manner.compare (key.bytes separator first) (key.bytes separator second)
    | ordering => ordering) Ordering.eq
  match byKeys, whole with
  | .eq, some manner => manner.compare first second
  | ordering, _ => ordering

def distinct (same : List UInt8 → List UInt8 → Bool) : List (List UInt8) → List (List UInt8)
  | first :: second :: rest =>
    if same first second then distinct same (first :: rest)
    else first :: distinct same (second :: rest)
  | rest => rest
termination_by lines => lines.length

/-- The first line that is not in order, with its number. -/
def disorder? (inOrder : List UInt8 → List UInt8 → Bool) :
    (number : Nat) → List (List UInt8) → Option (Nat × List UInt8)
  | number, first :: second :: rest =>
    if inOrder first second then disorder? inOrder (number + 1) (second :: rest)
    else some (number + 1, second)
  | _, _ => none

def known : OptionTable :=
  { flags := ['b', 'c', 'C', 'd', 'f', 'g', 'h', 'i', 'm', 'M', 'n', 'r', 's', 'u', 'V', 'z']
    valued := ['k', 'o', 'S', 't', 'T']
    names := [("check", 'c'), ("dictionary-order", 'd'), ("field-separator", 't'),
      ("general-numeric-sort", 'g'), ("human-numeric-sort", 'h'), ("ignore-case", 'f'),
      ("ignore-leading-blanks", 'b'), ("ignore-nonprinting", 'i'), ("key", 'k'), ("merge", 'm'),
      ("month-sort", 'M'), ("numeric-sort", 'n'), ("output", 'o'), ("reverse", 'r'),
      ("stable", 's'), ("unique", 'u'), ("version-sort", 'V')]
    status := 2 }

end Sorting

open Sorting in
def sort : Utility := fun request =>
  request.withOptions known fun options names =>
    let has (letter : Char) : Bool := options.any (·.1 = letter)
    let value (letter : Char) : Option String :=
      (options.reverse.find? (·.1 = letter)).map (·.2)
    let failed (complaint : String) : Response :=
      { errors := [s!"{request.name}: {complaint}"], status := 2 }
    let overall := options.foldl (fun manner (letter, _) =>
      ((Manner.add manner false letter).getD manner)) ({} : Manner)
    let overall := if overall.blanksBefore then { overall with blanksBehind := true } else overall
    match (options.filter (·.1 = 'k')).mapM fun (_, text) => key text with
    | .error complaint => failed complaint
    | .ok keys =>
    match (value 't').map String.toList with
    | some [] => failed "empty tab"
    | some (c :: d :: rest) =>
      let shown := String.ofList (c :: d :: rest)
      failed s!"multi-character tab {inQuotes shown}"
    | separator =>
    let separator := separator.bind fun text => text.head?.map fun c => UInt8.ofNat c.toNat
    let keys := keys.map fun key => if key.manner = {} then { key with manner := overall } else key
    let keys := if keys.isEmpty then [{ start := ⟨0, 0⟩, manner := overall : Key }] else keys
    let (contents, errors) := request.contents names fun name fault =>
      let step := match fault with
        | .absent _ => "cannot read"
        | .broken _ => if request.inputIsClosed then "stat failed" else "read failed"
      s!"{request.name}: {step}: {shownName name}: {fault.reason}"
    if !errors.isEmpty then { errors := errors.take 1, status := 2 } else
    let lines := (contents.flatMap fun content => linesOf content.bytes).map unended
    let byKeys := compareLines separator keys none
    let full := if has 's' || has 'u' then byKeys
      else compareLines separator keys (some { reverse := overall.reverse })
    if has 'c' || has 'C' then
      let inOrder (first second : List UInt8) : Bool :=
        if has 'u' then byKeys first second = .lt else full first second ≠ .gt
      match disorder? inOrder 1 lines with
      | none => {}
      | some (number, line) =>
        let file := names.headD "-"
        let shown := String.ofList (ofBytes line)
        { errors := if has 'C' then []
            else [s!"{request.name}: {file}:{number}: disorder: {shown}"]
          status := 1 }
    else
      let sorted := lines.mergeSort fun first second => full first second ≠ .gt
      let sorted := if has 'u' then
          distinct (fun first second => byKeys first second = .eq) sorted
        else sorted
      match value 'o' with
      | some file =>
        { system := some (store request request.system file (lineText sorted).bytes false) }
      | none => { output := lineText sorted }

/-! ## Repeated lines -/

/-- Runs of lines that agree, each as its first line and the others. -/
def runs (same : List UInt8 → List UInt8 → Bool) (lines : List (List UInt8)) :
    List (List UInt8 × List (List UInt8)) :=
  (lines.foldl (fun runs line => match runs with
    | (first, later) :: others =>
      if same first line then (first, later ++ [line]) :: others else (line, []) :: runs
    | [] => [(line, [])]) []).reverse

/-- A line without some fields at its start. -/
def withoutFields : Nat → List UInt8 → List UInt8
  | 0, line => line
  | count + 1, line => withoutFields count (Sorting.passWord line)

def uniq : Utility := fun request =>
  let known : OptionTable :=
    { flags := ['c', 'd', 'D', 'i', 'u', 'z']
      valued := ['f', 's', 'w']
      names := [("check-chars", 'w'), ("count", 'c'), ("ignore-case", 'i'), ("repeated", 'd'),
        ("skip-chars", 's'), ("skip-fields", 'f'), ("unique", 'u')] }
  request.withOptions known fun options names =>
    let has (letter : Char) : Bool := options.any (·.1 = letter)
    let value (letter : Char) : Option Nat :=
      ((options.reverse.find? (·.1 = letter)).map (·.2)).bind number?
    match names.drop 2 with
    | extra :: _ => request.misused 1 s!"extra operand {inQuotes extra}"
    | [] =>
    let (contents, errors) := request.contents (names.take 1) fun name fault => match fault with
      | .absent reason => s!"{request.name}: {shownName name}: {reason}"
      | .broken reason => s!"{request.name}: error reading {nameInQuotes name}: {reason}"
    let compared (line : List UInt8) : List UInt8 :=
      let line := (withoutFields ((value 'f').getD 0) line).drop ((value 's').getD 0)
      let line := match value 'w' with
        | some count => line.take count
        | none => line
      if has 'i' then line.map fun byte => UInt8.ofNat (Char.ofNat byte.toNat).toLower.toNat
      else line
    let lines := (contents.flatMap fun content => linesOf content.bytes).map unended
    let found := runs (fun first second => compared first = compared second) lines
    let kept := found.filter fun (_, later) =>
      (!(has 'd' || has 'D') || !later.isEmpty) && (!has 'u' || later.isEmpty)
    let shown := kept.flatMap fun (first, later) =>
      if has 'c' then [bytesOf (aligned 7 (later.length + 1) ++ " ").toList ++ first]
      else if has 'D' then first :: later else [first]
    let response : Response := { errors, status := if errors.isEmpty then 0 else 1 }
    match names[1]? with
    | some file =>
      { response with
        system := some (store request request.system file (lineText shown).bytes false) }
    | none => { response with output := lineText shown }

end ArtifactRelease.Shell.Utility
