import ArtifactRelease.Shell.Utility.Request

/-!
# Programs that show the beginnings and ends of files
-/

namespace ArtifactRelease.Shell.Utility

namespace Excerpt

/-- How much is meant: lines or bytes, counted from one end or up to the other. -/
structure Amount where
  bytes : Bool := false
  count : Nat := 10
  /-- Whether the count is of what is left out. -/
  without : Bool := false

/-- The numbers that letters behind a number stand for. -/
def unit? : String → Option Nat
  | "" => some 1
  | "b" => some 512
  | "kB" => some 1000
  | "k" | "K" | "KiB" => some 1024
  | "MB" => some 1000000
  | "M" | "MiB" => some 1048576
  | _ => none

def count? (text : List Char) : Option Nat :=
  let digits := text.takeWhile Char.isDigit
  if digits.isEmpty then none
  else (unit? (String.ofList (text.drop digits.length))).map (Number.ofDigits digits * ·)

/-- A hyphen with a number at the start stands for an option with it, and for a plus sign the same
holds if `plus`. -/
def spelledOut (plus : Bool) (arguments : List String) : List String :=
  match arguments with
  | first :: rest =>
    match first.toList with
    | '-' :: digit :: digits =>
      if digit.isDigit then "-n" :: String.ofList (digit :: digits) :: rest else arguments
    | '+' :: digit :: _ =>
      if plus && digit.isDigit && rest.length ≤ 1 then "-n" :: first :: rest else arguments
    | _ => arguments
  | [] => []

def names : List (String × Char) :=
  [("bytes", 'c'), ("lines", 'n'), ("quiet", 'q'), ("silent", 'q'), ("verbose", 'v')]

/-- What files show under their names, where names are shown. -/
def titled (request : Request) (files : List String) (named fromEnd : Bool)
    (shown : Content → List UInt8) : Response :=
  let results := files.map fun file => (file, request.content file)
  let (output, errors) := results.foldl (fun (output, errors) (file, result) =>
    let title := if file = "-" then "standard input" else file
    let heading (first : Bool) : List UInt8 :=
      if !named then []
      else bytesOf ((if first then "" else "\n") ++ s!"==> {title} <==\n").toList
    match result with
    | .ok content => (output ++ heading output.isEmpty ++ shown content, errors)
    | .error (.broken reason) =>
      let step := if fromEnd && request.inputIsClosed then "cannot fstat" else "error reading"
      (output ++ heading output.isEmpty,
        errors ++ [s!"{request.name}: {step} {nameInQuotes title}: {reason}"])
    | .error (.absent reason) =>
      let complaint := s!"cannot open {nameInQuotes file} for reading: {reason}"
      (output, errors ++ [s!"{request.name}: {complaint}"]))
    (([] : List UInt8), ([] : List String))
  let errors := errors ++ request.closingComplaint files "-"
  let left := match results.filter (·.1 = "-") with
    | [(_, .ok content)] =>
      if fromEnd then 0 else content.bytes.length - (shown content).length
    | _ => 0
  { output := { bytes := output }, errors, status := if errors.isEmpty then 0 else 1, left }

/-- Reads the amount off the options, and shows files. -/
def answered (request : Request) (sign : Char) (fromEnd : Bool)
    (shown : Amount → Content → List UInt8) : Response :=
  let known : OptionTable :=
    { flags := if fromEnd then ['f', 'F', 'q', 'v', 'z'] else ['q', 'v', 'z']
      valued := if fromEnd then ['c', 'n', 's'] else ['c', 'n']
      names }
  request.withOptions known fun options files =>
    let (letter, value) := (options.filter (·.1 ∈ ['n', 'c'])).getLast?.getD ('n', "10")
    let (without, digits) := match value.toList with
      | c :: rest => if c = sign then (true, rest)
        else if fromEnd && c = '-' then (false, rest) else (false, c :: rest)
      | [] => (false, [])
    match count? digits with
    | none =>
      let unit := if letter = 'c' then "bytes" else "lines"
      { errors := [s!"{request.name}: invalid number of {unit}: {inQuotes value}"], status := 1 }
    | some count =>
      let files := if files.isEmpty then ["-"] else files
      let named := match (options.filter (·.1 ∈ ['q', 'v'])).getLast? with
        | some ('q', _) => false
        | some _ => true
        | none => 1 < files.length
      let isThrough (content : Content) : Bool :=
        count ≤ if letter = 'c' then content.bytes.length else content.bytes.count 0x0A
      { titled request files named fromEnd (shown { bytes := letter = 'c', count, without }) with
        stopped := !fromEnd && !without && isThrough request.input }

end Excerpt

open Excerpt in
def head : Utility := fun request =>
  let shown (amount : Amount) (content : Content) : List UInt8 :=
    if amount.bytes then
      if amount.without then content.bytes.take (content.bytes.length - amount.count)
      else content.take amount.count
    else
      let bytes := if content.endless.isEmpty then content.bytes
        else content.take (content.bytes.length + amount.count * content.endless.length)
      let lines := linesOf bytes
      (lines.take (if amount.without then lines.length - amount.count else amount.count)).flatten
  answered { request with arguments := spelledOut false request.arguments } '-' false shown

open Excerpt in
def tail : Utility := fun request =>
  let shown (amount : Amount) (content : Content) : List UInt8 :=
    let pick {α : Type} (items : List α) : List α :=
      items.drop (if amount.without then amount.count - 1 else items.length - amount.count)
    if amount.bytes then pick content.bytes else (pick (linesOf content.bytes)).flatten
  answered { request with arguments := spelledOut true request.arguments } '+' true shown

/-! ## Counting -/

def wordCount (bytes : List UInt8) : Nat :=
  let isBlank (byte : UInt8) : Bool := byte = 0x20 || (0x09 ≤ byte && byte ≤ 0x0D)
  (bytes.foldl (fun (count, inside) byte =>
    if isBlank byte then (count, false)
    else (if inside then count else count + 1, true)) ((0, false) : Nat × Bool)).1

def lineWidth (line : List UInt8) : Nat :=
  line.foldl (fun width byte =>
    if byte = 0x09 then width / 8 * 8 + 8
    else if 0x20 ≤ byte && byte < 0x7F then width + 1 else width) 0

def wc : Utility := fun request =>
  let known : OptionTable :=
    { flags := ['l', 'w', 'c', 'm', 'L']
      names := [("bytes", 'c'), ("chars", 'm'), ("lines", 'l'), ("max-line-length", 'L'),
        ("words", 'w')] }
  request.withOptions known fun options names =>
    let options := if options.isEmpty then [('l', ""), ('w', ""), ('c', "")] else options
    let wanted := ['l', 'w', 'm', 'c', 'L'].filter fun letter => options.any (·.1 = letter)
    let count (bytes : List UInt8) : Char → Nat
      | 'l' => (bytes.filter (· = 0x0A)).length
      | 'w' => wordCount bytes
      | 'L' => ((linesOf bytes).map lineWidth).foldl max 0
      | _ => bytes.length
    let files := if names.isEmpty then ["-"] else names
    let results := files.map fun file => (file, request.content file)
    let counts := results.filterMap fun (file, result) => match result with
      | .ok content => some (file, wanted.map (count content.bytes))
      | .error (.broken _) => some (file, wanted.map fun _ => 0)
      | .error (.absent _) => none
    let errors := results.filterMap fun (file, result) => match result with
      | .ok _ => none
      | .error fault =>
        if file.isEmpty then some s!"{request.name}: invalid zero-length file name"
        else some (request.plainComplaint (if names.isEmpty then "standard input" else file) fault)
    let errors := errors ++ request.closingComplaint names "-"
    let isRegular (file : String) : Bool :=
      if file = "-" then request.inputFile.isSome
      else match request.system.find request.directory file with
        | .ok (.file _) | .ok (.program _) => true
        | _ => false
    let isThere : Except ReadFault Content → Bool
      | .ok _ => true
      | .error fault => fault = .broken isDirectoryReason
    let size := ((results.filter fun (file, _) => isRegular file).map fun (_, result) =>
      (result.toOption.map (·.bytes.length)).getD 0).foldl (· + ·) 0
    let width := if files.length = 1 && wanted.length = 1 then 1
      else if files.all isRegular then (toString size).length
      else if (results.any fun (file, result) => isThere result && !isRegular file) then
        max 7 (toString size).length
      else (toString size).length
    let shown (counts : List Nat) (name : String) : String :=
      let numbers := " ".intercalate (counts.map (aligned width))
      if name.isEmpty then numbers ++ "\n" else s!"{numbers} {name}\n"
    let lines := counts.map fun (file, counts) => shown counts (if names.isEmpty then "" else file)
    let total := counts.foldl (fun total (_, counts) => List.zipWith (· + ·) total counts)
      (wanted.map fun _ => 0)
    let lines := if 1 < files.length then lines ++ [shown total "total"] else lines
    { output := text (String.join lines).toList
      errors, status := if errors.isEmpty then 0 else 1 }

end ArtifactRelease.Shell.Utility
