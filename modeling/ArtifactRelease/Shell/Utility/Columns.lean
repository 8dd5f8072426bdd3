import ArtifactRelease.Shell.Utility.Request

/-!
# Programs for parts of lines
-/

namespace ArtifactRelease.Shell.Utility

namespace Cutting

/-- Positions from one up to another, from one on; without an end they go on. -/
structure Span where
  first : Nat
  last : Option Nat
  deriving Repr

structure Wording where
  numbered : String
  invalid : String

def fields : Wording := ⟨"fields are numbered from 1", "invalid field value"⟩

def positions : Wording :=
  ⟨"byte/character positions are numbered from 1", "invalid byte/character position"⟩

/-- A list of positions such as `1,3-5,7-`. -/
def spans (wording : Wording) (text : String) : Except String (List Span) :=
  let isSeparator (c : Char) : Bool := c = ',' || c = ' ' || c = '\t'
  let parts := text.toList.foldr (fun c parts =>
    if isSeparator c then [] :: parts
    else match parts with
      | [] => [[c]]
      | part :: later => (c :: part) :: later) [[]]
  parts.mapM fun part =>
    let shown := String.ofList part
    let number (digits : List Char) : Except String Nat :=
      match number? (String.ofList digits) with
      | some 0 => .error wording.numbered
      | some number => .ok number
      | none =>
        let wrong := String.ofList (part.dropWhile Char.isDigit)
        .error s!"{wording.invalid} {inQuotes wrong}"
    match Text.splitOn '-' part with
    | [single] =>
      if single.isEmpty then .error wording.numbered
      else (number single).map fun number => ⟨number, some number⟩
    | [[], []] => .error s!"invalid range with no endpoint: {shown}"
    | [low, high] => do
      let first ← if low.isEmpty then pure 1 else number low
      if high.isEmpty then return ⟨first, none⟩
      let last ← number high
      if last < first then throw "invalid decreasing range"
      return ⟨first, some last⟩
    | _ => .error s!"{wording.invalid} {inQuotes shown}"

def covers (spans : List Span) (position : Nat) : Bool :=
  spans.any fun span => span.first ≤ position && span.last.all (position ≤ ·)

/-- The items at selected positions, counted from one. -/
def selected {α : Type} (chosen : Nat → Bool) (items : List α) : List α :=
  ((List.zip (List.range items.length) items).filter fun (index, _) => chosen (index + 1)).map (·.2)

def complementLetter : Char := '\x01'

def delimiterLetter : Char := '\x02'

def known : OptionTable :=
  { flags := ['n', 's', 'z', complementLetter]
    valued := ['b', 'c', 'd', 'f', delimiterLetter]
    names := [("bytes", 'b'), ("characters", 'c'), ("complement", complementLetter),
      ("delimiter", 'd'), ("fields", 'f'), ("only-delimited", 's'),
      ("output-delimiter", delimiterLetter)] }

end Cutting

open Cutting in
def cut : Utility := fun request =>
  request.withOptions known fun options names =>
    let value (letter : Char) : Option String := (options.reverse.find? (·.1 = letter)).map (·.2)
    let has (letter : Char) : Bool := options.any (·.1 = letter)
    let lists := options.filter (·.1 ∈ ['b', 'c', 'f'])
    match lists with
    | [] => request.misused 1 "you must specify a list of bytes, characters, or fields"
    | _ :: _ :: _ => request.misused 1 "only one list may be specified"
    | [(letter, list)] =>
    let byFields : Bool := letter = 'f'
    if (value 'd').any (1 < ·.length) then
      request.misused 1 "the delimiter must be a single character"
    else if !byFields && has 'd' then
      request.misused 1 "an input delimiter may be specified only when operating on fields"
    else if !byFields && has 's' then
      request.misused 1
        "suppressing non-delimited lines makes sense\n\tonly when operating on fields"
    else match spans (if byFields then fields else positions) list with
    | .error complaint => request.misused 1 complaint
    | .ok spans =>
      let chosen (position : Nat) : Bool := covers spans position != has complementLetter
      let (contents, errors) := request.contents names request.plainComplaint
      let errors := errors ++ request.closingComplaint names "-"
      let lines := (contents.flatMap fun content => linesOf content.bytes).map unended
      let separator := ((value 'd').bind (·.toList.head?)).getD '\t'
      let joint := ((value delimiterLetter).map String.toList).getD [separator]
      let shown := lines.filterMap fun line =>
        if byFields then
          let pieces := Text.splitOn separator (ofBytes line)
          if pieces.length = 1 then if has 's' then none else some line
          else some (bytesOf (joint.intercalate (selected chosen pieces)))
        else some (selected chosen line)
      { output := lineText shown, errors, status := if errors.isEmpty then 0 else 1 }

end ArtifactRelease.Shell.Utility
