import ArtifactRelease.Shell.Utility.Request

/-!
# Programs that write bytes in other digits
-/

namespace ArtifactRelease.Shell.Utility

namespace Dump

inductive Style where
  | characters
  /-- Numbers of some bytes in a base, with signs if `signed`. -/
  | numbers (size base : Nat) (signed : Bool)
  deriving Repr, DecidableEq

/-- How many characters a number takes, without the blank in front of it. -/
def Style.width : Style → Nat
  | characters => 3
  | numbers size base signed =>
    let largest := Nat.pow 256 size - 1
    let digits := (Nat.toDigits base (if signed then (largest + 1) / 2 else largest)).length
    if signed then digits + 1 else digits

def Style.size : Style → Nat
  | characters => 1
  | numbers size _ _ => size

def characterText (byte : UInt8) : String :=
  match byte.toNat with
  | 0 => "\\0"
  | 7 => "\\a"
  | 8 => "\\b"
  | 9 => "\\t"
  | 10 => "\\n"
  | 11 => "\\v"
  | 12 => "\\f"
  | 13 => "\\r"
  | code =>
    if 32 ≤ code && code < 127 then String.ofList [Char.ofNat code]
    else
      let digits := Nat.toDigits 8 code
      String.ofList (List.replicate (3 - digits.length) '0' ++ digits)

/-- The text of the bytes of one number, the lowest first. -/
def Style.item (style : Style) (bytes : List UInt8) : String :=
  match style with
  | characters => alignedText 4 (characterText (bytes.headD 0))
  | numbers size base signed =>
    let value := bytes.foldr (fun byte value => byte.toNat + 256 * value) 0
    let width := style.width
    if base = 10 then
      let limit := Nat.pow 256 size
      let shown : Int := if signed && limit ≤ 2 * value then (value : Int) - limit else value
      alignedText (width + 1) (toString shown)
    else
      let digits := Nat.toDigits base value
      " " ++ String.ofList (List.replicate (width - digits.length) '0' ++ digits)

/-- Pieces of some length; the last one may be shorter. -/
def pieces {α : Type} (size : Nat) : (fuel : Nat) → List α → List (List α)
  | 0, _ => []
  | _, [] => []
  | fuel + 1, items => items.take size :: pieces size fuel (items.drop size)

def style? (text : String) : Option Style :=
  let sized (base : Nat) (signed : Bool) (digits : List Char) : Option Style :=
    match digits with
    | [] => some (.numbers 4 base signed)
    | ['1'] => some (.numbers 1 base signed)
    | ['2'] => some (.numbers 2 base signed)
    | ['4'] => some (.numbers 4 base signed)
    | ['8'] => some (.numbers 8 base signed)
    | _ => none
  match text.toList with
  | ['c'] => some .characters
  | 'o' :: digits => sized 8 false digits
  | 'x' :: digits => sized 16 false digits
  | 'u' :: digits => sized 10 false digits
  | 'd' :: digits => sized 10 true digits
  | _ => none

def offsetText (base : Option Nat) (offset : Nat) : String :=
  match base with
  | none => ""
  | some base =>
    let digits := Nat.toDigits base offset
    let width := if base = 16 then 6 else 7
    String.ofList (List.replicate (width - digits.length) '0' ++ digits)

/-- The lines for pieces of sixteen bytes; of equal ones in a row only the first is shown, unless
`complete`. -/
def lines (base : Option Nat) (styles : List Style) (complete : Bool) :
    (offset : Nat) → (last : List UInt8) → (starred : Bool) → List (List UInt8) → List String
  | _, _, _, [] => []
  | offset, last, starred, piece :: later =>
    if piece = last && !complete then
      let others := lines base styles complete (offset + piece.length) last true later
      if starred then others else "*" :: others
    else
      let rows := styles.map fun style =>
        String.join ((pieces style.size 16 piece).map style.item)
      let blank := if base.isSome then "       " else ""
      let named := (List.zip (List.range rows.length) rows).map fun (index, row) =>
        (if index = 0 then offsetText base offset else blank) ++ row
      named ++ lines base styles complete (offset + piece.length) piece false later

end Dump

open Dump in
def od : Utility := fun request =>
  let known : OptionTable :=
    { flags := ['b', 'c', 'd', 'o', 'v', 'x'], valued := ['A', 'j', 'N', 't'] }
  request.withOptions known fun options names =>
    let value (letter : Char) : Option String := (options.reverse.find? (·.1 = letter)).map (·.2)
    let styles := options.filterMap fun (letter, value) => match letter with
      | 'b' => some (.numbers 1 8 false)
      | 'c' => some .characters
      | 'd' => some (.numbers 2 10 false)
      | 'o' => some (.numbers 2 8 false)
      | 'x' => some (.numbers 2 16 false)
      | 't' => style? value
      | _ => none
    let styles := if styles.isEmpty then [Style.numbers 2 8 false] else styles
    let base := match value 'A' with
      | some "n" => none
      | some "d" => some 10
      | some "x" => some 16
      | _ => some 8
    let (contents, errors) := request.contents names fun name fault =>
      request.plainComplaint (if name = "-" then "standard input" else name) fault
    let errors := errors ++ request.closingComplaint names "standard input"
    let absent : Bool := !names.isEmpty && names.all fun name => match request.content name with
      | .error (.absent _) => true
      | _ => false
    let skipped := ((value 'j').bind number?).getD 0
    let bytes := (joinContents contents).excerpt.drop skipped
    let bytes := match (value 'N').bind number? with
      | some count => bytes.take count
      | none => bytes
    let complete : Bool := options.any (·.1 = 'v')
    let shown := lines base styles complete skipped [] false (pieces 16 (bytes.length + 1) bytes)
    let ending := if base.isSome && !absent
      then [offsetText base (skipped + bytes.length)] else []
    { output := text (String.join ((shown ++ ending).map (· ++ "\n"))).toList
      errors, status := if errors.isEmpty then 0 else 1
      stopped := ((value 'N').bind number?).any (· ≤ bytes.length)
      left := if names.isEmpty then request.input.bytes.length - (skipped + bytes.length) else 0 }

end ArtifactRelease.Shell.Utility
