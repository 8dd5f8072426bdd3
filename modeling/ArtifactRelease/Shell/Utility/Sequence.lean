import ArtifactRelease.Shell.Utility.Request

/-!
# Sequences of numbers

Numbers from a first one on, at equal distances, up to a last one.  All have as many places as the
first or the distance is written with.  They are counted in the smallest unit that is written, so
that no sum is rounded.
-/

namespace ArtifactRelease.Shell.Utility

namespace Sequence

structure Bound where
  /-- The number, in units of its last place. -/
  units : Int
  places : Nat
  /-- How many characters it takes with just its places. -/
  width : Nat
  deriving Repr

def Bound.unitsAt (bound : Bound) (places : Nat) : Int :=
  bound.units * (Nat.pow 10 (places - bound.places) : Nat)

/-- Reads a number with an optional sign, point and exponent. -/
def bound? (text : String) : Option Bound :=
  let (negative, unsigned) := match text.toList.dropWhile Floating.isSpace with
    | '-' :: rest => (true, rest)
    | '+' :: rest => (false, rest)
    | rest => (false, rest)
  let (whole, fraction, rest) := Floating.readPlaces Char.isDigit unsigned
  let (power, rest) := Floating.readExponent 'e' rest
  if (whole.isEmpty && fraction.isEmpty) || !rest.isEmpty || 300 < power.natAbs then none
  else
    let places : Nat := ((fraction.length : Int) - power).toNat
    let magnitude : Nat := Number.ofDigits (whole ++ fraction)
      * Nat.pow 10 (places + power - (fraction.length : Int)).toNat
    let wholeWidth := if power = 0 then max 1 whole.length
      else max 1 ((whole.length : Int) + power).toNat
    let width := (if negative then 1 else 0) + wholeWidth
      + (if places = 0 then 0 else places + 1)
    some { units := if negative then -(magnitude : Int) else magnitude, places, width }

/-- A number in units of a last place, filled with zeros up to a width. -/
def shown (width places : Nat) (units : Int) : List Char :=
  let magnitude := units.natAbs
  let digits := Number.digits (magnitude / Nat.pow 10 places)
    ++ if places = 0 then [] else '.' :: Number.padded places (magnitude % Nat.pow 10 places)
  let sign : List Char := if units < 0 then ['-'] else []
  sign ++ List.replicate (width - sign.length - digits.length) '0' ++ digits

def commonWidth (first last : Bound) (places : Nat) : Nat :=
  let firstWidth := first.width + (places - first.places)
    + if first.places = 0 && places ≠ 0 then 1 else 0
  let lastWidth := (last.width + places) - last.places
    + (if last.places = 0 && places ≠ 0 then 1 else 0)
    - if last.places ≠ 0 && places = 0 then 1 else 0
  max firstWidth lastWidth

/-- A format with one number in it: the text around it and how it is written. -/
structure Template where
  before : List Char
  layout : Format.Layout
  letter : Char
  behind : List Char

/-- Text up to the first conversion, in which two percent signs stand for one. -/
def plain : List Char → List Char × List Char
  | [] => ([], [])
  | '%' :: '%' :: rest =>
    let (text, rest) := plain rest
    ('%' :: text, rest)
  | '%' :: rest => ([], '%' :: rest)
  | c :: rest =>
    let (text, rest) := plain rest
    (c :: text, rest)

def template (format : String) : Except String Template :=
  match plain format.toList with
  | (_, []) => .error s!"format {inQuotes format} has no % directive"
  | (before, _ :: conversion) =>
    let (layout, _, rest) := Format.Printing.readLayout { arguments := [] } conversion
    match rest with
    | [] => .error s!"format {inQuotes format} ends in %"
    | letter :: rest =>
      if letter.toLower ∉ ['a', 'e', 'f', 'g'] then
        .error s!"format {inQuotes format} has unknown %{letter} directive"
      else match plain rest with
        | (behind, []) => .ok { before, layout, letter, behind }
        | _ => .error s!"format {inQuotes format} has too many % directives"

/-- A number in units of a last place, as a format shows it. -/
def Template.shown (template : Template) (places : Nat) (units : Int) : List Char :=
  let value : Floating := .finite (units < 0) ⟨units.natAbs, Nat.pow 10 places⟩
  template.before ++ template.layout.floating template.letter value ++ template.behind

structure Options where
  separator : String := "\n"
  equalWidth : Bool := false
  format : Option String := none
  operands : List String := []

/-- Whether an argument is a negative number and no option. -/
def isNegative (argument : List Char) : Bool :=
  match argument with
  | '-' :: c :: _ => c.isDigit || c = '.'
  | _ => false

def options : (fuel : Nat) → Options → List String → Except String Options
  | 0, options, _ => .ok options
  | _, options, [] => .ok options
  | fuel + 1, found, argument :: rest =>
    let valued (letter : Char) (value : List Char) (set : String → Options) :
        Except String Options :=
      if !value.isEmpty then options fuel (set (String.ofList value)) rest
      else match rest with
        | value :: rest => options fuel (set value) rest
        | [] => .error s!"option requires an argument -- '{letter}'"
    match argument.toList with
    | '-' :: '-' :: [] => .ok { found with operands := rest }
    | '-' :: '-' :: name =>
      let name := String.ofList name
      if name = "equal-width" then options fuel { found with equalWidth := true } rest
      else if name.startsWith "separator=" then
        options fuel { found with separator := String.ofList (name.toList.drop 10) } rest
      else if name.startsWith "format=" then
        options fuel { found with format := some (String.ofList (name.toList.drop 7)) } rest
      else .error s!"unrecognized option '--{name}'"
    | '-' :: 's' :: value => valued 's' value fun separator => { found with separator }
    | '-' :: 'f' :: value => valued 'f' value fun format => { found with format := some format }
    | '-' :: 'w' :: letters =>
      let rest := if letters.isEmpty then rest else String.ofList ('-' :: letters) :: rest
      options fuel { found with equalWidth := true } rest
    | '-' :: letter :: letters =>
      if isNegative ('-' :: letter :: letters) then .ok { found with operands := argument :: rest }
      else .error s!"invalid option -- '{letter}'"
    | _ => .ok { found with operands := argument :: rest }

end Sequence

open Sequence in
def seq : Utility := fun request =>
  let fuel := (" ".intercalate request.arguments).length + request.arguments.length + 1
  match options fuel {} request.arguments with
  | .error complaint => request.misused 1 complaint
  | .ok options =>
    if options.operands.isEmpty then request.misused 1 "missing operand" else
    match options.operands.drop 3 with
    | extra :: _ => request.misused 1 s!"extra operand {inQuotes extra}"
    | [] =>
    match options.format.map template with
    | some (.error complaint) => { errors := [s!"{request.name}: {complaint}"], status := 1 }
    | chosen =>
    match options.operands.find? fun operand => (bound? operand).isNone with
    | some operand => request.misused 1 s!"invalid floating point argument: {inQuotes operand}"
    | none =>
      let one : Bound := { units := 1, places := 0, width := 1 }
      let (first, step, last) := match options.operands.filterMap bound? with
        | [last] => (one, one, last)
        | [first, last] => (first, one, last)
        | [first, step, last] => (first, step, last)
        | _ => (one, one, one)
      if step.units = 0 then
        let written := (options.operands.drop 1).headD ""
        request.misused 1 s!"invalid Zero increment value: {inQuotes written}"
      else if options.equalWidth && options.format.isSome then
        request.misused 1 "format string may not be specified when printing equal width strings"
      else
        let unit := max first.places (max step.places last.places)
        let places := max first.places step.places
        let (low, distance, high) := (first.unitsAt unit, step.unitsAt unit, last.unitsAt unit)
        let count := ((high - low).fdiv distance + 1).toNat
        let width := if options.equalWidth then commonWidth first last places else 0
        let entry (index : Nat) : List Char :=
          let units := low + distance * (index : Int)
          match chosen with
          | some (.ok template) => template.shown unit units
          | _ => Sequence.shown width places (units / (Nat.pow 10 (unit - places) : Nat))
        let lines := (List.range count).map entry
        let ending : List Char := if lines.isEmpty then [] else ['\n']
        { output := text (options.separator.toList.intercalate lines ++ ending) }

end ArtifactRelease.Shell.Utility
