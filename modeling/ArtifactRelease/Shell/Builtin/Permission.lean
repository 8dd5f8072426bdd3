import ArtifactRelease.Shell.Builtin.Basic

/-!
# Permissions

The permissions that new files are not given, as octal digits or by letters for the user, the group
and the others.
-/

namespace ArtifactRelease.Shell.Builtin

def octalMask (mask : Nat) : String :=
  let digits := Nat.toDigits 8 mask
  String.ofList (List.replicate (4 - digits.length) '0' ++ digits)

/-- The permissions that a mask leaves, by letters. -/
def symbolicMask (mask : Nat) : String :=
  let allowed := 0o777 - mask
  let letters (shift : Nat) : String :=
    let bits := allowed / Nat.pow 8 shift % 8
    (if 4 ≤ bits then "r" else "") ++ (if bits / 2 % 2 = 1 then "w" else "")
      ++ if bits % 2 = 1 then "x" else ""
  s!"u={letters 2},g={letters 1},o={letters 0}"

/-- The places that letters for people stand for, as one bit for each of the three. -/
def modePlaces (letters : List Char) : Nat :=
  let bit (letter : Char) (value : Nat) : Nat :=
    if letter ∈ letters || 'a' ∈ letters then value else 0
  if letters.isEmpty then 0o111 else bit 'u' 0o100 + bit 'g' 0o010 + bit 'o' 0o001

/-- The permissions of one person that letters stand for, where those of all are known. -/
def modeValue (allowed : Nat) (letters : List Char) : Nat :=
  letters.foldl (fun value letter => value ||| match letter with
    | 'r' => 4
    | 'w' => 2
    | 'x' => 1
    | 'u' => allowed / 64 % 8
    | 'g' => allowed / 8 % 8
    | 'o' => allowed % 8
    | 'X' => if allowed &&& 0o111 = 0 then 0 else 1
    | _ => 0) 0

/-- Changes permissions by the operations that follow one choice of places; gives what is left. -/
def modeOperations (allowed places : Nat) : (fuel : Nat) → Nat → List Char → Nat × List Char
  | 0, mode, text => (mode, text)
  | fuel + 1, mode, text =>
    match text with
    | operator :: rest =>
      if operator ∉ ['=', '+', '-'] then (mode, text)
      else
        let letters := rest.takeWhile (· ∈ "rwxugoXs".toList)
        let value := modeValue allowed letters * places
        let changed := match operator with
          | '-' => mode &&& (0o777 - value)
          | '+' => mode ||| value
          | _ => value ||| (mode &&& (0o777 - places * 7))
        modeOperations allowed places fuel changed (rest.drop letters.length)
    | [] => (mode, [])

/-- The permissions after the changes that a text describes. -/
def changedMode? (allowed : Nat) : (fuel : Nat) → Nat → List Char → Option Nat
  | 0, _, _ => none
  | fuel + 1, mode, text =>
    let people := text.takeWhile (· ∈ "augo".toList)
    let (mode, rest) :=
      modeOperations allowed (modePlaces people) text.length mode (text.drop people.length)
    match rest with
    | [] => some mode
    | ',' :: rest =>
      if rest.isEmpty then some mode else changedMode? allowed fuel mode rest
    | _ => none

def umask (arguments : List String) : Run Nat := do
  let (letters, arguments) ← withLetters ['S'] arguments
  let symbolic : Bool := !letters.isEmpty
  let mask := (← Run.process).mask
  match arguments with
  | [] =>
    output "umask" ((if symbolic then symbolicMask mask else octalMask mask) ++ "\n").toList 0
  | argument :: _ =>
    let text := argument.toList
    if text.head?.any Char.isDigit then
      if text.all Format.isOctal then
        let mask := Arithmetic.valueIn 8 text % 0o1000
        Run.change fun process => { process with mask }
        return 0
      else Run.abort s!"Illegal number: {argument}"
    else
      let allowed := 0o777 - mask
      match changedMode? allowed (text.length + 1) allowed text with
      | some mode =>
        Run.change fun process => { process with mask := 0o777 - mode }
        return 0
      | none => Run.abort s!"Illegal mode: {argument}"

end ArtifactRelease.Shell.Builtin
