import ArtifactRelease.Shell.Utility.Request

/-!
# Texts one after the other

Files are written one after the other, on request with numbers in front of their lines or with
unusual characters made visible.
-/

namespace ArtifactRelease.Shell.Utility

structure Dressing where
  numbers : Bool := false
  /-- Whether empty lines are left without numbers. -/
  onlyFull : Bool := false
  /-- Whether of several empty lines only one is kept. -/
  squeezes : Bool := false
  ends : Bool := false
  tabs : Bool := false
  unusual : Bool := false

/-- A byte that does not stand for itself, so that it can be seen. -/
def visibleByte (byte : UInt8) : List UInt8 :=
  let low (byte : UInt8) : List UInt8 :=
    if byte < 32 then [0x5E, byte + 64] else if byte = 127 then [0x5E, 0x3F] else [byte]
  if byte < 128 then low byte else [0x4D, 0x2D] ++ low (byte - 128)

namespace Dressing

def dressByte (dressing : Dressing) (byte : UInt8) : List UInt8 :=
  if byte = 0x0A then if dressing.ends then [0x24, byte] else [byte]
  else if byte = 0x09 then if dressing.tabs then [0x5E, 0x49] else [byte]
  else if dressing.unusual then visibleByte byte
  else [byte]

/-- Dresses up lines; `number` is that of the next one, and `last` tells whether the one before was
empty. -/
def dress (dressing : Dressing) : (number : Nat) → (last : Bool) → List (List UInt8) → List UInt8
  | _, _, [] => []
  | number, last, line :: later =>
    let empty : Bool := line = [0x0A]
    if dressing.squeezes && empty && last then dressing.dress number true later
    else
      let counts : Bool := dressing.numbers && !(dressing.onlyFull && empty)
      let label := if counts then bytesOf (aligned 6 number ++ "\t").toList else []
      label ++ line.flatMap dressing.dressByte
        ++ dressing.dress (if counts then number + 1 else number) empty later

end Dressing

def cat : Utility := fun request =>
  let known : OptionTable :=
    { flags := ['A', 'b', 'e', 'E', 'n', 's', 't', 'T', 'u', 'v']
      names := [("number", 'n'), ("number-nonblank", 'b'), ("show-all", 'A'), ("show-ends", 'E'),
        ("show-nonprinting", 'v'), ("show-tabs", 'T'), ("squeeze-blank", 's')] }
  request.withOptions known fun options names =>
    let has (letters : List Char) : Bool := options.any (·.1 ∈ letters)
    let files := if names.isEmpty then ["-"] else names
    let isOwn (name : String) : Bool := (request.ownOutput? name).any fun (path, read) =>
      match request.system.place path with
      | .file content => read < content.length
      | _ => false
    let (own, others) := files.partition isOwn
    let (contents, errors) := if others.isEmpty then ([], [])
      else request.contents others request.plainComplaint
    let clashes := own.map fun name =>
      s!"{request.name}: {shownName name}: input file is output file"
    let errors := clashes ++ errors ++ request.closingComplaint names "closing standard input"
    let content := joinContents contents
    let dressing : Dressing :=
      { numbers := has ['n', 'b'], onlyFull := has ['b'], squeezes := has ['s']
        ends := has ['A', 'e', 'E'], tabs := has ['A', 't', 'T']
        unusual := has ['A', 'e', 't', 'v'] }
    let bytes := if has ['A', 'b', 'e', 'E', 'n', 's', 't', 'T', 'v'] then
        dressing.dress 1 false (linesOf content.bytes)
      else content.bytes
    { output := { content with bytes }, errors, status := if errors.isEmpty then 0 else 1 }

end ArtifactRelease.Shell.Utility
