import ArtifactRelease.Shell.Builtin.Basic

/-!
# Reading a line

A line of the input is split at the field separators and given to variables.
-/

namespace ArtifactRelease.Shell.Builtin

/-- The characters of a line, quoted behind a backslash, and whether the line was complete. -/
def takeLine (raw : Bool) : List Char → List (Char × Bool) × Bool × List Char
  | [] => ([], false, [])
  | '\n' :: rest => ([], true, rest)
  | [c] => (if c = '\\' && !raw then [] else [(c, false)], false, [])
  | c :: next :: rest =>
    if c = '\\' && !raw then
      if next = '\n' then takeLine raw rest
      else
        let (line, complete, rest) := takeLine raw rest
        ((next, true) :: line, complete, rest)
    else
      let (line, complete, rest) := takeLine raw (next :: rest)
      ((c, false) :: line, complete, rest)

/-- Splits a line over a number of names; the last one gets all that is left. -/
def distribute (separators : List Char) : Nat → List (Char × Bool) → List (List Char)
  | 0, _ => []
  | 1, line =>
    let blank (mark : Char × Bool) : Bool :=
      !mark.2 && mark.1 ∈ separators && mark.1 ∈ [' ', '\t', '\n']
    let line := line.dropWhile blank
    let line := (line.reverse.dropWhile blank).reverse
    let separates (mark : Char × Bool) : Bool := !mark.2 && mark.1 ∈ separators
    -- a single separator at the end of a single field belongs to no field
    let trimmed := match line.reverse with
      | last :: others =>
        if separates last && !others.any separates then others.reverse else line
      | [] => line
    [trimmed.map (·.1)]
  | count + 1, line =>
    let separates (mark : Char × Bool) : Bool := !mark.2 && mark.1 ∈ separators
    let blank (mark : Char × Bool) : Bool := separates mark && mark.1 ∈ [' ', '\t', '\n']
    let line := line.dropWhile blank
    let field := line.takeWhile (!separates ·)
    let rest := (line.drop field.length).dropWhile blank
    let rest := match rest with
      | mark :: later => if separates mark then later else rest
      | [] => []
    field.map (·.1) :: distribute separators count rest

def read (arguments : List String) : Run Nat := do
  let (options, names) ← readOptions ['r'] ['p'] (arguments.length + 1) arguments
  let raw : Bool := options.any (·.1 = 'r')
  match names.find? (!isName ·) with
  | some name => failure s!"{name}: bad variable name"
  | none =>
    if names.isEmpty then failure "arg count"
    else
      let content ← Run.readAll 0
      let (line, complete, rest) := takeLine raw (ofBytes content.excerpt)
      Run.unread 0 { content with bytes := bytesOf rest }
      if complete then Run.stopReading 0
      let separators := ((← Run.value? "IFS").getD defaultSeparators).toList
      let values := distribute separators names.length (line.filter (·.1.toNat ≠ 0))
      (names.zip values).forM fun (name, value) => Run.assign name (String.ofList value)
      return if complete then 0 else 1

end ArtifactRelease.Shell.Builtin
