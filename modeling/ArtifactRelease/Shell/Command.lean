import ArtifactRelease.Shell.Octets

/-!
# Shell commands

The commands of a shell, in which the behaviour of a child process can be written down.  Commands
are made of words, and words can hold scripts, whose output takes their place.
-/

namespace ArtifactRelease.Shell

/-- What is done to the value of a parameter before it is used. -/
inductive Adjustment where
  | plain
  | length
  /-- Another text in place of a value that is missing. -/
  | fallback
  /-- Like `fallback`, and the parameter keeps it. -/
  | assigned
  /-- A value that is missing ends the shell with a text. -/
  | required
  /-- Another text in place of a value that is there. -/
  | alternative
  /-- Without a beginning that fits a pattern. -/
  | withoutStart (longest : Bool)
  /-- Without an end that fits a pattern. -/
  | withoutEnd (longest : Bool)
  /-- What stands in the braces has no meaning. -/
  | unknown
  deriving Repr, DecidableEq

/-- A piece of a word, over the scripts that words can hold.  What stands in quotes is not split
into fields. -/
inductive Piece (Script : Type) where
  | text (content : List Char) (quoted : Bool)
  /-- The home directory of a user; without a name, of the one who runs the shell. -/
  | home (user : List Char)
  /-- A parameter; `blankIsMissing` if an empty value counts as none. -/
  | parameter (name : String) (adjustment : Adjustment) (blankIsMissing : Bool)
      (operand : List (Piece Script)) (quoted : Bool)
  | substitution (script : Script) (quoted : Bool)
  | arithmetic (expression : List (Piece Script)) (quoted : Bool)
  deriving Inhabited

inductive RedirectionKind where
  | read
  | write
  /-- Writing even over a file that is to be kept. -/
  | overwrite
  | append
  | readWrite
  /-- The same channel as another descriptor, or none. -/
  | duplicate
  /-- A text from the script itself. -/
  | document
  deriving Repr, DecidableEq, Inhabited

/-- A redirection of a descriptor, over the scripts that words can hold. -/
structure Rerouting (Script : Type) where
  descriptor : Nat
  kind : RedirectionKind
  target : List (Piece Script)
  deriving Inhabited

inductive Command where
  | simple (line : Nat) (assignments : List (String × List (Piece Command)))
      (words : List (List (Piece Command))) (redirections : List (Rerouting Command))
  | sequence (commands : List Command)
  /-- `second` runs only if `first` ended in success, or only if it did not. -/
  | conditional (onSuccess : Bool) (first second : Command)
  | negated (body : Command)
  | pipeline (stages : List Command)
  | background (body : Command)
  /-- Repeats `body` while `condition` succeeds, or while it fails. -/
  | loop (whileSuccess : Bool) (condition body : Command)
  | choice (condition onSuccess onFailure : Command)
  /-- Runs `body` for each field of the words or, without words, for each positional parameter. -/
  | each (line : Nat) (name : String) (words : Option (List (List (Piece Command))))
      (body : Command)
  | select (line : Nat) (subject : List (Piece Command))
      (cases : List (List (List (Piece Command)) × Command))
  | redirected (line : Nat) (body : Command) (redirections : List (Rerouting Command))
  | subshell (line : Nat) (body : Command) (redirections : List (Rerouting Command))
  | function (name : String) (body : Command)
  /-- A command behind which the process that runs it has nothing left to do. -/
  | last (body : Command)
  deriving Inhabited

abbrev Segment := Piece Command

abbrev Word := List Segment

abbrev Redirection := Rerouting Command

/-- A command that is the last of its process, with the mark on those it comes to at its end. -/
def Command.withLast : Command → Command
  | .sequence commands => .sequence (commands.dropLast ++ (commands.getLast?.map .last).toList)
  | .conditional onSuccess first second => .conditional onSuccess first (.last second)
  | .choice condition onSuccess onFailure => .choice condition (.last onSuccess) (.last onFailure)
  | .select line subject cases =>
    .select line subject (cases.map fun (patterns, body) => (patterns, .last body))
  | command => command

/-- The text of a word without quotes and expansions. -/
def plainText? : Word → Option String
  | [.text content false] => some (String.ofList content)
  | _ => none

abbrev Aliases := List (String × List Char)

/-- A script that cannot be read, with the line at which that was found. -/
structure Fault where
  line : Nat
  message : String
  deriving Repr, DecidableEq

end ArtifactRelease.Shell
