import ArtifactRelease.Shell.Regular.Basic

/-!
# Editing scripts

A script is a list of instructions, each with a choice of the lines that it is for.  Blocks are
marked by an instruction at either end.
-/

namespace ArtifactRelease.Shell.Sed

/-- An expression to search for, and how. -/
structure Sought where
  regular : Regular
  manner : Regular.Manner
  deriving Repr

/-- A choice of lines.  Where an expression is missing, the one used last is meant. -/
inductive Address where
  | line (number : Nat)
  | last
  | every (first step : Nat)
  | fitting (sought : Option Sought)
  deriving Repr

inductive Bound where
  | line (number : Nat)
  | last
  | fitting (sought : Option Sought)
  /-- So many lines further on. -/
  | further (count : Nat)
  /-- The next later line whose number is a multiple. -/
  | multiple (of : Nat)
  deriving Repr

inductive Selector where
  | always
  | single (address : Address)
  | range (first : Address) (finish : Bound)
  /-- From before the first line up to one that fits. -/
  | untilFitting (sought : Option Sought)
  deriving Repr

inductive CaseChange where
  | upper
  | lower
  | upperNext
  | lowerNext
  | stop
  deriving Repr, DecidableEq

inductive Part where
  | text (content : List Char)
  | group (number : Nat)
  | change (change : CaseChange)
  deriving Repr

structure Substitution where
  sought : Option Sought
  replacement : List Part
  /-- The first of the fits that is replaced, counted from one. -/
  occurrence : Nat := 1
  /-- Whether all later ones are replaced too. -/
  all : Bool := false
  prints : Bool := false
  file : Option String := none
  deriving Repr

inductive JumpTest where
  | always
  | replaced
  | notReplaced
  deriving Repr, DecidableEq

inductive Action where
  | nothing
  | opening
  | closing
  | label (name : String)
  /-- A jump to a label, or to the end if there is no name. -/
  | jump (test : JumpTest) (name : String)
  | lineNumber
  | fileName
  | append (text : List Char)
  | insert (text : List Char)
  | change (text : List Char)
  | delete
  | deleteFirst
  | clear
  | fetch
  | fetchMore
  | hold
  | holdMore
  | exchange
  | list (width : Option Nat)
  | next
  | nextMore
  | print
  | printFirst
  | quit (status : Nat)
  | quitSilently (status : Nat)
  | readFile (name : String)
  | readLine (name : String)
  | write (name : String)
  | writeFirst (name : String)
  | substitute (substitution : Substitution)
  | mapCharacters (pairs : List (Char × Char))
  deriving Repr

structure Instruction where
  /-- The position in the script, by which a range is remembered. -/
  index : Nat
  selector : Selector := .always
  negated : Bool := false
  action : Action
  deriving Repr

abbrev Script := List Instruction

namespace Script

/-- The instructions behind a block whose opening has been passed. -/
def behindBlock : (depth : Nat) → Script → Script
  | _, [] => []
  | depth, instruction :: later =>
    match instruction.action, depth with
    | .closing, 0 => later
    | .closing, depth + 1 => behindBlock depth later
    | .opening, depth => behindBlock (depth + 1) later
    | _, depth => behindBlock depth later

def behindLabel? (name : String) : Script → Option Script
  | [] => none
  | instruction :: later =>
    match instruction.action with
    | .label other => if other = name then some later else behindLabel? name later
    | _ => behindLabel? name later

/-- The first label that is jumped to and is not there. -/
def missingLabel? (script : Script) : Option String :=
  script.findSome? fun instruction => match instruction.action with
    | .jump _ name =>
      if name.isEmpty || (script.behindLabel? name).isSome then none else some name
    | _ => none

def writtenFiles (script : Script) : List String :=
  script.filterMap fun instruction => match instruction.action with
    | .write name | .writeFirst name => some name
    | .substitute substitution => substitution.file
    | _ => none

end Script

end ArtifactRelease.Shell.Sed
