import ArtifactRelease.Shell.Regular.Basic

/-!
# Scripts for records

A script is a list of rules.  A rule has a pattern that chooses records, and statements for the
chosen ones.
-/

namespace ArtifactRelease.Shell.Awk

inductive Arithmetic where
  | add
  | subtract
  | multiply
  | divide
  | remainder
  | power
  deriving Repr, DecidableEq

inductive Comparison where
  | less
  | lessOrEqual
  | equal
  | unequal
  | greater
  | greaterOrEqual
  deriving Repr, DecidableEq

inductive Sign where
  | plus
  | minus
  | negation
  deriving Repr, DecidableEq

inductive Expression where
  | number (value : Float)
  | text (content : String)
  /-- An expression to search for, which by itself is searched for in the record. -/
  | regular (regular : Regular)
  | variable (name : String)
  | element (table : String) (indices : List Expression)
  | field (index : Expression)
  | assign (target : Expression) (operator : Option Arithmetic) (value : Expression)
  /-- Adds one to a target or takes one away, before or after its value is taken. -/
  | step (target : Expression) (up first : Bool)
  | signed (sign : Sign) (operand : Expression)
  | arithmetic (operator : Arithmetic) (left right : Expression)
  | join (left right : Expression)
  | compare (comparison : Comparison) (left right : Expression)
  | fits (negated : Bool) (text regular : Expression)
  | both (left right : Expression)
  | either (left right : Expression)
  | choose (condition yes no : Expression)
  | member (indices : List Expression) (table : String)
  /-- A call of a function of the script. -/
  | call (name : String) (arguments : List Expression)
  /-- A call of a function that is always there. -/
  | builtin (name : String) (arguments : List Expression)
  /-- The next record of the input or of a file. -/
  | nextRecord (target : Option Expression) (file : Option Expression)
  /-- An expression in parentheses. -/
  | grouped (inner : Expression)

inductive Destination where
  | output
  | file (name : Expression) (appends : Bool)

inductive Statement where
  | evaluate (expression : Expression)
  | print (arguments : List Expression) (destination : Destination)
  | printFormatted (arguments : List Expression) (destination : Destination)
  | branch (condition : Expression) (yes no : List Statement)
  /-- A loop; the condition is tested first unless `bodyFirst`. -/
  | loop (condition : Expression) (body : List Statement) (bodyFirst : Bool)
  | counted (start : List Statement) (condition : Option Expression) (step body : List Statement)
  | each (name table : String) (body : List Statement)
  | block (body : List Statement)
  /-- Removes an element, or all of them. -/
  | delete (table : String) (indices : Option (List Expression))
  | next
  | nextFile
  | leave (status : Option Expression)
  | give (value : Option Expression)
  | stop
  | proceed

inductive Pattern where
  | first
  | last
  | always
  | when (condition : Expression)
  | range (first last : Expression)

structure Rule where
  pattern : Pattern
  /-- What is done; without it the record is written. -/
  body : Option (List Statement)

structure Function where
  name : String
  parameters : List String
  body : List Statement

structure Script where
  rules : List Rule := []
  functions : List Function := []

def Expression.isTarget : Expression → Bool
  | .variable _ | .element _ _ | .field _ => true
  | _ => false

end ArtifactRelease.Shell.Awk
