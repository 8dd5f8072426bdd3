/-!
# Words of a command line

A command line is cut into words at spaces, tabs and line feeds, with the quoting of the command
shell: single quotes keep everything, double quotes let a backslash escape a few characters, a
bare backslash escapes any character and a backslash before a line feed joins two lines.  A number
sign where a word could start begins a comment.  The splitter is a machine that takes one
character at a time.
-/

namespace ArtifactRelease.CommandWords

inductive Place where
  | between
  | betweenEscape
  | word
  | wordEscape
  | singleQuotes
  | doubleQuotes
  | doubleEscape
  | comment
  deriving Repr, DecidableEq

/-- The word under way and the words before it, both last first. -/
structure Splitter where
  place : Place := .between
  word : List Char := []
  words : List String := []
  deriving Repr, DecidableEq

namespace Splitter

def goto (splitter : Splitter) (place : Place) : Splitter :=
  { splitter with place }

def take (splitter : Splitter) (added : List Char) (place : Place) : Splitter :=
  { splitter with word := added.reverse ++ splitter.word, place }

def endWord (splitter : Splitter) : Splitter :=
  { place := .between, word := [], words := String.ofList splitter.word.reverse :: splitter.words }

def isSeparator (c : Char) : Bool :=
  c = ' ' || c = '\t' || c = '\n'

/-- The characters that a backslash escapes in double quotes. -/
def isEscapable (c : Char) : Bool :=
  c = '$' || c = '"' || c = '\\' || c = Char.ofNat 0x60

def singleQuote : Char := Char.ofNat 0x27

def step (splitter : Splitter) (c : Char) : Splitter :=
  match splitter.place with
  | .between =>
    if c = singleQuote then splitter.goto .singleQuotes
    else if c = '"' then splitter.goto .doubleQuotes
    else if c = '\\' then splitter.goto .betweenEscape
    else if isSeparator c then splitter
    else if c = '#' then splitter.goto .comment
    else splitter.take [c] .word
  | .betweenEscape => if c = '\n' then splitter.goto .between else splitter.take [c] .word
  | .word =>
    if c = singleQuote then splitter.goto .singleQuotes
    else if c = '"' then splitter.goto .doubleQuotes
    else if c = '\\' then splitter.goto .wordEscape
    else if isSeparator c then splitter.endWord
    else splitter.take [c] .word
  | .wordEscape => if c = '\n' then splitter.goto .word else splitter.take [c] .word
  | .singleQuotes =>
    if c = singleQuote then splitter.goto .word else splitter.take [c] .singleQuotes
  | .doubleQuotes =>
    if c = '"' then splitter.goto .word
    else if c = '\\' then splitter.goto .doubleEscape
    else splitter.take [c] .doubleQuotes
  | .doubleEscape =>
    if c = '\n' then splitter.goto .doubleQuotes
    else if isEscapable c then splitter.take [c] .doubleQuotes
    else splitter.take ['\\', c] .doubleQuotes
  | .comment => if c = '\n' then splitter.goto .between else splitter

/-- The words, unless a quote is still open.  A backslash at the very end stands for itself. -/
def finish? (splitter : Splitter) : Option (List String) :=
  match splitter.place with
  | .between | .comment => some splitter.words.reverse
  | .word => some splitter.endWord.words.reverse
  | .betweenEscape | .wordEscape => some (splitter.take ['\\'] .word).endWord.words.reverse
  | .singleQuotes | .doubleQuotes | .doubleEscape => none

end Splitter

/-- The words of a command line, unless a quote is not closed. -/
def split? (line : String) : Option (List String) :=
  (line.toList.foldl Splitter.step {}).finish?

end ArtifactRelease.CommandWords
