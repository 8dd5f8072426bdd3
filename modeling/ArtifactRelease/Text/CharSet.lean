/-!
# Sets of characters

A set is given by the runs of code points that it consists of.  Unions put the runs together as
they are; complements first bring them into order.
-/

namespace ArtifactRelease.Text

/-- A set of characters, as the first and last code points of its runs. -/
structure CharSet where
  runs : List (Nat × Nat)
  deriving Repr, DecidableEq

namespace CharSet

def lastCode : Nat := 0x10FFFF

def empty : CharSet := ⟨[]⟩

def all : CharSet := ⟨[(0, lastCode)]⟩

def range (first last : Char) : CharSet := ⟨[(first.toNat, last.toNat)]⟩

def single (c : Char) : CharSet := range c c

def ofChars (characters : List Char) : CharSet :=
  ⟨characters.map fun c => (c.toNat, c.toNat)⟩

def containsCode (set : CharSet) (code : Nat) : Bool :=
  set.runs.any fun run => run.1 ≤ code && code ≤ run.2

def contains (set : CharSet) (c : Char) : Bool :=
  set.containsCode c.toNat

def isEmpty (set : CharSet) : Bool :=
  set.runs.all fun run => run.2 < run.1

def union (first second : CharSet) : CharSet :=
  ⟨first.runs ++ second.runs⟩

/-- The gaps between runs in order, from a code point on. -/
def gaps : Nat → List (Nat × Nat) → List (Nat × Nat)
  | start, [] => if start ≤ lastCode then [(start, lastCode)] else []
  | start, (first, last) :: later =>
    if start < first then (start, first - 1) :: gaps (max start (last + 1)) later
    else gaps (max start (last + 1)) later

def complement (set : CharSet) : CharSet :=
  let proper := set.runs.filter fun run => run.1 ≤ run.2
  ⟨gaps 0 (proper.mergeSort fun first second => first.1 ≤ second.1)⟩

/-- The same set by as few runs as possible, in order. -/
def normal (set : CharSet) : CharSet :=
  set.complement.complement

def intersection (first second : CharSet) : CharSet :=
  (first.complement.union second.complement).complement

def difference (first second : CharSet) : CharSet :=
  first.intersection second.complement

/-- What lies in one of the sets only. -/
def symmetricDifference (first second : CharSet) : CharSet :=
  (first.difference second).union (second.difference first)

def lowercase : CharSet := range 'a' 'z'

def uppercase : CharSet := range 'A' 'Z'

/-- The set with each ASCII letter in both cases. -/
def foldAscii (set : CharSet) : CharSet :=
  let shifted (letters : CharSet) (shift : Nat → Nat) : CharSet :=
    ⟨(set.intersection letters).runs.map fun run => (shift run.1, shift run.2)⟩
  (set.union (shifted lowercase (· - 32))).union (shifted uppercase (· + 32))

end CharSet

/-- The characters of a class of the portable character set, by its name. -/
def asciiClass? (name : String) : Option CharSet :=
  let digits := CharSet.range '0' '9'
  let letters := CharSet.uppercase.union CharSet.lowercase
  let blanks := CharSet.ofChars ['\t', ' ']
  match name with
  | "alnum" => some (digits.union letters)
  | "alpha" => some letters
  | "blank" => some blanks
  | "cntrl" => some ⟨[(0x00, 0x1F), (0x7F, 0x7F)]⟩
  | "digit" => some digits
  | "graph" => some (CharSet.range '!' '~')
  | "lower" => some CharSet.lowercase
  | "print" => some (CharSet.range ' ' '~')
  | "punct" => some ⟨[(0x21, 0x2F), (0x3A, 0x40), (0x5B, 0x60), (0x7B, 0x7E)]⟩
  | "space" => some ⟨[(0x09, 0x0D), (0x20, 0x20)]⟩
  | "upper" => some CharSet.uppercase
  | "xdigit" => some ((digits.union (CharSet.range 'A' 'F')).union (CharSet.range 'a' 'f'))
  | _ => none

/-- Letters, digits and the underscore, of ASCII. -/
def wordCharacters : CharSet :=
  ⟨[(0x30, 0x39), (0x41, 0x5A), (0x5F, 0x5F), (0x61, 0x7A)]⟩

end ArtifactRelease.Text
