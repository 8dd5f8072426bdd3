import ArtifactRelease.Text.Pattern.Basic

/-!
# Automata for patterns

An automaton looks for a pattern in a text, from the first character on.  Its nodes are numbered,
and the nodes at which a search stands are listed in order of preference.  A new attempt is begun
at every place, behind all the others, and once an attempt has come to its end those behind it are
given up.  So `a|ab` accepts `xa` but not `xab`, and `x*`, which is found at once and never again,
accepts the empty text only.
-/

namespace ArtifactRelease.Text

namespace Pattern

inductive Node where
  | accept
  | take (set : CharSet) (next : Nat)
  | check (anchor : Anchor) (next : Nat)
  | skip (next : Nat)
  /-- Two ways to go on, the first of them preferred. -/
  | fork (first second : Nat)
  deriving Repr, DecidableEq

/-- A fork that goes on with a repetition or leaves it. -/
def Node.round (greedy : Bool) (body next : Nat) : Node :=
  if greedy then .fork body next else .fork next body

def nodeCount : Pattern → Nat
  | empty | one _ | anchored _ => 1
  | literal _ later => later.length + 1
  | group _ body => nodeCount body
  | sequence first second => nodeCount first + nodeCount second
  | either first second => 1 + nodeCount first + nodeCount second
  | repeated .anyNumber _ body =>
    if 0 < body.leastLength?.getD 0 then 1 + nodeCount body else 2 + nodeCount body
  | repeated _ _ body => 1 + nodeCount body

def literalNodes : Char → List Char → (first next : Nat) → List Node
  | c, [], _, next => [.take (CharSet.single c) next]
  | c, d :: later, first, next =>
    .take (CharSet.single c) (first + 1) :: literalNodes d later (first + 1) next

/-- The nodes of a pattern, numbered from `first` on; a search enters at the first of them and
leaves for `next`.  A repetition of what may take nothing has a fork of its own for the start, so
that a further round never goes before the round that is under way. -/
def nodes : Pattern → (first next : Nat) → List Node
  | empty, _, next => [.skip next]
  | literal c later, first, next => literalNodes c later first next
  | one set, _, next => [.take set next]
  | anchored anchor, _, next => [.check anchor next]
  | group _ body, first, next => nodes body first next
  | sequence first second, start, next =>
    let middle := start + first.nodeCount
    nodes first start middle ++ nodes second middle next
  | either first second, start, next =>
    let other := start + 1 + first.nodeCount
    .fork (start + 1) other :: nodes first (start + 1) next ++ nodes second other next
  | repeated .atMostOnce greedy body, first, next =>
    .round greedy (first + 1) next :: nodes body (first + 1) next
  | repeated .atLeastOnce greedy body, first, next =>
    let behind := first + body.nodeCount
    nodes body first behind ++ [.round greedy first next]
  | repeated .anyNumber greedy body, first, next =>
    let fork := Node.round greedy (first + 1) next
    if 0 < body.leastLength?.getD 0 then fork :: nodes body (first + 1) first
    else fork :: nodes body (first + 1) (first + 1 + body.nodeCount) ++ [fork]

/-- The first node accepts.  The second begins an attempt, or else, by way of the third, passes a
character. -/
def automaton (pattern : Pattern) : Array Node :=
  #[.accept, .fork 3 2, .take CharSet.all 1] ++ (pattern.nodes 3 0).toArray

/-- The nodes to which a search can go on from a node without taking a character. -/
def Node.exits (holds : Anchor → Bool) : Node → List Nat
  | accept | take .. => []
  | check anchor next => if holds anchor then [next] else []
  | skip next => [next]
  | fork first second => [first, second]

/-- All nodes that a search can reach without taking a character, each where it is reached first;
`reached` are those so far, the last first. -/
def spread (automaton : Array Node) (holds : Anchor → Bool) :
    (fuel : Nat) → (pending reached : List Nat) → List Nat
  | 0, _, reached => reached.reverse
  | _, [], reached => reached.reverse
  | fuel + 1, node :: pending, reached =>
    if node ∈ reached then spread automaton holds fuel pending reached
    else
      let exits := (automaton[node]?).elim [] (Node.exits holds)
      spread automaton holds fuel (exits ++ pending) (node :: reached)

/-- The nodes that a search can reach without taking a character, with their numbers.  Every node is
entered once and has two exits at most. -/
def reachable (automaton : Array Node) (holds : Anchor → Bool) (start : List Nat) :
    List (Nat × Node) :=
  let fuel := start.length + 2 * automaton.size + 1
  (spread automaton holds fuel start []).filterMap fun number =>
    (automaton[number]?).map (number, ·)

/-- Whether a condition could not be seen to hold before the next character was known. -/
def Node.opens (place : Surroundings) : Node → Bool
  | check anchor _ => anchor.holds place && !anchor.holdsBehind place.before
  | _ => false

/-- The nodes at which a search stands at a place.  It spreads as soon as a character was taken, and
once more from the start of its way if the next character makes further conditions hold. -/
def stations (automaton : Array Node) (place : Surroundings) (start : List Nat) : List Node :=
  let early := reachable automaton (·.holdsBehind place.before) start
  let final :=
    if early.any (·.2.opens place) then reachable automaton (·.holds place) (early.map (·.1))
    else early
  final.map (·.2)

def advance (c : Char) : List Node → List Nat
  | [] | .accept :: _ => []
  | .take set next :: later => if set.contains c then next :: advance c later else advance c later
  | _ :: later => advance c later

/-- Goes on with a search behind `before`. -/
def search (automaton : Array Node) : (before : Option Char) → List Nat → List Char → Bool
  | before, standing, [] => .accept ∈ stations automaton ⟨before, none⟩ standing
  | before, standing, c :: rest =>
    search automaton (some c) (advance c (stations automaton ⟨before, some c⟩ standing)) rest

/-- Whether the pattern is found at the end of the text. -/
def accepts (pattern : Pattern) (text : List Char) : Bool :=
  search pattern.automaton none [1] text

end Pattern

end ArtifactRelease.Text
