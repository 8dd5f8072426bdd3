import ArtifactRelease.CommandLine.Directive

/-!
# Log filters

A filter says which events are shown: a list of directives with commas between them.

An event is judged on its own by the directives that name no span and no pattern.  Of those that
fit, the one with the longest source decides, then one that asks for a field; without any only
errors are shown.  Beyond that, an event is shown if it lies in a span that a directive selects by
name or by a field, and has the level of that directive.  A span takes part only if its own level
is one that some directive shows.
-/

namespace ArtifactRelease.CommandLine

open ArtifactRelease.Log ArtifactRelease.Text

def errorsOnly : Nat := Level.error.weight

namespace Directive

def selectsSpans (directive : Directive) : Bool :=
  directive.span.isSome || directive.field.isSome

/-- Whether the directive judges events by themselves. -/
def judgesEvents (directive : Directive) : Bool :=
  directive.span.isNone && directive.field.all (·.value.isNone)

def coversSource (directive : Directive) (source : String) : Bool :=
  directive.source.all fun start => start.toList.isPrefixOf source.toList

def fitsEvent (directive : Directive) (event : Event) : Bool :=
  directive.coversSource event.source && directive.field.all (·.name ∈ event.partNames)

/-- Whether the directive selects a span, by the texts of its fields as well. -/
def selects (directive : Directive) (span : Span) : Bool :=
  directive.selectsSpans && directive.coversSource span.source
    && directive.span.all (· = span.name)
    && directive.field.all fun test =>
      (span.fields.find? (·.1 = test.name)).any fun (_, text) => test.value.all (·.meets text)

/-- Whether two directives are about the same, so that the later one counts. -/
def sameScope (first second : Directive) : Bool :=
  first.source = second.source && first.span = second.span && first.field = second.field

/-- Whether `second` decides rather than `first`, of two directives for events that both fit:
a longer source, then a field, then the later field by name. -/
def yieldsTo (first second : Directive) : Bool :=
  let length (directive : Directive) : Nat := (directive.source.map (·.length + 1)).getD 0
  let field (directive : Directive) : String := (directive.field.map (·.name)).getD ""
  if length first ≠ length second then length first < length second
  else if first.field.isSome ≠ second.field.isSome then second.field.isSome
  else field first ≤ field second

end Directive

abbrev LogFilter := List Directive

namespace LogFilter

def texts (text : String) : List String :=
  (pieces ',' text).filter (!·.isEmpty)

/-- The filter that a text describes, if all of its directives are understood. -/
def parse (text : String) : Except Directive.Fault LogFilter :=
  (texts text).mapM Directive.parse

/-- A directive, or none if it is malformed. -/
def parseWellFormed (text : String) : Except Directive.Fault (Option Directive) :=
  match Directive.parse text with
  | .ok directive => .ok (some directive)
  | .error .malformed => .ok none
  | .error .brokenCharacter => .error .brokenCharacter

/-- The filter that a text describes; malformed directives are left out. -/
def parseLenient (text : String) : Except Directive.Fault LogFilter :=
  return ((← (texts text).mapM parseWellFormed).filterMap id)

/-- The directives that no later one replaces. -/
def standing : LogFilter → LogFilter
  | [] => []
  | directive :: later =>
    if later.any directive.sameScope then standing later else directive :: standing later

/-- The directive that decides about an event by itself. -/
def deciding? (filter : LogFilter) (event : Event) : Option Directive :=
  let fitting := filter.filter fun directive =>
    directive.judgesEvents && directive.fitsEvent event
  fitting.foldl (fun best directive => match best with
    | none => some directive
    | some chosen => if chosen.yieldsTo directive then some directive else best) none

/-- Whether an event is shown for itself. -/
def showsAlone (filter : LogFilter) (event : Event) : Bool :=
  let threshold := match filter.deciding? event with
    | some directive => directive.threshold
    | none => if filter.isEmpty then errorsOnly else nothingShown
  threshold ≤ event.level.weight

/-- The least weight that any directive shows; a pattern for a field keeps all spans in play. -/
def reach (filter : LogFilter) : Nat :=
  if filter.any fun directive => directive.field.any (·.value.isSome) then Level.trace.weight
  else (filter.map (·.threshold)).foldl min nothingShown

/-- The least weight of the events shown for lying in a span. -/
def spanThreshold (filter : LogFilter) (span : Span) : Nat :=
  if filter.reach ≤ span.level.weight then
    ((filter.standing.filter (·.selects span)).map (·.threshold)).foldl min nothingShown
  else nothingShown

def shows (filter : LogFilter) (spans : List Span) (event : Event) : Bool :=
  filter.showsAlone event
    || spans.any fun span => filter.spanThreshold span ≤ event.level.weight

end LogFilter

end ArtifactRelease.CommandLine
