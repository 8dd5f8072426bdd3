import ArtifactRelease.Shell.Test
import ArtifactRelease.Shell.Utility.Request

/-!
# Programs that count and calculate
-/

namespace ArtifactRelease.Shell.Utility

/-- A number of seconds with an optional unit, in microseconds. -/
def duration? (text : String) : Option Time :=
  let (number, unit) := match text.toList.reverse with
    | 's' :: rest => (rest.reverse, 1)
    | 'm' :: rest => (rest.reverse, 60)
    | 'h' :: rest => (rest.reverse, 3600)
    | 'd' :: rest => (rest.reverse, 86400)
    | _ => (text.toList, 1)
  match Floating.read? number with
  | some (.finite false ratio, [], _) =>
    some (ratio.numerator * unit * 1000000 / ratio.denominator)
  | _ => none

def sleep : Utility := fun request =>
  request.withOptions {} fun _ intervals =>
    match intervals.find? fun interval => (duration? interval).isNone with
    | some interval => request.misused 1 s!"invalid time interval {inQuotes interval}"
    | none =>
      if intervals.isEmpty then request.misused 1 "missing operand"
      else
        { delay := intervals.foldl (fun sum interval => sum + (duration? interval).getD 0) 0 }

/-- How the program words what is wrong with a test, as against the command of the shell. -/
def testComplaint (words : List String) : Test.Problem → String
  | .illegalNumber text => s!"invalid integer {inQuotes text}"
  | .closingExpected => s!"')' expected"
  | .about word reason =>
    if reason = "argument expected" then s!"missing argument after {inQuotes word}"
    else match words with
      | [first, second] =>
        if first.toList.head? = some '-' then s!"{inQuotes first}: unary operator expected"
        else s!"missing argument after {inQuotes second}"
      | [_, second, _] => s!"{inQuotes second}: binary operator expected"
      | _ => s!"extra argument {inQuotes word}"

/-- Judges conditions; between brackets if `closed`. -/
def test (closed : Bool) : Utility := fun request =>
  let judged (words : List String) : Response :=
    match Test.judge ⟨request.directory, request.system⟩ words with
    | .ok true => {}
    | .ok false => { status := 1 }
    | .error problem =>
      { errors := [s!"{request.name}: {testComplaint words problem}"], status := 2 }
  if !closed then judged request.arguments
  else if request.arguments.getLast? = some "]" then judged request.arguments.dropLast
  else { errors := [s!"{request.name}: missing ']'"], status := 2 }

end ArtifactRelease.Shell.Utility
