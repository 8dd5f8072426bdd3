/-!
# Workflow commands

Lines that the automation service takes for commands: they open and close a group in its log and
add notices to a run.  A command is one line, so that the line ends in a message are escaped, and
with them the sign that marks escapes.
-/

namespace ArtifactRelease.Workflow

inductive Command where
  | group (title : String)
  | endGroup
  | notice (message : String)
  deriving Repr, DecidableEq

/-- A text with another one in place of a character. -/
def replaced (c : Char) (substitute : String) (text : List Char) : List Char :=
  text.flatMap fun d => if d = c then substitute.toList else [d]

/-- The percent sign comes first, since the other two put new percent signs into the text. -/
def escaped (text : List Char) : List Char :=
  replaced '\n' "%0A" (replaced '\r' "%0D" (replaced '%' "%25" text))

namespace Command

def name : Command → String
  | group _ => "group"
  | endGroup => "endgroup"
  | notice _ => "notice"

def message : Command → String
  | group title => title
  | endGroup => ""
  | notice message => message

/-- The line of a command, with its line feed. -/
def line (command : Command) : List Char :=
  "::".toList ++ command.name.toList ++ "::".toList
    ++ escaped command.message.toList ++ ['\n']

end Command

end ArtifactRelease.Workflow
