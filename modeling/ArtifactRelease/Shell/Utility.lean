import ArtifactRelease.Shell.Utility.Awk
import ArtifactRelease.Shell.Utility.Calculation
import ArtifactRelease.Shell.Utility.Columns
import ArtifactRelease.Shell.Utility.Concatenation
import ArtifactRelease.Shell.Utility.Dump
import ArtifactRelease.Shell.Utility.Excerpt
import ArtifactRelease.Shell.Utility.Expression
import ArtifactRelease.Shell.Utility.Files
import ArtifactRelease.Shell.Utility.LineSearch
import ArtifactRelease.Shell.Utility.Printing
import ArtifactRelease.Shell.Utility.Sed
import ArtifactRelease.Shell.Utility.Sequence
import ArtifactRelease.Shell.Utility.Sorting
import ArtifactRelease.Shell.Utility.CharacterMap

/-!
# Small programs

Programs that scripts call besides the commands of the shell itself.
-/

namespace ArtifactRelease.Shell

def utility? : String → Option Utility
  | "awk" | "mawk" => some Utility.awk
  | "basename" => some Utility.basename
  | "cat" => some Utility.cat
  | "cut" => some Utility.cut
  | "dirname" => some Utility.dirname
  | "echo" => some Utility.echo
  | "expr" => some Utility.expr
  | "false" => some fun _ => { status := 1 }
  | "grep" => some Utility.grep
  | "head" => some Utility.head
  | "ls" => some Utility.ls
  | "mkdir" => some Utility.mkdir
  | "od" => some Utility.od
  | "printf" => some Utility.printf
  | "pwd" => some Utility.pwd
  | "rm" => some Utility.rm
  | "sed" => some Utility.sed
  | "seq" => some Utility.seq
  | "sleep" => some Utility.sleep
  | "sort" => some Utility.sort
  | "tail" => some Utility.tail
  | "tee" => some Utility.tee
  | "test" => some (Utility.test false)
  | "[" => some (Utility.test true)
  | "touch" => some Utility.touch
  | "tr" => some Utility.tr
  | "true" => some fun _ => {}
  | "uniq" => some Utility.uniq
  | "wc" => some Utility.wc
  | "yes" => some Utility.yes
  | _ => none

end ArtifactRelease.Shell
