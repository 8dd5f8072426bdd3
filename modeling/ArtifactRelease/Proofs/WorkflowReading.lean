import ArtifactRelease.Proofs.Lines
import ArtifactRelease.Proofs.WorkflowStream

/-!
# Reading workflow commands back

The automation service takes what is written for it apart again.  A command is a line; its name
stands between two double colons, and in the message behind them the three escapes are undone in one
pass from left to right.  Whatever titles and messages hold, the service reads the commands that
were written and no others.
-/

namespace ArtifactRelease

open ArtifactRelease.Text

namespace Workflow

/-! ## Escapes -/

def escapeChar (c : Char) : List Char :=
  if c = '%' then ['%', '2', '5']
  else if c = '\r' then ['%', '0', 'D']
  else if c = '\n' then ['%', '0', 'A']
  else [c]

/-- The three replacements come to one pass over the text. -/
theorem escaped_eq_flatMap (text : List Char) : escaped text = text.flatMap escapeChar := by
  symm
  simp only [escaped, replaced, List.flatMap_assoc]
  congr 1
  funext c
  rw [escapeChar]
  by_cases hpercent : c = '%'
  · subst c
    rfl
  by_cases hreturn : c = '\r'
  · subst c
    rfl
  by_cases hfeed : c = '\n'
  · subst c
    rfl
  · simp [hpercent, hreturn, hfeed]

/-- The text whose escapes have been undone, each where it stands. -/
def unescape : List Char → List Char
  | '%' :: '2' :: '5' :: rest => '%' :: unescape rest
  | '%' :: '0' :: 'D' :: rest => '\r' :: unescape rest
  | '%' :: '0' :: 'A' :: rest => '\n' :: unescape rest
  | c :: rest => c :: unescape rest
  | [] => []

theorem unescape_cons {c : Char} (hpercent : c ≠ '%') (rest : List Char) :
    unescape (c :: rest) = c :: unescape rest := by
  conv_lhs => unfold unescape
  split <;> simp_all

theorem unescape_escapeChar (c : Char) (rest : List Char) :
    unescape (escapeChar c ++ rest) = c :: unescape rest := by
  rw [escapeChar]
  by_cases hpercent : c = '%'
  · subst c
    rfl
  by_cases hreturn : c = '\r'
  · subst c
    rfl
  by_cases hfeed : c = '\n'
  · subst c
    rfl
  · rw [if_neg hpercent, if_neg hreturn, if_neg hfeed]
    exact unescape_cons hpercent rest

/-- What is escaped is read back, whether or not it looked like an escape before. -/
theorem unescape_escaped (text : List Char) : unescape (escaped text) = text := by
  rw [escaped_eq_flatMap]
  induction text with
  | nil => rfl
  | cons c rest ih => rw [List.flatMap_cons, unescape_escapeChar, ih]

/-- No line ends in an escaped text. -/
theorem not_mem_escaped (text : List Char) : '\n' ∉ escaped text ∧ '\r' ∉ escaped text := by
  have hchar (c : Char) : '\n' ∉ escapeChar c ∧ '\r' ∉ escapeChar c := by
    rw [escapeChar]
    by_cases hpercent : c = '%'
    · simp [hpercent]
    by_cases hreturn : c = '\r'
    · simp [hreturn]
    by_cases hfeed : c = '\n'
    · simp [hfeed]
    · simp [hpercent, hreturn, hfeed, Ne.symm hreturn, Ne.symm hfeed]
  simp only [escaped_eq_flatMap, List.mem_flatMap, not_exists, not_and]
  exact ⟨fun c _ => (hchar c).1, fun c _ => (hchar c).2⟩

/-! ## Lines -/

/-- The text before the first double colon and the text behind it. -/
def cutAtColons : List Char → Option (List Char × List Char)
  | ':' :: ':' :: rest => some ([], rest)
  | c :: rest => (cutAtColons rest).map fun (before, behind) => (c :: before, behind)
  | [] => none

theorem cutAtColons_append {before : List Char} (hbefore : ':' ∉ before) (behind : List Char) :
    cutAtColons (before ++ ':' :: ':' :: behind) = some (before, behind) := by
  induction before with
  | nil => rfl
  | cons c rest ih =>
      obtain ⟨hc, hrest⟩ := not_or.1 (mt List.mem_cons.2 hbefore)
      rw [List.cons_append, cutAtColons, ih hrest]
      · rfl
      · rintro _ rfl
        exact absurd rfl hc

namespace Command

/-- The command of a name with a message; a group is closed without one. -/
def ofParts? (name message : String) : Option Command :=
  if name = "group" then some (.group message)
  else if name = "notice" then some (.notice message)
  else if name = "endgroup" ∧ message = "" then some .endGroup
  else none

theorem ofParts?_eq_some_iff {name message : String} {command : Command} :
    ofParts? name message = some command ↔
      name = command.name ∧ message = command.message := by
  rw [ofParts?]
  constructor
  · intro hcommand
    split at hcommand
    · next hname =>
        cases hcommand
        exact ⟨hname, rfl⟩
    split at hcommand
    · next hname =>
        cases hcommand
        exact ⟨hname, rfl⟩
    split at hcommand
    · next hparts =>
        cases hcommand
        exact hparts
    · cases hcommand
  · rintro ⟨rfl, rfl⟩
    cases command <;> rfl

def ofLine? : List Char → Option Command
  | ':' :: ':' :: rest =>
    (cutAtColons rest).bind fun (name, message) =>
      ofParts? (String.ofList name) (String.ofList (unescape message))
  | _ => none

def body (command : Command) : List Char :=
  "::".toList ++ command.name.toList ++ "::".toList ++ escaped command.message.toList

theorem line_eq_body_append (command : Command) : command.line = command.body ++ ['\n'] := rfl

theorem ofLine?_body (command : Command) : ofLine? command.body = some command := by
  have hname : ':' ∉ command.name.toList := by
    cases command <;> simp [name]
  have hcut : cutAtColons (command.name.toList ++ ':' :: ':' :: escaped command.message.toList) =
      some (command.name.toList, escaped command.message.toList) :=
    cutAtColons_append hname _
  have hbody : command.body = ':' :: ':' :: (command.name.toList ++
      ':' :: ':' :: escaped command.message.toList) := by
    simp [body]
  rw [hbody, ofLine?, hcut]
  change ofParts? (String.ofList command.name.toList)
    (String.ofList (unescape (escaped command.message.toList))) = some command
  rw [unescape_escaped, String.ofList_toList, String.ofList_toList, ofParts?_eq_some_iff]
  exact ⟨rfl, rfl⟩

theorem not_mem_body (command : Command) : '\n' ∉ command.body ∧ '\r' ∉ command.body := by
  obtain ⟨hfeed, hreturn⟩ := not_mem_escaped command.message.toList
  have hname : '\n' ∉ command.name.toList ∧ '\r' ∉ command.name.toList := by
    cases command <;> simp [name]
  simp [body, hfeed, hreturn, hname]

end Command

/-! ## Streams -/

/-- Lines without line feeds in them are the pieces of a text in which each of them is ended. -/
theorem splitOn_flatMap_concat {lines : List (List Char)} (hlines : ∀ line ∈ lines, '\n' ∉ line) :
    splitOn '\n' (lines.flatMap (· ++ ['\n'])) = lines ++ [[]] := by
  induction lines with
  | nil => rfl
  | cons line later ih =>
      obtain ⟨hline, hlater⟩ := List.forall_mem_cons.1 hlines
      rw [splitOn_eq] at ih ⊢
      calc ((line :: later).flatMap (· ++ ['\n'])).splitOn '\n'
          = (line ++ '\n' :: later.flatMap (· ++ ['\n'])).splitOn '\n' := by simp
        _ = line.splitOn '\n' ++ (later.flatMap (· ++ ['\n'])).splitOn '\n' :=
          List.splitOn_append_cons_self _ _
        _ = line :: later ++ [[]] := by
          rw [List.splitOn_eq_singleton hline, ih hlater, List.singleton_append,
            List.cons_append]

end Workflow

def Plan.emitAll : List Workflow.Command → Plan Unit
  | [] => return ()
  | command :: later => do
    Plan.emit command
    emitAll later

section Streams

open Workflow

variable {σ τ : Type} {outside : Outside σ} {writer : Writer τ} {sink : σ → τ}
  {taken : τ → List UInt8}

/-- A writer that takes everything lets no command be reported as lost. -/
theorem Plan.effects_emitAll (hwrites : outside.WritesThrough writer sink)
    (haccepts : writer.Accepts taken) (commands : List Workflow.Command) (state : σ) :
    ((Plan.emitAll commands).perform outside state).effects =
      commands.map fun command => .announced command (.ok ()) := by
  induction commands generalizing state with
  | nil => rfl
  | cons command later ih =>
      have hdelivery : (outside.announce command state).1 = .ok () := by
        rw [(hwrites.announce command state).1]
        exact (haccepts.deliver command (sink state)).1
      rw [Plan.emitAll, Plan.perform_bind, Plan.perform_emit, hdelivery]
      exact congrArg (_ :: ·) (ih _)

/-- Whatever commands are written to a writer that takes everything, the output is one line for
each of them, and the lines are read as these commands.  In a line the message stands with percent
signs, carriage returns and line feeds replaced, in this order. -/
theorem Workflow.stream_reads_back (hwrites : outside.WritesThrough writer sink)
    (haccepts : writer.Accepts taken) (commands : List Workflow.Command) (state : σ) :
    let performance := (Plan.emitAll commands).perform outside state
    performance.effects = commands.map (fun command => .announced command (.ok ())) ∧
      ∃ output, taken (sink performance.state) = taken (sink state) ++ encode output ∧
        '\r' ∉ output ∧
        ∃ lines, splitOn '\n' output = lines ++ [[]] ∧ lines.length = commands.length ∧
          lines.map Command.ofLine? = commands.map some ∧
          lines = commands.map fun command =>
            "::".toList ++ command.name.toList ++ "::".toList ++
              replaced '\n' "%0A" (replaced '\r' "%0D" (replaced '%' "%25"
                command.message.toList)) := by
  intro performance
  have heffects : performance.effects = commands.map fun command => .announced command (.ok ()) :=
    Plan.effects_emitAll hwrites haccepts commands state
  have hannounced : announcedOf performance.effects = commands := by
    rw [heffects, announcedOf, List.filterMap_map]
    exact List.filterMap_some
  have hlines : commands.flatMap Command.line =
      (commands.map Command.body).flatMap (· ++ ['\n']) := by
    rw [List.flatMap_map]
    rfl
  refine ⟨heffects, commands.flatMap Command.line, ?_, ?_, commands.map Command.body,
    ?_, ?_, ?_, ?_⟩
  · rw [Plan.perform_taken hwrites haccepts, ← streamOf]
    exact congrArg (taken (sink state) ++ streamOf ·) hannounced
  · intro hreturn
    obtain ⟨command, -, hline⟩ := List.mem_flatMap.1 hreturn
    rw [Command.line_eq_body_append, List.mem_append, List.mem_singleton] at hline
    exact hline.elim command.not_mem_body.2 (by decide)
  · rw [hlines]
    apply splitOn_flatMap_concat
    intro line hline
    obtain ⟨command, -, rfl⟩ := List.mem_map.1 hline
    exact command.not_mem_body.1
  · rw [List.length_map]
  · rw [List.map_map]
    apply List.map_congr_left
    intro command _
    exact command.ofLine?_body
  · rfl

/-- A title that looks like escapes and commands, and a message of several lines. -/
theorem Workflow.hostile_stream_reads_back :
    let commands : List Workflow.Command :=
      [.group "%0A::endgroup::", .notice "100%25\r\n::group::x", .endGroup]
    let performance :=
      (Plan.emitAll commands).perform (Rehearsal.scripted .memory) ⟨[], []⟩
    ∃ output, performance.state.written = encode output ∧
      ∃ lines, splitOn '\n' output = lines ++ [[]] ∧ lines.length = 3 ∧
        lines.map Command.ofLine? = commands.map some := by
  intro commands performance
  obtain ⟨-, output, hwritten, -, lines, hpieces, hlength, hread, -⟩ := Workflow.stream_reads_back
    (Rehearsal.scripted_writesThrough .memory) Writer.memory_accepts commands ⟨[], []⟩
  exact ⟨output, hwritten, lines, hpieces, hlength, hread⟩

end Streams

end ArtifactRelease
