import ArtifactRelease.Proofs.ConfigArgument
import ArtifactRelease.Proofs.Lines
import ArtifactRelease.Proofs.WordGrammar

/-!
# Quoted words

Any words at all can be given as the command line of the artifact builder: each goes in single
quotes, and a single quote in it is written outside of them behind a backslash.  The splitter is
followed from quote to quote: inside of quotes it only adds to the word, and at the end of a quoted
word it is in the same place as after a bare one.
-/

namespace ArtifactRelease

open ArtifactRelease.Text

namespace CommandWords

open Splitter

/-! ## Writing words -/

def quoteChar (c : Char) : List Char :=
  if c = singleQuote then [singleQuote, '\\', singleQuote, singleQuote] else [c]

def quoted (word : String) : List Char :=
  singleQuote :: word.toList.flatMap quoteChar ++ [singleQuote]

/-- A run of spaces, tabs and line feeds. -/
def IsGap (gap : List Char) : Prop :=
  gap ≠ [] ∧ ∀ c ∈ gap, c = ' ' ∨ c = '\t' ∨ c = '\n'

/-- The text is made of the words, of which there is at least one, in quotes and with gaps between
them. -/
inductive Quotes : List String → List Char → Prop
  | last (word : String) : Quotes [word] (quoted word)
  | cons (word : String) {gap text : List Char} {next : String} {later : List String}
      (hgap : IsGap gap) (hlater : Quotes (next :: later) text) :
      Quotes (word :: next :: later) (quoted word ++ gap ++ text)

/-! ## Splitting them again -/

/-- Inside of quotes each character is one of the word; the quotes that are closed for a single
quote are open again behind it. -/
theorem foldl_step_quoteChar (chars word : List Char) (words : List String) :
    (chars.flatMap quoteChar).foldl step ⟨.singleQuotes, word, words⟩ =
      ⟨.singleQuotes, chars.reverse ++ word, words⟩ := by
  have hchar (c : Char) (_ : c ∈ chars) (word : List Char) :
      (quoteChar c).foldl step ⟨.singleQuotes, word, words⟩ =
        ⟨.singleQuotes, [c].reverse ++ word, words⟩ := by
    rw [quoteChar]
    by_cases hc : c = singleQuote
    · subst c
      rfl
    · simp [hc, step, take]
  simpa using foldl_step_flatMap hchar word

theorem foldl_step_quoted (word : String) (words : List String) :
    (quoted word).foldl step ⟨.between, [], words⟩ = ⟨.word, word.toList.reverse, words⟩ := by
  have hopen : step ⟨.between, [], words⟩ singleQuote = ⟨.singleQuotes, [], words⟩ := rfl
  have hclose : step ⟨.singleQuotes, word.toList.reverse, words⟩ singleQuote =
      ⟨.word, word.toList.reverse, words⟩ := rfl
  rw [quoted, List.cons_append, List.foldl_cons, hopen, List.foldl_append, foldl_step_quoteChar,
    List.append_nil, List.foldl_cons, List.foldl_nil, hclose]

/-- The first character of a gap ends the word, and the others do nothing. -/
theorem foldl_step_gap {gap : List Char} (hgap : IsGap gap) (word : List Char)
    (words : List String) :
    gap.foldl step ⟨.word, word, words⟩ =
      ⟨.between, [], String.ofList word.reverse :: words⟩ := by
  obtain ⟨hne, hseparators⟩ := hgap
  have hbetween (rest : List Char) (hrest : ∀ c ∈ rest, c = ' ' ∨ c = '\t' ∨ c = '\n')
      (words : List String) :
      rest.foldl step ⟨.between, [], words⟩ = ⟨.between, [], words⟩ := by
    induction rest with
    | nil => rfl
    | cons c rest ih =>
        obtain ⟨hc, hrest⟩ := List.forall_mem_cons.1 hrest
        rw [List.foldl_cons, step_between_separator (isSeparator_iff.2 hc), ih hrest]
  obtain ⟨c, rest, rfl⟩ := List.exists_cons_of_ne_nil hne
  obtain ⟨hc, hrest⟩ := List.forall_mem_cons.1 hseparators
  rw [List.foldl_cons, step_word_separator (isSeparator_iff.2 hc), hbetween rest hrest]

theorem Quotes.finish? {found : List String} {text : List Char} (hquotes : Quotes found text)
    (words : List String) :
    (text.foldl step ⟨.between, [], words⟩).finish? = some (words.reverse ++ found) := by
  induction hquotes generalizing words with
  | last word =>
      rw [foldl_step_quoted]
      simp [Splitter.finish?, endWord]
  | @cons word gap text next later hgap hlater ih =>
      rw [List.foldl_append, List.foldl_append, foldl_step_quoted, foldl_step_gap hgap, ih]
      simp

/-- Splitting gives the words that were quoted. -/
theorem Quotes.split? {words : List String} {line : String} (hquotes : Quotes words line.toList) :
    split? line = some words :=
  hquotes.finish? []

/-! ## Quoted words as a setting -/

theorem Quotes.starts {words : List String} {text : List Char} (hquotes : Quotes words text) :
    ∃ rest, text = singleQuote :: rest := by
  cases hquotes with
  | last word => exact ⟨_, rfl⟩
  | cons word hgap hlater => exact ⟨_, rfl⟩

theorem Quotes.ends {words : List String} {text : List Char} (hquotes : Quotes words text) :
    ∃ rest, text = rest ++ [singleQuote] := by
  induction hquotes with
  | last word => exact ⟨_, rfl⟩
  | @cons word gap text next later hgap hlater ih =>
      obtain ⟨rest, hrest⟩ := ih
      exact ⟨quoted word ++ gap ++ rest, by rw [hrest, ← List.append_assoc]⟩

/-- There is a quote at both ends, so that trimming takes nothing away. -/
theorem Quotes.unpadded {words : List String} {text : List Char} (hquotes : Quotes words text) :
    Unpadded text := by
  have hquote : ¬isBlank singleQuote := by decide
  constructor
  · obtain ⟨rest, rfl⟩ := hquotes.starts
    rintro c ⟨⟩
    exact hquote
  · obtain ⟨rest, rfl⟩ := hquotes.ends
    intro c hc
    rw [List.getLast?_concat, Option.mem_some_iff] at hc
    rwa [← hc]

end CommandWords

open CommandWords in
/-- The builder line is the variable for it, if that holds quoted words. -/
theorem Environment.builderLine_of_quotes {environment : Environment} {words : List String}
    {line : String} (hvariable : environment "ARTIFACT_BUILDER" = some line)
    (hquotes : Quotes words line.toList) : environment.settings.builderLine = line := by
  have hne : line ≠ "" := by
    rintro rfl
    obtain ⟨rest, hrest⟩ := hquotes.starts
    cases hrest
  have hread : nonBlank? line = some line := by
    simpa using @nonBlank?_padded "" line "" (by simp) (by simp) hquotes.unpadded hne
  have hsetting : environment.settings.builderCommand = some line := by
    change (environment "ARTIFACT_BUILDER").bind nonBlank? = some line
    rw [hvariable, Option.bind_some, hread]
  rw [Settings.builderLine, hsetting, Option.getD_some]

open CommandWords in
/-- Quoted words in the variable for the builder are its program and the first arguments of all its
commands, whatever the words are.  A run goes through the commands with them up to the first that
fails. -/
theorem Environment.quoted_words_lead {environment : Environment} {program : String}
    {leading : List String} {line : String}
    (hvariable : environment "ARTIFACT_BUILDER" = some line)
    (hquotes : Quotes (program :: leading) line.toList) :
    let settings := environment.settings
    let builder : Builder := ⟨program, leading⟩
    Builder.ofSettings settings = .ok builder ∧
      Publisher.ofSettings settings = .ok (.under settings builder) ∧
      (∀ config, builder.publishCommand config =
        { program, arguments := leading ++ ["publish", "--config", config.json.compact] }) ∧
      (∀ location : ArtifactLocation, builder.listCommand .scan location =
        { program
          arguments := leading ++ ["list", "scan", "--type", "task-scripts",
            "--endpoint", location.endpoint, "--bucket", location.bucket,
            "--prefix", location.folder] }) ∧
      (∀ location : ArtifactLocation, builder.listCommand .read location =
        { program
          arguments := leading ++ ["list", "read", "--type", "task-scripts",
            "--endpoint", location.endpoint, "--bucket", location.bucket,
            "--prefix", location.folder]
          captures := true }) ∧
      ∀ {σ : Type} (outside : Outside σ) (options : PublishOptions) (state : σ),
        let ran :=
          exchangesOf ((CommandLine.publish settings options).perform outside state).effects
        ∃ now, outside.Shows now ∧
          CutAtFailure
            (canonicalCommands settings program leading options
              (BuildConfig.assemble settings (metadataFrom settings ran now))) ran := by
  intro settings builder
  have hwords : split? settings.builderLine = some (program :: leading) := by
    rw [environment.builderLine_of_quotes hvariable hquotes, hquotes.split?]
  have hpublisher : Publisher.ofSettings settings = .ok (.under settings builder) :=
    Publisher.ofSettings_eq_ok_iff.2 ⟨program, leading, hwords, rfl⟩
  refine ⟨?_, hpublisher, fun _ => rfl, fun _ => rfl, fun _ => rfl, ?_⟩
  · rw [Builder.ofSettings, Builder.parse, hwords]
  · intro σ outside options state
    exact CommandLine.publish_cut hwords options outside state

open CommandWords in
/-- A word with a single quote in it, one that would be a comment, and an empty one. -/
theorem Environment.apostrophe_leads :
    let line := "'it'\\''s' \t\n'# \"$x\\' ''"
    let environment : Environment := fun name =>
      if name = "ARTIFACT_BUILDER" then some line else none
    let leading := ["# \"$x\\", ""]
    Quotes ("it's" :: leading) line.toList ∧
      Builder.ofSettings environment.settings = .ok ⟨"it's", leading⟩ ∧
      Publisher.ofSettings environment.settings =
        .ok (.under environment.settings ⟨"it's", leading⟩) := by
  intro line environment leading
  have hline : line.toList =
      quoted "it's" ++ [' ', '\t', '\n'] ++ (quoted "# \"$x\\" ++ [' '] ++ quoted "") := by
    decide
  have hquotes : Quotes ("it's" :: leading) line.toList := by
    rw [hline]
    exact .cons _ ⟨by simp, by simp⟩ (.cons _ ⟨by simp, by simp⟩ (.last ""))
  have hvariable : environment "ARTIFACT_BUILDER" = some line := rfl
  obtain ⟨hbuilder, hpublisher, -⟩ := quoted_words_lead hvariable hquotes
  exact ⟨hquotes, hbuilder, hpublisher⟩

end ArtifactRelease
