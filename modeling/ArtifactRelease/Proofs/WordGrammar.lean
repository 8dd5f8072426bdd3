import ArtifactRelease.CommandWords
import Mathlib.Data.List.Basic

/-!
# The grammar of command lines

A command line is words with gaps between them, and a word is made of pieces: bare characters,
characters behind a backslash, and texts in quotes.  Each piece gives some characters of the word,
or none.  The splitter finds words in a text exactly if the text can be put together in this way,
and the words are what the pieces give; every other text has a quote that is not closed.
-/

namespace ArtifactRelease.CommandWords

open Splitter

/-! ## Lines and what they are made of -/

inductive Enclosed where
  | char (c : Char) (hc : c ≠ '"' ∧ c ≠ '\\')
  | escaped (c : Char)

namespace Enclosed

def text : Enclosed → List Char
  | char c _ => [c]
  | escaped c => ['\\', c]

/-- The backslash stays if it has nothing to escape. -/
def value : Enclosed → List Char
  | char c _ => [c]
  | escaped c => if c = '\n' then [] else if isEscapable c then [c] else ['\\', c]

end Enclosed

/-- The characters that stand for themselves within a word. -/
def IsBare (c : Char) : Prop :=
  c ≠ singleQuote ∧ c ≠ '"' ∧ c ≠ '\\' ∧ ¬isSeparator c

inductive Piece where
  | char (c : Char) (hc : IsBare c)
  | escaped (c : Char)
  | single (chars : List Char) (hchars : singleQuote ∉ chars)
  | double (inside : List Enclosed)

namespace Piece

def text : Piece → List Char
  | char c _ => [c]
  | escaped c => ['\\', c]
  | single chars _ => singleQuote :: chars ++ [singleQuote]
  | double inside => '"' :: inside.flatMap Enclosed.text ++ ['"']

def value : Piece → List Char
  | char c _ => [c]
  | escaped c => if c = '\n' then [] else [c]
  | single chars _ => chars
  | double inside => inside.flatMap Enclosed.value

/-- A word can start with the piece.  A number sign would begin a comment instead, and a backslash
before a line feed belongs to the gap. -/
def Starts : Piece → Prop
  | char c _ => c ≠ '#'
  | escaped c => c ≠ '\n'
  | single _ _ => True
  | double _ => True

end Piece

/-- The pieces of a word.  Before the first there are none. -/
structure Word where
  pieces : List Piece
  starts : ∀ piece ∈ pieces.head?, piece.Starts

namespace Word

def text (word : Word) : List Char :=
  word.pieces.flatMap Piece.text

def value (word : Word) : List Char :=
  word.pieces.flatMap Piece.value

def Begun (word : Word) : Prop :=
  word.pieces ≠ []

def unbegun : Word where
  pieces := []
  starts := nofun

def concat (word : Word) (piece : Piece) (hpiece : word.Begun ∨ piece.Starts) : Word where
  pieces := word.pieces ++ [piece]
  starts := by
    obtain ⟨_ | ⟨first, later⟩, hstarts⟩ := word
    · rintro _ ⟨⟩
      exact hpiece.resolve_left (fun hbegun => hbegun rfl)
    · exact hstarts

@[simp]
theorem text_unbegun : unbegun.text = [] := rfl

@[simp]
theorem value_unbegun : unbegun.value = [] := rfl

variable {word : Word} {piece : Piece} {hpiece : word.Begun ∨ piece.Starts}

@[simp]
theorem text_concat : (word.concat piece hpiece).text = word.text ++ piece.text := by
  simp [concat, text]

@[simp]
theorem value_concat : (word.concat piece hpiece).value = word.value ++ piece.value := by
  simp [concat, value]

theorem begun_concat : (word.concat piece hpiece).Begun :=
  List.concat_ne_nil piece word.pieces

end Word

inductive Filler where
  | separator (c : Char) (hc : isSeparator c)
  | joint
  | comment (chars : List Char) (hchars : '\n' ∉ chars)

def Filler.text : Filler → List Char
  | separator c _ => [c]
  | joint => ['\\', '\n']
  | comment chars _ => '#' :: chars ++ ['\n']

/-- A word that is not the last thing in its line, with the gap before it. -/
structure Ended where
  gap : List Filler
  word : Word
  begun : word.Begun
  separator : Char
  separates : isSeparator separator

namespace Ended

def text (ended : Ended) : List Char :=
  ended.gap.flatMap Filler.text ++ ended.word.text ++ [ended.separator]

def value (ended : Ended) : String :=
  String.ofList ended.word.value

end Ended

/-- What a line ends in.  A backslash at the very end stands for itself. -/
inductive Ending where
  | nothing
  | comment (chars : List Char) (hchars : '\n' ∉ chars)
  | word (last : Word) (hbegun : last.Begun)
  | backslash (last : Word)

namespace Ending

def text : Ending → List Char
  | nothing => []
  | comment chars _ => '#' :: chars
  | word last _ => last.text
  | backslash last => last.text ++ ['\\']

def words : Ending → List String
  | nothing => []
  | comment _ _ => []
  | word last _ => [String.ofList last.value]
  | backslash last => [String.ofList (last.value ++ ['\\'])]

end Ending

structure Line where
  ended : List Ended
  gap : List Filler
  ending : Ending

namespace Line

def text (line : Line) : List Char :=
  line.ended.flatMap Ended.text ++ line.gap.flatMap Filler.text ++ line.ending.text

def words (line : Line) : List String :=
  line.ended.map Ended.value ++ line.ending.words

end Line

/-- The text can be put together as a line with the words. -/
def Spells (text : String) (words : List String) : Prop :=
  ∃ line : Line, line.text = text.toList ∧ line.words = words

/-! ## Splitting a line gives its words -/

variable {place : Place} {words : List String}

/-- Texts that each add to the word and leave the splitter in its place do so one after the
other. -/
theorem foldl_step_flatMap {α : Type} {text value : α → List Char} {items : List α}
    (hitem : ∀ item ∈ items, ∀ word : List Char,
      (text item).foldl step ⟨place, word, words⟩ =
        ⟨place, (value item).reverse ++ word, words⟩)
    (word : List Char) :
    (items.flatMap text).foldl step ⟨place, word, words⟩ =
      ⟨place, (items.flatMap value).reverse ++ word, words⟩ := by
  induction items generalizing word with
  | nil => rfl
  | cons item later ih =>
      obtain ⟨hfirst, hlater⟩ := List.forall_mem_cons.1 hitem
      rw [List.flatMap_cons, List.foldl_append, hfirst, ih hlater, List.flatMap_cons,
        List.reverse_append, List.append_assoc]

theorem foldl_step_single {chars : List Char} (hchars : singleQuote ∉ chars) (word : List Char) :
    chars.foldl step ⟨.singleQuotes, word, words⟩ =
      ⟨.singleQuotes, chars.reverse ++ word, words⟩ := by
  have hchar (c : Char) (hc : c ∈ chars) (word : List Char) :
      [c].foldl step ⟨.singleQuotes, word, words⟩ =
        ⟨.singleQuotes, [c].reverse ++ word, words⟩ := by
    have hne : c ≠ singleQuote := fun heq => hchars (heq ▸ hc)
    simp [step, take, hne]
  simpa using foldl_step_flatMap hchar word

theorem foldl_step_comment {chars : List Char} (hchars : '\n' ∉ chars) (word : List Char) :
    chars.foldl step ⟨.comment, word, words⟩ = ⟨.comment, word, words⟩ := by
  induction chars with
  | nil => rfl
  | cons c later ih =>
      obtain ⟨hfeed, hlater⟩ : '\n' ≠ c ∧ '\n' ∉ later := by simpa using hchars
      have hstep : step ⟨.comment, word, words⟩ c = ⟨.comment, word, words⟩ :=
        if_neg (Ne.symm hfeed)
      rw [List.foldl_cons, hstep, ih hlater]

theorem Enclosed.foldl_step (enclosed : Enclosed) (word : List Char) :
    enclosed.text.foldl step ⟨.doubleQuotes, word, words⟩ =
      ⟨.doubleQuotes, enclosed.value.reverse ++ word, words⟩ := by
  cases enclosed with
  | char c hc => simp [text, value, step, take, hc]
  | escaped c =>
      have hescape : step ⟨.doubleQuotes, word, words⟩ '\\' = ⟨.doubleEscape, word, words⟩ := rfl
      rw [text, value, List.foldl_cons, hescape, List.foldl_cons, List.foldl_nil, step]
      split_ifs <;> rfl

namespace Piece

theorem foldl_step (piece : Piece) (word : List Char) :
    piece.text.foldl step ⟨.word, word, words⟩ =
      ⟨.word, piece.value.reverse ++ word, words⟩ := by
  cases piece with
  | char c hc =>
      obtain ⟨hsingle, hdouble, hescape, hseparator⟩ := hc
      simp [text, value, step, take, hsingle, hdouble, hescape, hseparator]
  | escaped c =>
      have hescape : step ⟨.word, word, words⟩ '\\' = ⟨.wordEscape, word, words⟩ := rfl
      rw [text, value, List.foldl_cons, hescape, List.foldl_cons, List.foldl_nil, step]
      split_ifs <;> rfl
  | single chars hchars =>
      have hopen : step ⟨.word, word, words⟩ singleQuote = ⟨.singleQuotes, word, words⟩ := rfl
      have hclose (word : List Char) :
          step ⟨.singleQuotes, word, words⟩ singleQuote = ⟨.word, word, words⟩ := rfl
      rw [text, value, List.cons_append, List.foldl_cons, hopen, List.foldl_append,
        foldl_step_single hchars, List.foldl_cons, List.foldl_nil, hclose]
  | double inside =>
      have hopen : step ⟨.word, word, words⟩ '"' = ⟨.doubleQuotes, word, words⟩ := rfl
      have hclose (word : List Char) :
          step ⟨.doubleQuotes, word, words⟩ '"' = ⟨.word, word, words⟩ := rfl
      rw [text, value, List.cons_append, List.foldl_cons, hopen, List.foldl_append,
        foldl_step_flatMap (fun enclosed _ => enclosed.foldl_step), List.foldl_cons,
        List.foldl_nil, hclose]

/-- Where a word can start with the piece, it makes no difference whether it has started. -/
theorem Starts.foldl_step {piece : Piece} (hstarts : piece.Starts) :
    piece.text.foldl step ⟨.between, [], words⟩ = ⟨.word, piece.value.reverse, words⟩ := by
  have hsame : piece.text.foldl step ⟨.between, [], words⟩ =
      piece.text.foldl step ⟨.word, [], words⟩ := by
    cases piece with
    | char c hc =>
        obtain ⟨hsingle, hdouble, hescape, hseparator⟩ := hc
        have hcomment : c ≠ '#' := hstarts
        simp [text, step, take, hsingle, hdouble, hescape, hseparator, hcomment]
    | escaped c =>
        have hfeed : c ≠ '\n' := hstarts
        have hbetween : step ⟨.betweenEscape, [], words⟩ c = step ⟨.wordEscape, [], words⟩ c := by
          simp [step, take, hfeed]
        exact hbetween
    | single chars hchars => rfl
    | double inside => rfl
  rw [hsame, piece.foldl_step, List.append_nil]

end Piece

theorem Word.Begun.foldl_step {spelled : Word} (hbegun : spelled.Begun) :
    spelled.text.foldl step ⟨.between, [], words⟩ = ⟨.word, spelled.value.reverse, words⟩ := by
  obtain ⟨_ | ⟨first, later⟩, hstarts⟩ := spelled
  · exact absurd rfl hbegun
  · have hfirst : first.Starts := hstarts first rfl
    rw [Word.text, Word.value, List.flatMap_cons, List.foldl_append, hfirst.foldl_step,
      foldl_step_flatMap (fun piece _ => piece.foldl_step), List.flatMap_cons,
      List.reverse_append]

theorem isSeparator_iff {c : Char} : isSeparator c ↔ c = ' ' ∨ c = '\t' ∨ c = '\n' := by
  simp [isSeparator, or_assoc]

theorem step_between_separator {c : Char} (hc : isSeparator c) :
    step ⟨.between, [], words⟩ c = ⟨.between, [], words⟩ := by
  rcases isSeparator_iff.1 hc with rfl | rfl | rfl
  · rfl
  · rfl
  · rfl

theorem step_word_separator {c : Char} (hc : isSeparator c) (word : List Char) :
    step ⟨.word, word, words⟩ c = ⟨.between, [], String.ofList word.reverse :: words⟩ := by
  rcases isSeparator_iff.1 hc with rfl | rfl | rfl
  · rfl
  · rfl
  · rfl

theorem Filler.foldl_step (filler : Filler) :
    filler.text.foldl step ⟨.between, [], words⟩ = ⟨.between, [], words⟩ := by
  cases filler with
  | separator c hc => exact step_between_separator hc
  | joint => rfl
  | comment chars hchars =>
      have hopen : step ⟨.between, [], words⟩ '#' = ⟨.comment, [], words⟩ := rfl
      have hclose : step ⟨.comment, [], words⟩ '\n' = ⟨.between, [], words⟩ := rfl
      rw [text, List.cons_append, List.foldl_cons, hopen, List.foldl_append,
        foldl_step_comment hchars, List.foldl_cons, List.foldl_nil, hclose]

theorem foldl_step_fillers (gap : List Filler) :
    (gap.flatMap Filler.text).foldl step ⟨.between, [], words⟩ = ⟨.between, [], words⟩ := by
  induction gap with
  | nil => rfl
  | cons filler later ih => rw [List.flatMap_cons, List.foldl_append, filler.foldl_step, ih]

theorem Ended.foldl_step (ended : Ended) :
    ended.text.foldl step ⟨.between, [], words⟩ = ⟨.between, [], ended.value :: words⟩ := by
  rw [text, List.foldl_append, List.foldl_append, foldl_step_fillers, ended.begun.foldl_step,
    List.foldl_cons, List.foldl_nil, step_word_separator ended.separates, List.reverse_reverse,
    value]

theorem foldl_step_ended (ended : List Ended) (words : List String) :
    (ended.flatMap Ended.text).foldl step ⟨.between, [], words⟩ =
      ⟨.between, [], (ended.map Ended.value).reverse ++ words⟩ := by
  induction ended generalizing words with
  | nil => rfl
  | cons first later ih =>
      rw [List.flatMap_cons, List.foldl_append, first.foldl_step, ih]
      simp

/-- A backslash at the end of a text goes to the word, and makes one where there is none. -/
theorem finish?_of_backslash {splitter : Splitter}
    (hplace : splitter.place = .betweenEscape ∨ splitter.place = .wordEscape) :
    splitter.finish? =
      some (splitter.words.reverse ++ [String.ofList (splitter.word.reverse ++ ['\\'])]) := by
  rcases hplace with hplace | hplace
  · simp [Splitter.finish?, hplace, take, endWord]
  · simp [Splitter.finish?, hplace, take, endWord]

theorem Ending.finish?_text_backslash (last : Word) :
    ((backslash last).text.foldl step ⟨.between, [], words⟩).finish? =
      some (words.reverse ++ (backslash last).words) := by
  rw [text, List.foldl_append]
  by_cases hbegun : last.Begun
  · have hescape : step ⟨.word, last.value.reverse, words⟩ '\\' =
        ⟨.wordEscape, last.value.reverse, words⟩ := rfl
    rw [hbegun.foldl_step, List.foldl_cons, List.foldl_nil, hescape,
      finish?_of_backslash (.inr rfl), List.reverse_reverse, Ending.words]
  · have hpieces : last.pieces = [] := not_not.1 hbegun
    have hescape : step ⟨.between, [], words⟩ '\\' = ⟨.betweenEscape, [], words⟩ := rfl
    rw [Word.text, hpieces, List.flatMap_nil, List.foldl_nil, List.foldl_cons, List.foldl_nil,
      hescape, finish?_of_backslash (.inl rfl), Ending.words, Word.value, hpieces,
      List.flatMap_nil, List.reverse_nil]

theorem Ending.finish?_text (ending : Ending) :
    (ending.text.foldl step ⟨.between, [], words⟩).finish? =
      some (words.reverse ++ ending.words) := by
  cases ending with
  | nothing => simp [text, Ending.words, Splitter.finish?]
  | comment chars hchars =>
      have hopen : step ⟨.between, [], words⟩ '#' = ⟨.comment, [], words⟩ := rfl
      rw [text, List.foldl_cons, hopen, foldl_step_comment hchars]
      simp [Ending.words, Splitter.finish?]
  | word last hbegun =>
      rw [text, hbegun.foldl_step]
      simp [Ending.words, Splitter.finish?, endWord]
  | backslash last => exact finish?_text_backslash last

/-- A line is split into its words. -/
theorem Line.finish?_text (line : Line) :
    (line.text.foldl step {}).finish? = some line.words := by
  rw [text, List.foldl_append, List.foldl_append, foldl_step_ended, foldl_step_fillers,
    line.ending.finish?_text]
  simp [Line.words]

/-! ## A text that is split is a line -/

/-- What stands behind the last gap, and what it gives for the word under way, by the place of the
splitter. -/
inductive Underway : Place → List Char → List Char → Prop
  | between : Underway .between [] []
  | betweenEscape : Underway .betweenEscape [] ['\\']
  | comment (chars : List Char) (hchars : '\n' ∉ chars) : Underway .comment [] ('#' :: chars)
  | word (word : Word) (hbegun : word.Begun) : Underway .word word.value word.text
  | wordEscape (word : Word) (hbegun : word.Begun) :
      Underway .wordEscape word.value (word.text ++ ['\\'])
  | singleQuotes (word : Word) (chars : List Char) (hchars : singleQuote ∉ chars) :
      Underway .singleQuotes (word.value ++ chars) (word.text ++ singleQuote :: chars)
  | doubleQuotes (word : Word) (inside : List Enclosed) :
      Underway .doubleQuotes (word.value ++ inside.flatMap Enclosed.value)
        (word.text ++ '"' :: inside.flatMap Enclosed.text)
  | doubleEscape (word : Word) (inside : List Enclosed) :
      Underway .doubleEscape (word.value ++ inside.flatMap Enclosed.value)
        (word.text ++ '"' :: inside.flatMap Enclosed.text ++ ['\\'])

/-- What comes of a character behind that: it goes on, it was a piece of the gap, or it was a word
that ends. -/
inductive Continues (words : List String) (rest : List Char) (c : Char) (next : Splitter) : Prop
  | goesOn {place : Place} {value text : List Char} (hunderway : Underway place value text)
      (htext : text = rest ++ [c]) (hnext : next = ⟨place, value.reverse, words⟩)
  | filled (filler : Filler) (htext : filler.text = rest ++ [c])
      (hnext : next = ⟨.between, [], words⟩)
  | ended (word : Word) (hbegun : word.Begun) (hc : isSeparator c) (htext : word.text = rest)
      (hnext : next = ⟨.between, [], String.ofList word.value :: words⟩)

/-- The character ends a piece of the word under way. -/
theorem Continues.of_piece {rest : List Char} {c : Char} {next : Splitter} (word : Word)
    (piece : Piece) (hpiece : word.Begun ∨ piece.Starts)
    (htext : word.text ++ piece.text = rest ++ [c])
    (hnext : next = ⟨.word, (word.value ++ piece.value).reverse, words⟩) :
    Continues words rest c next := by
  apply Continues.goesOn (.word (word.concat piece hpiece) Word.begun_concat)
  · rw [Word.text_concat, htext]
  · rw [Word.value_concat, hnext]

theorem Underway.step {value rest : List Char} (hunderway : Underway place value rest)
    (words : List String) (c : Char) :
    Continues words rest c (step ⟨place, value.reverse, words⟩ c) := by
  cases hunderway with
  | between =>
      simp only [Splitter.step]
      split_ifs with hsingle hdouble hescape hseparator hcomment
      · exact .goesOn (.singleQuotes .unbegun [] nofun) (by rw [hsingle]; rfl) rfl
      · exact .goesOn (.doubleQuotes .unbegun []) (by rw [hdouble]; rfl) rfl
      · exact .goesOn .betweenEscape (by rw [hescape]; rfl) rfl
      · exact .filled (.separator c hseparator) rfl rfl
      · exact .goesOn (.comment [] nofun) (by rw [hcomment]; rfl) rfl
      · have hbare : IsBare c := ⟨hsingle, hdouble, hescape, hseparator⟩
        exact .of_piece .unbegun (.char c hbare) (.inr hcomment) rfl rfl
  | betweenEscape =>
      simp only [Splitter.step]
      split_ifs with hfeed
      · exact .filled .joint (by rw [hfeed]; rfl) rfl
      · apply Continues.of_piece .unbegun (.escaped c) (.inr hfeed) rfl
        simp [Piece.value, hfeed, take]
  | comment chars hchars =>
      simp only [Splitter.step]
      split_ifs with hfeed
      · exact .filled (.comment chars hchars) (by rw [hfeed]; rfl) rfl
      · exact .goesOn (.comment (chars ++ [c]) (by simp [hchars, Ne.symm hfeed])) rfl rfl
  | word word hbegun =>
      simp only [Splitter.step]
      split_ifs with hsingle hdouble hescape hseparator
      · exact .goesOn (.singleQuotes word [] nofun) (by rw [hsingle]) (by simp [goto])
      · exact .goesOn (.doubleQuotes word []) (by rw [hdouble]; rfl) (by simp [goto])
      · exact .goesOn (.wordEscape word hbegun) (by rw [hescape]) rfl
      · exact .ended word hbegun hseparator rfl (by simp [endWord])
      · have hbare : IsBare c := ⟨hsingle, hdouble, hescape, hseparator⟩
        apply Continues.of_piece word (.char c hbare) (.inl hbegun) rfl
        simp [Piece.value, take]
  | wordEscape word hbegun =>
      -- whatever the character is, it ends the piece; only what that gives differs
      apply Continues.of_piece word (.escaped c) (.inl hbegun)
      · simp [Piece.text]
      · simp only [Splitter.step]
        split_ifs with hfeed
        · simp [Piece.value, hfeed, goto]
        · simp [Piece.value, hfeed, take]
  | singleQuotes word chars hchars =>
      simp only [Splitter.step]
      split_ifs with hsingle
      · apply Continues.of_piece word (.single chars hchars) (.inr trivial)
        · simp [Piece.text, hsingle]
        · simp [Piece.value, goto]
      · have hmore : singleQuote ∉ chars ++ [c] := by simp [hchars, Ne.symm hsingle]
        exact .goesOn (.singleQuotes word (chars ++ [c]) hmore) (by simp) (by simp [take])
  | doubleQuotes word inside =>
      simp only [Splitter.step]
      split_ifs with hdouble hescape
      · apply Continues.of_piece word (.double inside) (.inr trivial)
        · simp [Piece.text, hdouble]
        · simp [Piece.value, goto]
      · exact .goesOn (.doubleEscape word inside) (by rw [hescape]) rfl
      · apply Continues.goesOn (.doubleQuotes word (inside ++ [.char c ⟨hdouble, hescape⟩]))
        · simp [Enclosed.text]
        · simp [Enclosed.value, take]
  | doubleEscape word inside =>
      apply Continues.goesOn (.doubleQuotes word (inside ++ [.escaped c]))
      · simp [Enclosed.text]
      · simp only [Splitter.step]
        split_ifs with hfeed hescapable
        · simp [Enclosed.value, hfeed, goto]
        · simp [Enclosed.value, hfeed, hescapable, take]
        · simp [Enclosed.value, hfeed, hescapable, take]

/-- Where the text may end, what is under way is an ending of the line. -/
theorem Underway.exists_ending {value rest : List Char} {found : List String}
    (hunderway : Underway place value rest)
    (hfinish : (⟨place, value.reverse, words⟩ : Splitter).finish? = some found) :
    ∃ ending : Ending, ending.text = rest ∧ found = words.reverse ++ ending.words := by
  cases hunderway with
  | between =>
      refine ⟨.nothing, rfl, ?_⟩
      simpa [Splitter.finish?, Ending.words, eq_comm] using hfinish
  | betweenEscape =>
      refine ⟨.backslash .unbegun, rfl, ?_⟩
      rw [finish?_of_backslash (.inl rfl)] at hfinish
      exact (Option.some.inj hfinish).symm
  | comment chars hchars =>
      refine ⟨.comment chars hchars, rfl, ?_⟩
      simpa [Splitter.finish?, Ending.words, eq_comm] using hfinish
  | word word hbegun =>
      refine ⟨.word word hbegun, rfl, ?_⟩
      simpa [Splitter.finish?, endWord, Ending.words, eq_comm] using hfinish
  | wordEscape word hbegun =>
      refine ⟨.backslash word, rfl, ?_⟩
      rw [finish?_of_backslash (.inr rfl), List.reverse_reverse] at hfinish
      exact (Option.some.inj hfinish).symm
  | singleQuotes | doubleQuotes | doubleEscape => cases hfinish

/-- The splitter has come over the beginning of a line, in which it has left ended words and a gap
behind. -/
inductive Reached : Splitter → List Char → Prop
  | intro (ended : List Ended) (gap : List Filler) {place : Place} {value rest : List Char}
      (hunderway : Underway place value rest) :
      Reached ⟨place, value.reverse, (ended.map Ended.value).reverse⟩
        (ended.flatMap Ended.text ++ gap.flatMap Filler.text ++ rest)

namespace Reached

variable {splitter : Splitter} {text : List Char}

theorem step (hreached : Reached splitter text) (c : Char) :
    Reached (splitter.step c) (text ++ [c]) := by
  obtain ⟨ended, gap, hunderway⟩ := hreached
  cases hunderway.step (ended.map Ended.value).reverse c with
  | goesOn hlater htext hnext =>
      rw [hnext, List.append_assoc, ← htext]
      exact .intro ended gap hlater
  | filled filler htext hnext =>
      rw [hnext, List.append_assoc, ← htext]
      simpa using Reached.intro ended (gap ++ [filler]) .between
  | ended word hbegun hc htext hnext =>
      let last : Ended := ⟨gap, word, hbegun, c, hc⟩
      have hvalue : String.ofList word.value = last.value := rfl
      have hlast : last.text = gap.flatMap Filler.text ++ word.text ++ [c] := rfl
      rw [hnext, hvalue, ← htext]
      simpa [hlast] using Reached.intro (ended ++ [last]) [] .between

theorem foldl (hreached : Reached splitter text) (later : List Char) :
    Reached (later.foldl Splitter.step splitter) (text ++ later) := by
  induction later generalizing splitter text with
  | nil => simpa using hreached
  | cons c later ih => simpa using ih (hreached.step c)

theorem exists_line (hreached : Reached splitter text) (hfinish : splitter.finish? = some words) :
    ∃ line : Line, line.text = text ∧ line.words = words := by
  obtain ⟨ended, gap, hunderway⟩ := hreached
  obtain ⟨ending, rfl, rfl⟩ := hunderway.exists_ending hfinish
  exact ⟨⟨ended, gap, ending⟩, rfl, by simp [Line.words]⟩

end Reached

/-- The splitter finds the words that a text spells. -/
theorem split?_eq_some_iff {text : String} : split? text = some words ↔ Spells text words := by
  constructor
  · -- an empty beginning is reached, and every character keeps that
    have hreached : Reached (text.toList.foldl step {}) text.toList :=
      (Reached.intro [] [] .between).foldl text.toList
    exact hreached.exists_line
  · rintro ⟨line, htext, rfl⟩
    rw [split?, ← htext]
    exact line.finish?_text

/-- Only a quote that is not closed keeps a text from spelling words. -/
theorem split?_eq_none_iff {text : String} : split? text = none ↔ ∀ words, ¬Spells text words := by
  simp only [Option.eq_none_iff_forall_ne_some, ne_eq, split?_eq_some_iff]

end ArtifactRelease.CommandWords
