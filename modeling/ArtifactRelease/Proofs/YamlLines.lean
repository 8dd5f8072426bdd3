import ArtifactRelease.Proofs.MetadataYaml
import Mathlib.Data.List.Forall2

/-!
# The lines of a document that are not indented

Whatever its strings hold, the lines of a document that start in the first column are those of its
own keys, and of the items of a sequence that stands there.  Everything else that is written goes on
indented behind each line break.  The blanks that are lost at the end of a document cost it none of
these lines.
-/

namespace ArtifactRelease.Yaml

open ArtifactRelease.Text

/-! ## Lines that are not indented -/

def startsInFirstColumn (line : List Char) : Bool :=
  line.head?.any (· ≠ ' ')

/-- The lines that start in the first column, in their order. -/
def headLines (text : List Char) : List (List Char) :=
  (text.splitOnP isBreak).filter startsInFirstColumn

theorem headLines_nil : headLines [] = [] := rfl

theorem headLines_append_cons (front : List Char) {c : Char} (hc : isBreak c) (rest : List Char) :
    headLines (front ++ c :: rest) = headLines front ++ headLines rest := by
  rw [headLines, List.splitOnP_append_cons front rest hc, List.filter_append, headLines, headLines]

/-! ## Text that goes on inside -/

def Unbroken (text : List Char) : Prop :=
  ∀ c ∈ text, isBreak c = false

instance : DecidablePred Unbroken := fun text =>
  decidable_of_iff (text.all (!isBreak ·)) (by simp [Unbroken])

/-- Behind a line break there is a space or one more break; `afterBreak` tells whether one has come
before. -/
def Inset : (afterBreak : Bool) → List Char → Prop
  | _, [] => True
  | afterBreak, c :: rest => (afterBreak → c = ' ' ∨ isBreak c) ∧ Inset (isBreak c) rest

/-- A text that goes on inside behind a break does so anywhere. -/
theorem Inset.of_afterBreak {afterBreak : Bool} {text : List Char} (htext : Inset true text) :
    Inset afterBreak text := by
  cases text with
  | nil => trivial
  | cons c rest => exact ⟨fun _ => htext.1 rfl, htext.2⟩

theorem Inset.within_line {afterBreak : Bool} {text : List Char} (htext : Inset afterBreak text) :
    Inset false text := by
  cases afterBreak with
  | true => exact htext.of_afterBreak
  | false => exact htext

theorem Inset.append {afterBreak : Bool} {text rest : List Char} (htext : Inset afterBreak text)
    (hrest : Inset true rest) : Inset afterBreak (text ++ rest) := by
  induction text generalizing afterBreak with
  | nil => exact hrest.of_afterBreak
  | cons c later ih => exact ⟨htext.1, ih htext.2⟩

/-- Within a line, any character may follow. -/
theorem inset_cons {c : Char} {rest : List Char} (hrest : Inset (isBreak c) rest) :
    Inset false (c :: rest) :=
  ⟨fun hafter => absurd hafter Bool.false_ne_true, hrest⟩

theorem Unbroken.inset_append {text rest : List Char} (htext : Unbroken text)
    (hrest : Inset false rest) : Inset false (text ++ rest) := by
  induction text with
  | nil => exact hrest
  | cons c later ih =>
      rw [Unbroken, List.forall_mem_cons] at htext
      apply inset_cons
      rw [htext.1]
      exact ih htext.2

theorem Unbroken.inset {text : List Char} (htext : Unbroken text) : Inset false text := by
  rw [← List.append_nil text]
  exact htext.inset_append trivial

theorem unbroken_spaces (width : Nat) : Unbroken (spaces width) := by
  intro c hc
  rw [List.eq_of_mem_replicate hc]
  rfl

/-- Indentation takes what follows off the first column. -/
theorem inset_spaces {width : Nat} (hwidth : 0 < width) (afterBreak : Bool) {rest : List Char}
    (hrest : Inset false rest) : Inset afterBreak (spaces width ++ rest) := by
  obtain ⟨width, rfl⟩ := Nat.exists_eq_succ_of_ne_zero (Nat.ne_of_gt hwidth)
  exact ⟨fun _ => .inl rfl, (unbroken_spaces width).inset_append hrest⟩

theorem inset_indentation {indent : Nat} (hindent : 0 < indent) (afterBreak : Bool)
    {rest : List Char} (hrest : Inset false rest) :
    Inset afterBreak ((if afterBreak then spaces indent else []) ++ rest) := by
  cases afterBreak with
  | true => exact inset_spaces hindent true hrest
  | false => exact hrest

/-! ## Scalars -/

theorem exists_digitChar_of_mem_toDigits {value : Nat} {c : Char}
    (hc : c ∈ Nat.toDigits 16 value) : ∃ digit < 16, c = Nat.digitChar digit := by
  induction value using Nat.strongRecOn with
  | _ value ih =>
      rw [Nat.toDigits_eq_if (by decide)] at hc
      split at hc
      · next hsmall => exact ⟨value, hsmall, List.mem_singleton.1 hc⟩
      · rcases List.mem_append.1 hc with hfront | hlast
        · exact ih (value / 16) (by omega) hfront
        · exact ⟨value % 16, Nat.mod_lt _ (by decide), List.mem_singleton.1 hlast⟩

theorem not_isBreak_of_mem_upperHex {width value : Nat} {c : Char} (hc : c ∈ upperHex width value) :
    isBreak c = false := by
  have hdigits : ∀ digit < 16, isBreak (Nat.digitChar digit).toUpper = false := by
    decide
  rcases List.mem_append.1 hc with hzero | hdigit
  · rw [List.eq_of_mem_replicate hzero]
    rfl
  · obtain ⟨d, hd, rfl⟩ := List.mem_map.1 hdigit
    obtain ⟨digit, hlt, rfl⟩ := exists_digitChar_of_mem_toDigits hd
    exact hdigits digit hlt

/-- An escaped character breaks no line. -/
theorem not_isBreak_of_mem_escapeChar {c d : Char} (hd : d ∈ escapeChar c) : isBreak d = false := by
  have hhex (mark : Char) (hmark : isBreak mark = false) (width : Nat)
      (hd : d ∈ ['\\', mark] ++ upperHex width c.toNat) : isBreak d = false := by
    rcases List.mem_append.1 hd with hopening | hdigits
    · rcases List.mem_pair.1 hopening with rfl | rfl
      · rfl
      · exact hmark
    · exact not_isBreak_of_mem_upperHex hdigits
  by_cases hmark : c ∈ marks.map Prod.snd
  · obtain ⟨⟨mark, c⟩, hmem, rfl⟩ := List.mem_map.1 hmark
    have hmarks : ∀ pair ∈ marks, isBreak pair.1 = false := by decide
    rw [(escapeChar_of_mem_marks hmem).1] at hd
    rcases List.mem_pair.1 hd with rfl | rfl
    · rfl
    · exact hmarks _ hmem
  · rw [escapeChar_of_not_mem_marks hmark] at hd
    split_ifs at hd with hplain
    · rw [List.mem_singleton.1 hd]
      simp_all
    · exact hhex 'x' rfl 2 hd
    · exact hhex 'u' rfl 4 hd
    · exact hhex 'U' rfl 8 hd

theorem inset_doubleQuoted (text : List Char) : Inset false (doubleQuoted text) := by
  apply Unbroken.inset
  intro d hd
  simp only [doubleQuoted, List.mem_cons, List.mem_append, List.mem_flatMap,
    List.not_mem_nil, or_false] at hd
  rcases hd with rfl | ⟨c, -, hescaped⟩ | rfl
  · rfl
  · exact not_isBreak_of_mem_escapeChar hescaped
  · rfl

theorem inset_singleQuotedBody {indent : Nat} (hindent : 0 < indent) (afterBreak : Bool)
    (text : List Char) :
    Inset afterBreak (singleQuotedBody indent afterBreak text ++ [quote]) := by
  induction text generalizing afterBreak with
  | nil =>
      rw [singleQuotedBody]
      exact inset_indentation hindent afterBreak (inset_cons trivial)
  | cons c text ih =>
      have hfold : Char.ofNat 0x27 = quote := rfl
      rw [singleQuotedBody, hfold]
      split
      · next hspace =>
          rw [hspace]
          exact ⟨fun _ => .inl rfl, (ih afterBreak).within_line⟩
      split
      · next hspace hbreak =>
          refine ⟨fun _ => .inr hbreak, ?_⟩
          rw [hbreak]
          exact ih true
      · next hspace hbreak =>
          rw [Bool.not_eq_true] at hbreak
          have hshown : Unbroken (if c = quote then [quote, quote] else [c]) := by
            split
            · decide
            · exact List.forall_mem_singleton.2 hbreak
          rw [List.append_assoc, List.append_assoc]
          exact inset_indentation hindent afterBreak (hshown.inset_append (ih false))

theorem inset_literalBody {indent : Nat} (hindent : 0 < indent) (afterBreak : Bool)
    (text : List Char) : Inset afterBreak (literalBody indent afterBreak text) := by
  induction text generalizing afterBreak with
  | nil => trivial
  | cons c text ih =>
      rw [literalBody]
      split
      · next hbreak =>
          refine ⟨fun _ => .inr hbreak, ?_⟩
          rw [hbreak]
          exact ih true
      · next hbreak =>
          rw [Bool.not_eq_true] at hbreak
          refine inset_indentation hindent afterBreak (inset_cons ?_)
          rw [hbreak]
          exact ih false

theorem unbroken_literalHeader (text : List Char) : Unbroken (literalHeader text) := by
  have hmark (known : Bool) (mark : Char) (hmark : isBreak mark = false) :
      ∀ c ∈ if known then [mark] else [], isBreak c = false := by
    cases known with
    | true => exact List.forall_mem_singleton.2 hmark
    | false => exact List.forall_mem_nil _
  simp only [Unbroken, literalHeader, List.forall_mem_cons, List.forall_mem_append]
  refine ⟨rfl, hmark _ '2' rfl, ?_⟩
  cases text.reverse with
  | nil => exact hmark true '-' rfl
  | cons last before =>
      dsimp only
      cases isBreak last with
      | false => exact hmark true '-' rfl
      | true =>
          cases before with
          | nil => exact hmark true '+' rfl
          | cons c earlier =>
              dsimp only
              exact hmark (isBreak c) '+' rfl

theorem inset_literal {indent : Nat} (hindent : 0 < indent) (text : List Char) :
    Inset false (literal indent text) := by
  have hbody := inset_literalBody hindent true text
  exact (unbroken_literalHeader text).inset_append (inset_cons hbody)

/-- Whatever its style, a scalar goes on inside. -/
theorem inset_scalar {indent : Nat} (hindent : 0 < indent) (text : List Char) :
    Inset false (scalar indent text) := by
  rw [scalar]
  cases hstyle : style text with
  | plain =>
      obtain ⟨c, later, -, -, hbreaks⟩ := plain_shape hstyle
      exact Unbroken.inset hbreaks
  | singleQuoted =>
      have hbody := inset_singleQuotedBody hindent false text
      exact inset_cons hbody
  | doubleQuoted => exact inset_doubleQuoted text
  | literal => exact inset_literal hindent text

/-! ## Nodes -/

/-- What follows the text is at the start of a line: the text ends with a line break, or is empty
behind one. -/
def atLineStart (afterBreak : Bool) (text : List Char) : Bool :=
  (text.getLast?.map isBreak).getD afterBreak

theorem atLineStart_append (afterBreak : Bool) (text rest : List Char) :
    atLineStart afterBreak (text ++ rest) = atLineStart (atLineStart afterBreak text) rest := by
  rw [atLineStart, atLineStart, List.getLast?_append]
  cases rest.getLast? <;> rfl

/-- A text that ends the line it stands in ends with a break, wherever it stands. -/
theorem atLineStart_of_within_line {text : List Char} (htext : atLineStart false text)
    (afterBreak : Bool) : atLineStart afterBreak text := by
  rw [atLineStart] at htext ⊢
  cases hlast : text.getLast? with
  | none =>
      rw [hlast] at htext
      cases htext
  | some c =>
      rw [hlast] at htext
      exact htext

/-- Whole lines, of which none starts in the first column, save the one that is under way when the
text begins behind no break. -/
structure Lines (afterBreak : Bool) (text : List Char) : Prop where
  inset : Inset afterBreak text
  ends : atLineStart afterBreak text

theorem lines_nil : Lines true [] := ⟨trivial, rfl⟩

theorem Lines.append {afterBreak : Bool} {text rest : List Char} (htext : Lines afterBreak text)
    (hrest : Lines true rest) : Lines afterBreak (text ++ rest) := by
  refine ⟨htext.inset.append hrest.inset, ?_⟩
  rw [atLineStart_append, htext.ends]
  exact hrest.ends

theorem Lines.ends_append {rest : List Char} (hrest : Lines false rest) (afterBreak : Bool)
    (front : List Char) : atLineStart afterBreak (front ++ rest) := by
  rw [atLineStart_append]
  exact atLineStart_of_within_line hrest.ends _

theorem Unbroken.lines_append {front rest : List Char} (hfront : Unbroken front)
    (hrest : Lines false rest) : Lines false (front ++ rest) :=
  ⟨hfront.inset_append hrest.inset, hrest.ends_append false front⟩

theorem lines_spaces {width : Nat} (hwidth : 0 < width) (afterBreak : Bool) {rest : List Char}
    (hrest : Lines false rest) : Lines afterBreak (spaces width ++ rest) :=
  ⟨inset_spaces hwidth afterBreak hrest.inset, hrest.ends_append afterBreak _⟩

theorem lines_feed {rest : List Char} (hrest : Lines true rest) : Lines false ('\n' :: rest) := by
  have hline : Lines false ['\n'] := ⟨inset_cons trivial, rfl⟩
  exact hline.append hrest

theorem lines_endLine {text : List Char} (htext : Inset false text) :
    Lines false (endLine text) := by
  rw [endLine]
  split
  · next hbreak =>
      obtain ⟨c, hlast, hc⟩ := (Option.any_eq_true _ _).1 hbreak
      refine ⟨htext, ?_⟩
      rw [atLineStart, hlast]
      exact hc
  · have hfeed : Lines false ['\n'] := lines_feed lines_nil
    have hinset : Inset true ['\n'] := ⟨fun _ => .inr rfl, trivial⟩
    exact ⟨htext.append hinset, hfeed.ends_append false text⟩

theorem lines_inline (text : List Char) (htext : Unbroken text) : Lines false (text ++ ['\n']) :=
  htext.lines_append (lines_feed lines_nil)

theorem lines_string (indent : Nat) (value : String) :
    Lines false ((Node.string value).render indent) := by
  have hspace : Unbroken [' '] := by decide
  rw [Node.render_string]
  exact lines_endLine (hspace.inset_append (inset_scalar (by omega) value.toList))

/-- An item goes on inside behind its dash. -/
theorem itemLine_eq (indent : Nat) (item : String) :
    ∃ rest, itemLine indent item = spaces indent ++ ("-".toList ++ rest) ∧ Lines false rest := by
  have hline := endLine_append (spaces indent ++ ['-'])
    (List.cons_ne_nil ' ' (scalar (indent + 2) item.toList))
  refine ⟨endLine (' ' :: scalar (indent + 2) item.toList), ?_, lines_string indent item⟩
  rw [List.append_assoc, List.append_assoc] at hline
  exact hline

theorem lines_items {indent : Nat} (hindent : 0 < indent) (items : List String) :
    Lines true (items.flatMap (itemLine indent)) := by
  have hdash : Unbroken "-".toList := by decide
  induction items with
  | nil => exact lines_nil
  | cons item later ih =>
      obtain ⟨rest, hitem, hrest⟩ := itemLine_eq indent item
      rw [List.flatMap_cons, hitem]
      exact (lines_spaces hindent true (hdash.lines_append hrest)).append ih

theorem IsWord.unbroken {key : String} (hkey : IsWord key) : Unbroken key.toList :=
  fun c hc => (isAlpha_shape (hkey.2 c hc)).2.2.2

theorem lines_fields {indent : Nat} (hindent : 0 < indent) {fields : List (String × Node)}
    (hkeys : ∀ field ∈ fields, IsWord field.1)
    (hnodes : ∀ field ∈ fields, Lines false (field.2.render indent)) :
    Lines true (renderFields indent fields) := by
  induction fields with
  | nil => exact lines_nil
  | cons field later ih =>
      rw [List.forall_mem_cons] at hkeys hnodes
      have hcolon : Unbroken [':'] := by decide
      have hfield : Lines false (field.1.toList ++ ([':'] ++ field.2.render indent)) :=
        hkeys.1.unbroken.lines_append (hcolon.lines_append hnodes.1)
      have hshape : renderFields indent (field :: later) =
          spaces indent ++ (field.1.toList ++ ([':'] ++ field.2.render indent)) ++
            renderFields indent later := by
        simp [renderFields]
      rw [hshape]
      exact (lines_spaces hindent true hfield).append (ih hkeys.2 hnodes.2)

def Node.items : Node → List String
  | .sequence items => items
  | _ => []

theorem Node.eq_sequence {node : Node} (hitems : node.items ≠ []) :
    ∃ item later, node = .sequence (item :: later) := by
  cases node with
  | sequence items =>
      obtain ⟨item, later, rfl⟩ := List.exists_cons_of_ne_nil hitems
      exact ⟨item, later, rfl⟩
  | _ => exact absurd rfl hitems

/-- A node goes on inside behind its key, unless it has items in the first column. -/
theorem lines_render {node : Node} (hworded : node.Worded) {indent : Nat}
    (hplace : node.items = [] ∨ 0 < indent) : Lines false (node.render indent) := by
  induction node using Node.induction generalizing indent with
  | bool value =>
      cases value with
      | true => exact lines_inline " true".toList (by decide)
      | false => exact lines_inline " false".toList (by decide)
  | string value => exact lines_string indent value
  | sequence items =>
      cases items with
      | nil => exact lines_inline " []".toList (by decide)
      | cons item later =>
          have hindent : 0 < indent := hplace.resolve_left (List.cons_ne_nil item later)
          rw [Node.render_sequence]
          exact lines_feed (lines_items hindent (item :: later))
  | mapping fields ih =>
      cases hworded with
      | mapping hkeys hnodes =>
          cases fields with
          | nil => exact lines_inline " \x7b\x7d".toList (by decide)
          | cons field later =>
              rw [Node.render_mapping]
              exact lines_feed (lines_fields (by omega) hkeys fun field hfield =>
                ih field hfield (hnodes field hfield) (.inr (by omega)))

/-! ## Keys and items in the first column -/

/-- What a line may start with, without any blank. -/
def IsLabel (label : String) : Prop :=
  label.toList ≠ [] ∧ ∀ c ∈ label.toList, ¬isBlank c

instance : DecidablePred IsLabel := fun label =>
  decidable_of_iff (!label.toList.isEmpty && label.toList.all (!isBlank ·)) (by simp [IsLabel])

theorem IsWord.isLabel {key : String} (hkey : IsWord key) : IsLabel (key ++ ":") := by
  rw [IsLabel, String.toList_append, List.forall_mem_append]
  refine ⟨List.append_ne_nil_of_left_ne_nil hkey.1 _, ?_, List.forall_mem_singleton.2 (by decide)⟩
  intro c hc
  have hletter := isAlpha_range (hkey.2 c hc)
  simp [isBlank]
  omega

/-- Lines that go on inside are none of those in the first column. -/
theorem splitOnP_inset {afterBreak : Bool} {text : List Char} (htext : Inset afterBreak text) :
    ∃ later, text.splitOnP isBreak = text.takeWhile (!isBreak ·) :: later ∧
      (afterBreak → startsInFirstColumn (text.takeWhile (!isBreak ·)) = false) ∧
      ∀ line ∈ later, startsInFirstColumn line = false := by
  induction text generalizing afterBreak with
  | nil => exact ⟨[], List.splitOnP_nil, fun _ => rfl, List.forall_mem_nil _⟩
  | cons c rest ih =>
      obtain ⟨hc, hrest⟩ := htext
      obtain ⟨later, hsplit, hfirst, hlater⟩ := ih hrest
      rw [List.splitOnP_cons_eq_if_modifyHead, hsplit, List.takeWhile_cons]
      cases hbreak : isBreak c with
      | true => exact ⟨_, rfl, fun _ => rfl, List.forall_mem_cons.2 ⟨hfirst hbreak, hlater⟩⟩
      | false =>
          refine ⟨later, rfl, ?_, hlater⟩
          intro hafter
          obtain rfl : c = ' ' := (hc hafter).resolve_right (by simp [hbreak])
          rfl

theorem headLines_label {label : String} (hlabel : IsLabel label) {rest : List Char}
    (hrest : Inset false rest) :
    ∃ line, headLines (label.toList ++ rest) = [line] ∧ label.toList <+: line := by
  obtain ⟨hne, hblank⟩ := hlabel
  have hbreak : Unbroken label.toList := by
    intro c hc
    rw [Bool.eq_false_iff]
    exact fun hbreak => hblank c hc (isBlank_of_isBreak hbreak)
  obtain ⟨later, hsplit, -, hlater⟩ := splitOnP_inset (hbreak.inset_append hrest)
  have hfirst : (label.toList ++ rest).takeWhile (!isBreak ·) =
      label.toList ++ rest.takeWhile (!isBreak ·) :=
    List.takeWhile_append_of_pos (by simpa [Unbroken] using hbreak)
  refine ⟨_, ?_, hfirst ▸ List.prefix_append _ _⟩
  rw [headLines, hsplit, List.filter_cons_of_pos, List.filter_eq_nil_iff.2]
  · simpa using hlater
  · obtain ⟨c, more, hshape⟩ := List.exists_cons_of_ne_nil hne
    have hspace : c ≠ ' ' := by
      rintro rfl
      exact hblank ' ' (hshape ▸ List.mem_cons_self) rfl
    rw [hfirst, hshape]
    simp [startsInFirstColumn, hspace]

/-- There are as many lines as labels, and each starts with its label. -/
def StartWith (labels : List String) (lines : List (List Char)) : Prop :=
  List.Forall₂ (fun label line => label.toList <+: line) labels lines

/-- Whole lines, of which those in the first column start with the labels. -/
structure Headed (labels : List String) (text : List Char) : Prop where
  ends : atLineStart true text
  heads : StartWith labels (headLines text)

theorem headed_nil : Headed [] [] :=
  ⟨rfl, .nil⟩

theorem headed_label {label : String} (hlabel : IsLabel label) {rest : List Char}
    (hrest : Lines false rest) : Headed [label] (label.toList ++ rest) := by
  obtain ⟨line, hline, hstart⟩ := headLines_label hlabel hrest.inset
  exact ⟨hrest.ends_append true _, hline ▸ .cons hstart .nil⟩

theorem headLines_append {front : List Char} (hfront : atLineStart true front)
    (rest : List Char) : headLines (front ++ rest) = headLines front ++ headLines rest := by
  rcases List.eq_nil_or_concat' front with rfl | ⟨init, last, rfl⟩
  · rfl
  · have hlast : isBreak last := by simpa [atLineStart] using hfront
    have hinit := headLines_append_cons init hlast []
    rw [List.append_assoc, List.singleton_append, headLines_append_cons init hlast, hinit]
    simp [headLines, startsInFirstColumn]

theorem Headed.append {labels others : List String} {text rest : List Char}
    (htext : Headed labels text) (hrest : Headed others rest) :
    Headed (labels ++ others) (text ++ rest) := by
  constructor
  · rw [atLineStart_append, htext.ends]
    exact hrest.ends
  · rw [headLines_append htext.ends]
    exact List.rel_append htext.heads hrest.heads

theorem headed_items (items : List String) :
    Headed (items.map fun _ => "-") (items.flatMap (itemLine 0)) := by
  induction items with
  | nil => exact headed_nil
  | cons item later ih =>
      obtain ⟨rest, hitem, hrest⟩ := itemLine_eq 0 item
      have hfirst : Headed ["-"] (itemLine 0 item) :=
        hitem ▸ headed_label (by decide) hrest
      exact hfirst.append ih

def fieldLabels (field : String × Node) : List String :=
  (field.1 ++ ":") :: field.2.items.map fun _ => "-"

theorem headed_field {key : String} (hkey : IsWord key) {node : Node} (hworded : node.Worded) :
    Headed (fieldLabels (key, node)) (renderFields 0 [(key, node)]) := by
  have hshape : renderFields 0 [(key, node)] = (key ++ ":").toList ++ node.render 0 := by
    simp [renderFields, spaces]
  rw [hshape]
  by_cases hitems : node.items = []
  · have hlines : Lines false (node.render 0) := lines_render hworded (.inl hitems)
    simpa [fieldLabels, hitems] using headed_label hkey.isLabel hlines
  · obtain ⟨item, later, rfl⟩ := Node.eq_sequence hitems
    have hkeyLine := headed_label hkey.isLabel (lines_feed lines_nil)
    have hboth := hkeyLine.append (headed_items (item :: later))
    rw [Node.render_sequence]
    simpa [fieldLabels, Node.items] using hboth

/-- The lines of a document in the first column are those of its keys and of the items there. -/
theorem headed_document {fields : List (String × Node)} (hfields : (Node.mapping fields).Worded) :
    Headed (fields.flatMap fieldLabels) (document fields) := by
  cases hfields with
  | mapping hkeys hnodes =>
      rw [document]
      induction fields with
      | nil => exact headed_nil
      | cons field later ih =>
          rw [List.forall_mem_cons] at hkeys hnodes
          have hfirst := headed_field hkeys.1 hnodes.1
          have hboth := hfirst.append (ih hkeys.2 hnodes.2)
          rwa [← renderFields_append] at hboth

/-! ## Blanks at the end -/

theorem Unbroken.headLines_eq {text : List Char} (htext : Unbroken text) :
    headLines text = [text].filter startsInFirstColumn := by
  rw [headLines, List.splitOnP_eq_singleton htext]

/-- A text without breaks goes on the last line of what it is added to. -/
theorem exists_last_line (text : List Char) :
    ∃ before last, ∀ rest, Unbroken rest →
      headLines (text ++ rest) = before ++ [last ++ rest].filter startsInFirstColumn := by
  induction text using List.reverseRecOn with
  | nil =>
      refine ⟨[], [], ?_⟩
      intro rest hrest
      exact hrest.headLines_eq
  | append_singleton front c ih =>
      cases hc : isBreak c with
      | true =>
          refine ⟨headLines front, [], ?_⟩
          intro rest hrest
          rw [List.append_assoc, List.singleton_append, headLines_append_cons front hc,
            hrest.headLines_eq, List.nil_append]
      | false =>
          obtain ⟨before, last, hlines⟩ := ih
          refine ⟨before, last ++ [c], ?_⟩
          intro rest hrest
          rw [List.append_assoc, List.append_assoc]
          exact hlines _ (List.forall_mem_cons.2 ⟨hc, hrest⟩)

theorem StartWith.exists_concat {labels : List String} {before : List (List Char)}
    {last : List Char} (hlines : StartWith labels (before ++ [last])) :
    ∃ earlier label, labels = earlier ++ [label] ∧ StartWith earlier before ∧
      label.toList <+: last := by
  have hbefore := List.forall₂_take_append _ _ _ hlines
  have hlast := List.forall₂_drop_append _ _ _ hlines
  obtain ⟨label, others, hlabel, hothers, hdrop⟩ := List.forall₂_cons_right_iff.1 hlast
  obtain rfl := List.forall₂_nil_right_iff.1 hothers
  exact ⟨_, label, by rw [← hdrop, List.take_append_drop], hbefore, hlabel⟩

theorem startsInFirstColumn_append {line : List Char} (hline : line ≠ []) (rest : List Char) :
    startsInFirstColumn (line ++ rest) = startsInFirstColumn line := by
  obtain ⟨c, later, rfl⟩ := List.exists_cons_of_ne_nil hline
  rfl

/-- One blank less at the end of a text costs it no line that starts with a label. -/
theorem StartWith.of_concat {labels : List String} (hlabels : ∀ label ∈ labels, IsLabel label)
    {front : List Char} {c : Char} (hc : isBlank c)
    (hlines : StartWith labels (headLines (front ++ [c]))) :
    StartWith labels (headLines front) := by
  cases hbreak : isBreak c with
  | true =>
      rwa [headLines_append_cons front hbreak, headLines_nil, List.append_nil] at hlines
  | false =>
      obtain ⟨before, last, hlast⟩ := exists_last_line front
      have hfront := hlast [] (List.forall_mem_nil _)
      rw [List.append_nil, List.append_nil] at hfront
      rw [hlast [c] (List.forall_mem_singleton.2 hbreak)] at hlines
      rw [hfront]
      cases hstarts : startsInFirstColumn (last ++ [c]) with
      | true =>
          rw [List.filter_cons_of_pos hstarts, List.filter_nil] at hlines
          obtain ⟨earlier, label, rfl, hearlier, hlabel⟩ := hlines.exists_concat
          obtain ⟨hne, hblank⟩ := hlabels label List.mem_concat_self
          -- the blank is no part of the label, so that the label is in what is left of the line
          rcases List.prefix_concat_iff.1 hlabel with hwhole | hpart
          · exact absurd hc (hblank c (hwhole ▸ List.mem_concat_self))
          · have hlastNe : last ≠ [] := by
              rintro rfl
              exact hne (List.prefix_nil.1 hpart)
            rw [startsInFirstColumn_append hlastNe] at hstarts
            rw [List.filter_cons_of_pos hstarts, List.filter_nil]
            exact List.rel_append hearlier (.cons hpart .nil)
      | false =>
          have hleft : startsInFirstColumn last = false := by
            by_cases hlastNe : last = []
            · rw [hlastNe]
              rfl
            · rwa [startsInFirstColumn_append hlastNe] at hstarts
          rw [List.filter_cons_of_neg (by simp [hstarts])] at hlines
          rwa [List.filter_cons_of_neg (by simp [hleft])]

theorem StartWith.trimmed {labels : List String} (hlabels : ∀ label ∈ labels, IsLabel label)
    {text : List Char} (hlines : StartWith labels (headLines text)) :
    StartWith labels (headLines (trimEnd text)) := by
  change StartWith labels (headLines (text.rdropWhile isBlank))
  induction text using List.reverseRecOn with
  | nil => exact hlines
  | append_singleton front c ih =>
      rw [List.rdropWhile_concat]
      split
      · next hc => exact ih (hlines.of_concat hlabels hc)
      · exact hlines

end ArtifactRelease.Yaml

namespace ArtifactRelease.Metadata

open ArtifactRelease.Yaml

/-! ## Metadata -/

/-- What the lines of the document in the first column start with: the keys of metadata, and below
that of the tags a dash for each. -/
def lineStarts (metadata : Metadata) : List String :=
  ["commit:", "createdAt:"]
    ++ (match metadata.runRecord with
      | none => []
      | some _ => ["githubData:"])
    ++ match metadata.tags with
      | none => []
      | some tags => "tags:" :: tags.map fun _ => "-"

theorem flatMap_fieldLabels (metadata : Metadata) :
    metadata.entries.flatMap fieldLabels = metadata.lineStarts := by
  obtain ⟨commit, createdAt, runRecord, tags⟩ := metadata
  cases runRecord <;> cases tags <;> simp [entries, fieldLabels, Node.items, lineStarts]

theorem isLabel_of_mem_lineStarts {metadata : Metadata} :
    ∀ label ∈ metadata.lineStarts, IsLabel label := by
  simp only [lineStarts, List.forall_mem_append]
  refine ⟨⟨by decide, ?_⟩, ?_⟩
  · cases metadata.runRecord with
    | none => exact List.forall_mem_nil _
    | some record => exact List.forall_mem_singleton.2 (by decide)
  · cases metadata.tags with
    | none => exact List.forall_mem_nil _
    | some tags =>
        exact List.forall_mem_cons.2 ⟨by decide, List.forall_mem_map.2 fun _ _ => by decide⟩

/-- Whatever the strings of metadata hold, the lines of its document that start in the first column
are those of its own keys and tags. -/
theorem lines_in_first_column (metadata : Metadata) :
    List.Forall₂ (fun label line => label.toList <+: line) metadata.lineStarts
      (((metadata.render .yaml).toList.splitOnP isBreak).filter startsInFirstColumn) := by
  have hheads := (headed_document metadata.worded_entries).heads
  rw [flatMap_fieldLabels] at hheads
  rw [render, yaml, String.toList_ofList]
  exact hheads.trimmed isLabel_of_mem_lineStarts

/-- A line separator breaks a line of the document, but is no line feed: behind it, the next key
does not start what stands between two line feeds. -/
theorem line_separator_in_first_column :
    let metadata : Metadata := { commit := "a\n\u2028", createdAt := "c" }
    let lines := Text.splitOn '\n' (metadata.render .yaml).toList
    metadata.render .yaml = "commit: |+\n  a\n\u2028createdAt: c" ∧
      (¬∀ line ∈ lines, startsInFirstColumn line →
        ∃ label ∈ ["-", "commit:", "createdAt:", "githubData:", "tags:"],
          label.toList <+: line) ∧
      ¬∃ line ∈ lines, "createdAt:".toList <+: line := by
  decide +kernel

end ArtifactRelease.Metadata
