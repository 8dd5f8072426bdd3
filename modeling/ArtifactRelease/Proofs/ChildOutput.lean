import ArtifactRelease.Child.Execution
import ArtifactRelease.Proofs.Lines

/-!
# Lines of child output

The bytes of a stream are split into lines first and decoded line by line, while captured output is
decoded as a whole and can only be split afterwards.  The two agree for every stream, well formed
or not, because decoding starts afresh at every ASCII byte: whatever character was under way is
given up there, just as it is at the end of the bytes.
-/

namespace ArtifactRelease.Text

/-! ## Decoding byte by byte -/

/-- The bytes to come lie beyond ASCII, and so does the character that they complete. -/
structure PartialChar.Proper (char : PartialChar) : Prop where
  low_ge : 0x80 ≤ char.low.toNat
  wide : 2 ≤ char.bits * 64 + (char.low.toNat - 0x80)
  ending : char.missing ≤ 1 → 2 ≤ char.bits

theorem lead_of_lt {byte : UInt8} (hbyte : byte.toNat < 0x80) :
    lead byte = .complete (Char.ofNat byte.toNat) := by
  simp [lead, hbyte]

theorem lead_of_ge {byte : UInt8} (hbyte : 0x80 ≤ byte.toNat) :
    lead byte = .stray ∨ ∃ char, lead byte = .opens char ∧ char.Proper := by
  have hlarge : ¬byte.toNat < 0x80 := by omega
  simp only [lead, hlarge, if_false]
  repeat' split
  all_goals first
    | exact .inl rfl
    | refine .inr ⟨_, rfl, ?_, ?_, ?_⟩ <;> simp <;> omega

namespace Decoder

/-- The character under way, if there is one, can be completed. -/
def Proper (decoder : Decoder) : Prop :=
  ∀ char, decoder.underway = some char → char.Proper

def behind (decoder : Decoder) (earlier : List Char) : Decoder :=
  { decoder with decoded := decoder.decoded ++ earlier.reverse }

variable {decoder : Decoder} {byte : UInt8} {mark : Char}

theorem begin_behind (decoded earlier : List Char) (byte : UInt8) :
    begin (decoded ++ earlier.reverse) byte = (begin decoded byte).behind earlier := by
  rw [begin, begin]
  cases lead byte <;> rfl

theorem step_behind (decoder : Decoder) (earlier : List Char) (byte : UInt8) :
    (decoder.behind earlier).step byte = (decoder.step byte).behind earlier := by
  cases hunderway : decoder.underway with
  | none =>
      simp only [step, behind, hunderway]
      exact begin_behind _ _ _
  | some char =>
      simp only [step, behind, hunderway]
      split
      · split <;> rfl
      · exact begin_behind (replacement :: decoder.decoded) earlier byte

theorem foldl_step_behind (decoder : Decoder) (earlier : List Char) (bytes : List UInt8) :
    bytes.foldl step (decoder.behind earlier) = (bytes.foldl step decoder).behind earlier := by
  induction bytes generalizing decoder with
  | nil => rfl
  | cons byte rest ih => rw [List.foldl_cons, List.foldl_cons, step_behind, ih]

theorem finish_behind (decoder : Decoder) (earlier : List Char) :
    (decoder.behind earlier).finish = earlier ++ decoder.finish := by
  cases hunderway : decoder.underway <;> simp [finish, behind, hunderway]

/-- An ASCII byte completes what was under way as the end of the bytes does, and stands for
itself. -/
theorem step_of_lt (hproper : decoder.Proper) (hbyte : byte.toNat < 0x80) :
    decoder.step byte = ({} : Decoder).behind (decoder.finish ++ [Char.ofNat byte.toNat]) := by
  cases hunderway : decoder.underway with
  | none => simp [step, finish, behind, begin, hunderway, lead_of_lt hbyte]
  | some char =>
      have hlow := (hproper char hunderway).low_ge
      have houtside : ¬(char.low ≤ byte ∧ byte ≤ char.high) := by
        simp only [UInt8.le_iff_toNat_le]
        omega
      simp [step, finish, behind, begin, hunderway, houtside, lead_of_lt hbyte]

/-- From some decoded characters the decoder has gone on to more, without a `mark` among them, or has
a character under way. -/
structure GoesOn (mark : Char) (decoded : List Char) (decoder : Decoder) : Prop where
  proper : decoder.Proper
  decoded_eq : ∃ new, decoder.decoded = new ++ decoded ∧ mark ∉ new ∧
    (new = [] → decoder.underway.isSome)

end Decoder

/-- An ASCII character other than NUL, which is what a code that is no character comes to. -/
def IsMark (mark : Char) : Prop :=
  0 < mark.toNat ∧ mark.toNat < 0x80

theorem isMark_lineFeed : IsMark '\n' :=
  ⟨by decide, by decide⟩

theorem isMark_carriageReturn : IsMark '\r' :=
  ⟨by decide, by decide⟩

theorem IsMark.ne_ofNat {mark : Char} (hmark : IsMark mark) {code : Nat}
    (hcode : code ≠ mark.toNat) : mark ≠ Char.ofNat code := by
  rintro rfl
  by_cases hvalid : code.isValidChar
  · have hsame : (Char.ofNat code).toNat = code := by
      rw [Char.ofNat, dif_pos hvalid]
      rfl
    exact hcode hsame.symm
  · simp [IsMark, Char.ofNat, hvalid] at hmark

theorem IsMark.ne_replacement {mark : Char} (hmark : IsMark mark) : mark ≠ replacement := by
  rintro rfl
  exact absurd hmark.2 (by decide)

namespace Decoder

variable {decoder : Decoder} {byte : UInt8} {mark : Char}

theorem begin_goesOn (hmark : IsMark mark) (hbyte : byte.toNat ≠ mark.toNat)
    (decoded : List Char) : GoesOn mark decoded (begin decoded byte) := by
  rw [begin]
  by_cases hascii : byte.toNat < 0x80
  · rw [lead_of_lt hascii]
    exact ⟨by simp [Proper], [_], rfl, by simpa using hmark.ne_ofNat hbyte, by simp⟩
  · rcases lead_of_ge (Nat.not_lt.1 hascii) with hlead | ⟨char, hlead, hchar⟩
    · rw [hlead]
      exact ⟨by simp [Proper], [_], rfl, by simpa using hmark.ne_replacement, by simp⟩
    · rw [hlead]
      refine ⟨?_, [], rfl, by simp, by simp⟩
      rintro _ ⟨⟩
      exact hchar

/-- A byte never adds a mark that it does not stand for. -/
theorem step_goesOn (hmark : IsMark mark) (hbyte : byte.toNat ≠ mark.toNat)
    (hproper : decoder.Proper) : GoesOn mark decoder.decoded (decoder.step byte) := by
  cases hunderway : decoder.underway with
  | none =>
      simp only [step, hunderway]
      exact begin_goesOn hmark hbyte _
  | some char =>
      obtain ⟨hlow, hwide, hending⟩ := hproper char hunderway
      simp only [step, hunderway, UInt8.le_iff_toNat_le]
      by_cases hinside : char.low.toNat ≤ byte.toNat ∧ byte.toNat ≤ char.high.toNat
      · rw [if_pos hinside]
        by_cases hmissing : char.missing ≤ 1
        · -- the last byte: the code is at least 0x80, and so no mark
          rw [if_pos hmissing]
          have hbits := hending hmissing
          have hcode : char.bits * 64 + (byte.toNat - 0x80) ≠ mark.toNat := by
            have := hmark.2
            omega
          exact ⟨by simp [Proper], [_], rfl, by simpa using hmark.ne_ofNat hcode, by simp⟩
        · rw [if_neg hmissing]
          refine ⟨?_, [], rfl, by simp, by simp⟩
          intro next hnext
          obtain rfl := Option.some.inj hnext
          refine ⟨?_, ?_, ?_⟩ <;> simp <;> omega
      · rw [if_neg hinside]
        obtain ⟨hnext, new, hnew, hnot, hopen⟩ :=
          begin_goesOn hmark hbyte (replacement :: decoder.decoded)
        refine ⟨hnext, new ++ [replacement], by simp [hnew], ?_, by simp⟩
        simpa [hnot] using hmark.ne_replacement

theorem step_proper (hproper : decoder.Proper) (byte : UInt8) : (decoder.step byte).Proper := by
  by_cases hbyte : byte.toNat < 0x80
  · rw [step_of_lt hproper hbyte]
    simp [Proper, behind]
  · exact (step_goesOn isMark_lineFeed (by simp; omega) hproper).proper

theorem foldl_step_proper (hproper : decoder.Proper) (bytes : List UInt8) :
    (bytes.foldl step decoder).Proper := by
  induction bytes generalizing decoder with
  | nil => exact hproper
  | cons byte rest ih => exact ih (step_proper hproper byte)

theorem proper_initial : ({} : Decoder).Proper := by
  simp [Proper]

end Decoder

/-! ## Decoding a text -/

/-- Decoding starts afresh behind every ASCII byte. -/
theorem decodeLossy_append_cons {byte : UInt8} (hbyte : byte.toNat < 0x80)
    (front rest : List UInt8) :
    decodeLossy (front ++ byte :: rest) =
      decodeLossy front ++ Char.ofNat byte.toNat :: decodeLossy rest := by
  have hfront := Decoder.foldl_step_proper Decoder.proper_initial front
  rw [decodeLossy, List.foldl_append, List.foldl_cons, Decoder.step_of_lt hfront hbyte,
    Decoder.foldl_step_behind, Decoder.finish_behind]
  simp [decodeLossy]

/-- A mark is decoded only where its byte stands. -/
theorem not_mem_decodeLossy {mark : Char} (hmark : IsMark mark) {bytes : List UInt8}
    (hbytes : ∀ byte ∈ bytes, byte.toNat ≠ mark.toNat) : mark ∉ decodeLossy bytes := by
  have hdecoded (decoder : Decoder) (hproper : decoder.Proper) (hnone : mark ∉ decoder.decoded) :
      mark ∉ (bytes.foldl Decoder.step decoder).decoded := by
    induction bytes generalizing decoder with
    | nil => exact hnone
    | cons byte rest ih =>
        obtain ⟨hnext, new, hnew, hnot, -⟩ :=
          Decoder.step_goesOn hmark (hbytes byte (by simp)) hproper
        refine ih (fun other hother => hbytes other (by simp [hother])) _ hnext ?_
        simp [hnew, hnot, hnone]
  have hnone := hdecoded {} Decoder.proper_initial (by simp)
  rw [decodeLossy, Decoder.finish]
  split
  · simpa using hnone
  · simpa [hnone] using hmark.ne_replacement

/-- The last byte, unless it stands for a mark, does not decode to that. -/
theorem getLast?_decodeLossy {mark : Char} (hmark : IsMark mark) {byte : UInt8}
    (hbyte : byte.toNat ≠ mark.toNat) (front : List UInt8) :
    ∃ c, (decodeLossy (front ++ [byte])).getLast? = some c ∧ c ≠ mark := by
  have hfront := Decoder.foldl_step_proper Decoder.proper_initial front
  obtain ⟨-, new, hnew, hnot, hopen⟩ := Decoder.step_goesOn hmark hbyte hfront
  rw [decodeLossy, List.foldl_append, List.foldl_cons, List.foldl_nil, Decoder.finish]
  split
  · next hunderway =>
      cases new with
      | nil => simp [hunderway] at hopen
      | cons c more =>
          refine ⟨c, by simp [hnew], ?_⟩
          rintro rfl
          simp at hnot
  · exact ⟨replacement, by simp, hmark.ne_replacement.symm⟩

theorem decodeLossy_eq_nil_iff {bytes : List UInt8} : decodeLossy bytes = [] ↔ bytes = [] := by
  constructor
  · intro hnil
    rcases List.eq_nil_or_concat' bytes with rfl | ⟨front, byte, rfl⟩
    · rfl
    · by_cases hbyte : byte.toNat = '\n'.toNat
      · have hother : byte.toNat ≠ '\r'.toNat := by simp [hbyte]
        obtain ⟨c, hc, -⟩ := getLast?_decodeLossy isMark_carriageReturn hother front
        simp [hnil] at hc
      · obtain ⟨c, hc, -⟩ := getLast?_decodeLossy isMark_lineFeed hbyte front
        simp [hnil] at hc
  · rintro rfl
    rfl

end ArtifactRelease.Text

namespace ArtifactRelease.Child

open ArtifactRelease.Text
open ArtifactRelease.Log (Stream)

/-! ## Lines of bytes and lines of text -/

/-- The pieces of a decoded stream are its decoded pieces. -/
theorem splitOn_decodeLossy (bytes : List UInt8) :
    splitOn '\n' (decodeLossy bytes) = (bytes.splitOn lineFeed).map decodeLossy := by
  rw [splitOn_eq]
  -- on the length, since both parts at a line feed are split again
  induction hlength : bytes.length using Nat.strong_induction_on generalizing bytes with
  | _ length ih =>
      subst hlength
      by_cases hmem : lineFeed ∈ bytes
      · obtain ⟨front, rest, rfl⟩ := List.append_of_mem hmem
        have hfront := ih front.length (by simp) front rfl
        have hrest := ih rest.length (by simp; omega) rest rfl
        have hdecoded : decodeLossy (front ++ lineFeed :: rest) =
            decodeLossy front ++ '\n' :: decodeLossy rest :=
          decodeLossy_append_cons (by decide) front rest
        calc (decodeLossy (front ++ lineFeed :: rest)).splitOn '\n'
            = (decodeLossy front).splitOn '\n' ++ (decodeLossy rest).splitOn '\n' := by
              rw [hdecoded, List.splitOn_append_cons_self]
          _ = (front.splitOn lineFeed ++ rest.splitOn lineFeed).map decodeLossy := by
              rw [hfront, hrest, List.map_append]
          _ = ((front ++ lineFeed :: rest).splitOn lineFeed).map decodeLossy := by
              rw [List.splitOn_append_cons_self]
      · have hbytes : ∀ byte ∈ bytes, byte.toNat ≠ '\n'.toNat := by
          intro byte hbyte heq
          have hline : byte = lineFeed := UInt8.toNat_inj.1 heq
          exact hmem (hline ▸ hbyte)
        rw [List.splitOn_eq_singleton hmem, List.map_singleton,
          List.splitOn_eq_singleton (not_mem_decodeLossy isMark_lineFeed hbytes)]

/-- It makes no difference whether the carriage return is dropped before decoding or after. -/
theorem decodeLine_eq (bytes : List UInt8) :
    decodeLine bytes = String.ofList (dropLastIf '\r' (decodeLossy bytes)) := by
  rw [decodeLine, dropLastIf]
  rcases List.eq_nil_or_concat' bytes with rfl | ⟨front, byte, rfl⟩
  · rfl
  · by_cases hbyte : byte = carriageReturn
    · subst hbyte
      have hlast : decodeLossy (front ++ [carriageReturn]) = decodeLossy front ++ ['\r'] :=
        decodeLossy_append_cons (by decide) front []
      rw [if_pos (by simp), hlast, if_pos (by simp), List.dropLast_concat, List.dropLast_concat]
    · have hother : byte.toNat ≠ '\r'.toNat := fun heq => hbyte (UInt8.toNat_inj.1 heq)
      obtain ⟨c, hc, hne⟩ := getLast?_decodeLossy isMark_carriageReturn hother front
      rw [if_neg (by simpa using hbyte), hc, if_neg (by simpa using hne)]

/-- The lines of a text: the pieces between line feeds, of which the last is dropped if it is empty,
each without one carriage return at its end. -/
def textLines (text : String) : List String :=
  let found := pieces '\n' text
  let kept := if found.getLast? = some "" then found.dropLast else found
  kept.map fun line => String.ofList (dropLastIf '\r' line.toList)

/-- The lines of a stream: the pieces between line feeds, of which the last is dropped if it is empty,
each decoded by itself. -/
def byteLines (bytes : List UInt8) : List String :=
  let found := bytes.splitOn lineFeed
  let kept := if found.getLast? = some [] then found.dropLast else found
  kept.map decodeLine

/-- Lines that are decoded one by one are the lines of the decoded text. -/
theorem textLines_decodeLossy (bytes : List UInt8) :
    textLines (String.ofList (decodeLossy bytes)) = byteLines bytes := by
  have hpieces : pieces '\n' (String.ofList (decodeLossy bytes)) =
      (bytes.splitOn lineFeed).map fun piece => String.ofList (decodeLossy piece) := by
    rw [pieces, String.toList_ofList, splitOn_decodeLossy, List.map_map]
    rfl
  have hempty (piece : List UInt8) : String.ofList (decodeLossy piece) = "" ↔ piece = [] := by
    rw [String.ofList_eq_empty_iff, decodeLossy_eq_nil_iff]
  obtain ⟨init, last, hsplit⟩ : ∃ init last, bytes.splitOn lineFeed = init ++ [last] :=
    ⟨_, _, (List.dropLast_concat_getLast (List.splitOn_ne_nil lineFeed bytes)).symm⟩
  simp only [textLines, byteLines, hpieces, hsplit]
  by_cases hlast : last = []
  · simp [hlast, hempty, decodeLine_eq]
  · simp [hlast, hempty, decodeLine_eq]

/-! ## Splitting chunk by chunk -/

namespace LineSplitter

/-- Lines that were completed before stay behind those that a chunk completes. -/
theorem foldl_step_completed (splitter : LineSplitter) (completed : List String)
    (chunk : List UInt8) :
    chunk.foldl step (splitter, completed) =
      ((chunk.foldl step (splitter, [])).1, (chunk.foldl step (splitter, [])).2 ++ completed) := by
  induction chunk generalizing splitter completed with
  | nil => rfl
  | cons byte rest ih =>
      rw [List.foldl_cons, List.foldl_cons, step, step]
      split
      · rw [ih, ih _ [_]]
        simp
      · exact ih _ _

/-- Where a stream is cut makes no difference. -/
theorem push_append (splitter : LineSplitter) (first second : List UInt8) :
    splitter.push (first ++ second) =
      let (splitter, lines) := splitter.push first
      let (splitter, later) := splitter.push second
      (splitter, lines ++ later) := by
  simp only [push, List.foldl_append]
  rw [foldl_step_completed]
  simp

/-- A line feed completes the line that is pending, and any other byte is held back. -/
theorem push_singleton (splitter : LineSplitter) (byte : UInt8) :
    splitter.push [byte] =
      if byte = lineFeed then (⟨[]⟩, [decodeLine splitter.pending.reverse])
      else (⟨byte :: splitter.pending⟩, []) := by
  simp only [push, List.foldl_cons, List.foldl_nil, step]
  split <;> rfl

end LineSplitter

theorem byteLines_of_not_mem {bytes : List UInt8} (hbytes : lineFeed ∉ bytes) :
    byteLines bytes = if bytes = [] then [] else [decodeLine bytes] := by
  simp only [byteLines, List.splitOn_eq_singleton hbytes, List.getLast?_singleton,
    Option.some.injEq]
  split <;> rfl

theorem byteLines_append_cons {line : List UInt8} (hline : lineFeed ∉ line) (rest : List UInt8) :
    byteLines (line ++ lineFeed :: rest) = decodeLine line :: byteLines rest := by
  have hlast : (line :: rest.splitOn lineFeed).getLast? = (rest.splitOn lineFeed).getLast? :=
    List.getLast?_cons_of_ne_nil (List.splitOn_ne_nil lineFeed rest)
  simp only [byteLines, List.splitOn_append_cons_self_of_not_mem hline, hlast]
  split
  · rw [List.dropLast_cons_of_ne_nil (List.splitOn_ne_nil lineFeed rest), List.map_cons]
  · rw [List.map_cons]

/-- All lines of a stream, given in the end or on the way, are those of its bytes. -/
theorem LineSplitter.push_finish {splitter : LineSplitter}
    (hpending : lineFeed ∉ splitter.pending) (bytes : List UInt8) :
    (splitter.push bytes).2 ++ (splitter.push bytes).1.finish =
      byteLines (splitter.pending.reverse ++ bytes) := by
  induction bytes generalizing splitter with
  | nil =>
      have hreverse : lineFeed ∉ splitter.pending.reverse ++ [] := by simpa using hpending
      rw [byteLines_of_not_mem hreverse]
      simp [push, finish]
  | cons byte rest ih =>
      have hcut := push_append splitter [byte] rest
      rw [push_singleton, List.singleton_append] at hcut
      by_cases hbyte : byte = lineFeed
      · subst hbyte
        rw [if_pos rfl] at hcut
        rw [hcut, byteLines_append_cons (by simpa using hpending)]
        exact congrArg (_ :: ·) (ih List.not_mem_nil)
      · rw [if_neg hbyte] at hcut
        have hheld : lineFeed ∉ byte :: splitter.pending := by
          simpa [Ne.symm hbyte] using hpending
        rw [hcut]
        simpa using @ih ⟨byte :: splitter.pending⟩ hheld

/-! ## Sessions -/

theorem Buffer.push_nil (buffer : Buffer) : buffer.push [] = buffer := by
  cases hkeeps : buffer.keeps with
  | false => rw [push, if_neg (by simp [hkeeps])]
  | true => rw [push, if_pos hkeeps, List.append_nil]

theorem Buffer.push_append (buffer : Buffer) (first second : List UInt8) :
    buffer.push (first ++ second) = (buffer.push first).push second := by
  cases hkeeps : buffer.keeps <;> simp [push, hkeeps]

theorem Buffer.foldl_push (buffer : Buffer) (chunks : List (List UInt8)) :
    chunks.foldl push buffer = buffer.push chunks.flatten := by
  induction chunks generalizing buffer with
  | nil => rw [List.foldl_nil, List.flatten_nil, push_nil]
  | cons chunk later ih => rw [List.foldl_cons, List.flatten_cons, ih, push_append]

namespace Session

@[simp]
theorem pump_setPump (session : Session) (pump : Pump) (stream : Stream) :
    (session.setPump pump stream).pump stream = pump := by
  cases stream <;> rfl

@[simp]
theorem setPump_setPump (session : Session) (first second : Pump) (stream : Stream) :
    (session.setPump first stream).setPump second stream = session.setPump second stream := by
  cases stream <;> rfl

@[simp]
theorem setPump_pump (session : Session) (stream : Stream) :
    session.setPump (session.pump stream) stream = session := by
  cases stream <;> rfl

theorem run_append (session : Session) (first second : List Event) :
    session.run (first ++ second) =
      let (session, logged) := session.run first
      let (session, loggedLater) := session.run second
      (session, logged ++ loggedLater) := by
  induction first generalizing session with
  | nil => rfl
  | cons event later ih => simp [run, ih]

/-- The chunks of a stream are pushed as one. -/
theorem run_chunks (session : Session) (stream : Stream) (chunks : List (List UInt8)) :
    session.run (chunks.map (Event.chunk stream)) =
      let pump := session.pump stream
      let (splitter, lines) := pump.splitter.push chunks.flatten
      (session.setPump ⟨pump.buffer.push chunks.flatten, splitter⟩ stream,
        lines.map (Log.Event.childLine stream)) := by
  simp only [← Buffer.foldl_push]
  induction chunks generalizing session with
  | nil => exact Prod.ext (setPump_pump session stream).symm rfl
  | cons chunk later ih => simp [run, step, ih, LineSplitter.push_append]

def readToEnd (session : Session) (stream : Stream) (chunks : List (List UInt8)) :
    Session × List Log.Event :=
  session.run (chunks.map (Event.chunk stream) ++ [.endOfFile stream])

theorem readToEnd_logged {session : Session} {stream : Stream}
    (hfresh : (session.pump stream).splitter = {}) (chunks : List (List UInt8)) :
    (session.readToEnd stream chunks).2 =
      (byteLines chunks.flatten).map (Log.Event.childLine stream) := by
  have hlines := @LineSplitter.push_finish {} List.not_mem_nil chunks.flatten
  rw [List.reverse_nil, List.nil_append] at hlines
  simp only [readToEnd, run_append, run_chunks, run, step, hfresh]
  simp [← hlines]

theorem readToEnd_buffer (session : Session) (stream : Stream) (chunks : List (List UInt8)) :
    ((session.readToEnd stream chunks).1.pump stream).buffer =
      (session.pump stream).buffer.push chunks.flatten := by
  simp [readToEnd, run_append, run_chunks, run, step]

theorem start_pump (command : Command) (stream : Stream) :
    (start command).pump stream = ⟨⟨command.captures || stream = .stderr, []⟩, {}⟩ := by
  cases stream <;> simp [start, pump]

/-- Whatever bytes a child writes to a stream and however they are cut into chunks, the lines logged
for it are those of the text that a buffer makes of the same chunks.  They are the lines logged for
a single chunk, and a session that keeps the stream captures the very text. -/
theorem logged_lines_of_captured_text (command : Command) (stream : Stream)
    (chunks : List (List UInt8)) :
    let captured := (chunks.foldl Buffer.push { keeps := true }).text
    let read := (start command).readToEnd stream chunks
    read.2 = (textLines captured).map (Log.Event.childLine stream) ∧
      read.2 = ((start command).readToEnd stream [chunks.flatten]).2 ∧
      (read.1.pump stream).buffer.text =
        if command.captures ∨ stream = .stderr then captured else "" := by
  intro captured read
  have hfresh : ((start command).pump stream).splitter = {} := by rw [start_pump]
  have hcaptured : captured = String.ofList (decodeLossy chunks.flatten) := by
    simp only [captured, Buffer.foldl_push]
    rfl
  refine ⟨?_, ?_, ?_⟩
  · rw [readToEnd_logged hfresh, hcaptured, textLines_decodeLossy]
  · rw [readToEnd_logged hfresh, readToEnd_logged hfresh, List.flatten_singleton]
  · rw [readToEnd_buffer, start_pump, hcaptured]
    by_cases hkeeps : command.captures ∨ stream = .stderr
    · simp [Buffer.push, Buffer.text, hkeeps]
    · simp [Buffer.push, Buffer.text, hkeeps, decodeLossy_eq_nil_iff]

end Session

end ArtifactRelease.Child
