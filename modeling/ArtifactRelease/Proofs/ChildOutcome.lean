import ArtifactRelease.Proofs.ChildOutput

/-!
# What comes of a child

The chunks of the two streams of a child, their ends and its exit arrive in some order, and each
stream is cut into chunks anywhere.  The outcome depends on none of that: the exit status decides
which of the two streams counts, and that one is decoded as a whole.  A stream that encodes a text
is decoded to that text.
-/

namespace ArtifactRelease.Text

/-! ## Decoding what was encoded -/

/-- A byte behind the first of a character: it carries the last six of some bits. -/
def trailingByte (bits : Nat) : UInt8 := UInt8.ofNat (bits % 64 + 0x80)

theorem toNat_trailingByte (bits : Nat) : (trailingByte bits).toNat = bits % 64 + 0x80 :=
  UInt8.toNat_ofNat_of_lt' (show bits % 64 + 0x80 < 256 by omega)

/-- The bytes of a character, by how many there are. -/
theorem utf8EncodeChar_eq (c : Char) :
    String.utf8EncodeChar c =
      if c.toNat < 0x80 then [UInt8.ofNat c.toNat]
      else if c.toNat < 0x800 then [UInt8.ofNat (c.toNat / 64 + 0xC0), trailingByte c.toNat]
      else if c.toNat < 0x10000 then
        [UInt8.ofNat (c.toNat / 4096 + 0xE0), trailingByte (c.toNat / 64), trailingByte c.toNat]
      else
        [UInt8.ofNat (c.toNat / 262144 + 0xF0), trailingByte (c.toNat / 4096),
          trailingByte (c.toNat / 64), trailingByte c.toNat] := by
  have hvalid : c.val.toNat < 0xD800 ∨ 0xDFFF < c.val.toNat ∧ c.val.toNat < 0x110000 := c.valid
  simp only [String.utf8EncodeChar, trailingByte, Char.toNat]
  grind

/-- The first byte of two. -/
theorem lead_two (bits : Nat) (hlow : 2 ≤ bits) (hhigh : bits < 0x20) :
    lead (UInt8.ofNat (bits + 0xC0)) = .opens ⟨bits, 1, 0x80, 0xBF⟩ := by
  rw [lead, UInt8.toNat_ofNat_of_lt' (show bits + 0xC0 < 256 by omega)]
  grind

/-- The first byte of three.  The range of the second one is cut at one end if the bits so far are
those of an overlong form or of a surrogate. -/
theorem lead_three (bits : Nat) (hhigh : bits < 0x10) :
    lead (UInt8.ofNat (bits + 0xE0)) =
      .opens ⟨bits, 2, if bits = 0 then 0xA0 else 0x80, if bits = 0xD then 0x9F else 0xBF⟩ := by
  rw [lead, UInt8.toNat_ofNat_of_lt' (show bits + 0xE0 < 256 by omega)]
  grind

/-- The first byte of four.  The range of the second one is cut at one end if the bits so far are
those of an overlong form or of the last code points. -/
theorem lead_four (bits : Nat) (hhigh : bits ≤ 4) :
    lead (UInt8.ofNat (bits + 0xF0)) =
      .opens ⟨bits, 3, if bits = 0 then 0x90 else 0x80, if bits = 4 then 0x8F else 0xBF⟩ := by
  rw [lead, UInt8.toNat_ofNat_of_lt' (show bits + 0xF0 < 256 by omega)]
  grind

namespace Decoder

variable {decoded : List Char}

theorem step_of_opens {byte : UInt8} {char : PartialChar} (hlead : lead byte = .opens char) :
    step ⟨decoded, none⟩ byte = ⟨decoded, some char⟩ := by
  simp [step, begin, hlead]

/-- A trailing byte in range brings a character closer to its end. -/
theorem step_trailingByte (head missing bits : Nat) {low high : UInt8}
    (hlow : low.toNat ≤ bits % 64 + 0x80) (hhigh : bits % 64 + 0x80 ≤ high.toNat) :
    step ⟨decoded, some ⟨head, missing + 2, low, high⟩⟩ (trailingByte bits) =
      ⟨decoded, some ⟨head * 64 + bits % 64, missing + 1, 0x80, 0xBF⟩⟩ := by
  simp [step, UInt8.le_iff_toNat_le, toNat_trailingByte, hlow, hhigh]

/-- The last trailing byte ends a character. -/
theorem step_last_trailingByte (head bits : Nat) :
    step ⟨decoded, some ⟨head, 1, 0x80, 0xBF⟩⟩ (trailingByte bits) =
      ⟨Char.ofNat (head * 64 + bits % 64) :: decoded, none⟩ := by
  have hhigh : bits % 64 + 0x80 ≤ 0xBF := by omega
  simp [step, UInt8.le_iff_toNat_le, toNat_trailingByte, hhigh]

/-- The bytes of a character are decoded to it. -/
theorem foldl_step_utf8EncodeChar (decoded : List Char) (c : Char) :
    (String.utf8EncodeChar c).foldl step ⟨decoded, none⟩ = ⟨c :: decoded, none⟩ := by
  have hvalid : c.toNat < 0xD800 ∨ 0xDFFF < c.toNat ∧ c.toNat < 0x110000 := c.valid
  have hself {code : Nat} (hcode : code = c.toNat) : Char.ofNat code = c := by
    rw [hcode, Char.ofNat_toNat]
  rw [utf8EncodeChar_eq]
  split
  · have hbyte := UInt8.toNat_ofNat_of_lt' (show c.toNat < 256 by omega)
    have hlead := lead_of_lt (show (UInt8.ofNat c.toNat).toNat < 0x80 by omega)
    simp [step, begin, hlead, hbyte, hself rfl]
  split
  · have hopens := lead_two (c.toNat / 64) (by omega) (by omega)
    rw [List.foldl_cons, step_of_opens hopens, List.foldl_cons, step_last_trailingByte,
      List.foldl_nil, hself (by omega)]
  split
  · have hopens := lead_three (c.toNat / 4096) (by omega)
    rw [List.foldl_cons, step_of_opens hopens, List.foldl_cons, step_trailingByte,
      List.foldl_cons, step_last_trailingByte, List.foldl_nil, hself (by omega)]
    · split
      all_goals simp
      omega
    · split <;> simp <;> omega
  · have hopens := lead_four (c.toNat / 262144) (by omega)
    rw [List.foldl_cons, step_of_opens hopens, List.foldl_cons, step_trailingByte,
      List.foldl_cons, step_trailingByte, List.foldl_cons, step_last_trailingByte, List.foldl_nil,
      hself (by omega)]
    · simp
    · simp
      omega
    · split
      all_goals simp
      omega
    · split <;> simp <;> omega

end Decoder

theorem decodeLossy_encode (text : List Char) : decodeLossy (encode text) = text := by
  have hdecoded (decoded : List Char) :
      (encode text).foldl Decoder.step ⟨decoded, none⟩ = ⟨text.reverse ++ decoded, none⟩ := by
    induction text generalizing decoded with
    | nil => rfl
    | cons c rest ih =>
        have hencode : encode (c :: rest) = String.utf8EncodeChar c ++ encode rest := rfl
        rw [hencode, List.foldl_append, Decoder.foldl_step_utf8EncodeChar, ih]
        simp
  rw [decodeLossy, hdecoded]
  simp [Decoder.finish]

end ArtifactRelease.Text

namespace ArtifactRelease.Child

open ArtifactRelease.Text
open ArtifactRelease.Log (Stream)

/-! ## Events in any order -/

namespace Event

def stream? : Event → Option Stream
  | chunk stream _ => some stream
  | endOfFile stream => some stream
  | exit _ => none

def status? : Event → Option Status
  | exit status => some status
  | _ => none

def bytesOn (stream : Stream) : Event → List UInt8
  | chunk other bytes => if other = stream then bytes else []
  | _ => []

end Event

/-- A child writes chunks to its two streams, each up to its end, and exits once; how the three
courses of events lie between each other is left open. -/
structure Interleaves (written : Stream → List (List UInt8)) (status : Status)
    (events : List Event) : Prop where
  ofStream (stream : Stream) :
    events.filter (·.stream? = some stream) =
      (written stream).map (Event.chunk stream) ++ [.endOfFile stream]
  exits : events.filterMap Event.status? = [status]

namespace Session

/-- An event adds its bytes to a stream, and nothing else. -/
theorem step_buffer (session : Session) (event : Event) (stream : Stream) :
    ((session.step event).1.pump stream).buffer =
      (session.pump stream).buffer.push (event.bytesOn stream) := by
  cases event with
  | chunk other bytes =>
      cases other <;> cases stream <;>
        simp [step, Event.bytesOn, pump, setPump, Buffer.push_nil]
  | endOfFile other =>
      cases other <;> cases stream <;>
        simp [step, Event.bytesOn, pump, setPump, Buffer.push_nil]
  | exit status => cases stream <;> simp [step, Event.bytesOn, pump, Buffer.push_nil]

/-- Only an exit changes the status. -/
theorem step_status (session : Session) (event : Event) :
    (session.step event).1.status = event.status?.or session.status := by
  cases event with
  | chunk stream bytes => cases stream <;> rfl
  | endOfFile stream => cases stream <;> rfl
  | exit status => rfl

/-- A stream holds the bytes of all events on it, in order. -/
theorem run_buffer (session : Session) (events : List Event) (stream : Stream) :
    ((session.run events).1.pump stream).buffer =
      (session.pump stream).buffer.push (events.flatMap (Event.bytesOn stream)) := by
  induction events generalizing session with
  | nil => exact (Buffer.push_nil _).symm
  | cons event later ih => simp [run, ih, step_buffer, Buffer.push_append]

/-- The status is that of the last exit. -/
theorem run_status (session : Session) (events : List Event) :
    (session.run events).1.status =
      (events.filterMap Event.status?).getLast?.or session.status := by
  induction events generalizing session with
  | nil => rfl
  | cons event later ih =>
      cases hstatus : event.status? with
      | none => simp [run, ih, step_status, hstatus]
      | some status =>
          simp only [run, ih, step_status, hstatus, List.filterMap_cons_some hstatus,
            List.getLast?_cons]
          cases (later.filterMap Event.status?).getLast? <;> rfl

end Session

variable {written : Stream → List (List UInt8)} {status : Status} {events : List Event}

/-- The bytes of the events on a stream are those that were written to it. -/
theorem Interleaves.flatMap_bytesOn (hevents : Interleaves written status events)
    (stream : Stream) : events.flatMap (Event.bytesOn stream) = (written stream).flatten := by
  have hothers : ∀ event : Event, event.stream? ≠ some stream → event.bytesOn stream = [] := by
    intro event hother
    cases event with
    | chunk other bytes => exact if_neg fun heq => hother (congrArg some heq)
    | endOfFile other => rfl
    | exit status => rfl
  have hfilter (events : List Event) : events.flatMap (Event.bytesOn stream) =
      (events.filter (·.stream? = some stream)).flatMap (Event.bytesOn stream) := by
    induction events with
    | nil => rfl
    | cons event later ih =>
        by_cases hon : event.stream? = some stream
        · rw [List.flatMap_cons, ih, List.filter_cons_of_pos (by simpa using hon),
            List.flatMap_cons]
        · rw [List.flatMap_cons, ih, List.filter_cons_of_neg (by simpa using hon),
            hothers event hon, List.nil_append]
  have hchunk : Event.bytesOn stream ∘ Event.chunk stream = id := by
    funext bytes
    exact if_pos rfl
  rw [hfilter, hevents.ofStream, List.flatMap_append, List.flatMap_def, List.map_map, hchunk,
    List.map_id]
  simp [Event.bytesOn]

/-! ## The outcome -/

def streamText (written : Stream → List (List UInt8)) (stream : Stream) : String :=
  String.ofList (decodeLossy (written stream).flatten)

def outcomeOf (command : Command) (written : Stream → List (List UInt8)) : Status → Outcome
  | .exited 0 => .ok (if command.captures then streamText written .stdout else "")
  | .exited code => .error (.unsuccessful command.program code (streamText written .stderr))
  | .killed => .error (.unsuccessful command.program (-1) (streamText written .stderr))

theorem execute_interleaved (command : Command) (hevents : Interleaves written status events) :
    (execute command (.ok events)).outcome = outcomeOf command written status := by
  have hbuffer (stream : Stream) := Session.run_buffer (Session.start command) events stream
  have hstdout : ((Session.start command).run events).1.stdout.buffer.text =
      if command.captures then streamText written .stdout else "" := by
    have hpushed := hbuffer .stdout
    rw [hevents.flatMap_bytesOn, Session.start_pump] at hpushed
    rw [show ((Session.start command).run events).1.stdout.buffer = _ from hpushed]
    cases hcaptures : command.captures with
    | false => simp [Buffer.push, Buffer.text, decodeLossy_eq_nil_iff]
    | true => simp [Buffer.push, Buffer.text, streamText]
  have hstderr : ((Session.start command).run events).1.stderr.buffer.text =
      streamText written .stderr := by
    have hpushed := hbuffer .stderr
    rw [hevents.flatMap_bytesOn, Session.start_pump] at hpushed
    rw [show ((Session.start command).run events).1.stderr.buffer = _ from hpushed]
    simp [Buffer.push, Buffer.text, streamText]
  have hstatus : ((Session.start command).run events).1.status = some status := by
    rw [Session.run_status, hevents.exits]
    rfl
  change ((Session.start command).run events).1.outcome command.program = _
  rw [Session.outcome, hstatus, hstdout, hstderr]
  cases status with
  | exited code => cases code <;> rfl
  | killed => rfl

theorem isOk_outcomeOf (command : Command) (written : Stream → List (List UInt8))
    (status : Status) : (outcomeOf command written status).isOk ↔ status = .exited 0 := by
  cases status with
  | exited code => cases code <;> simp [outcomeOf, Except.isOk, Except.toBool]
  | killed => simp [outcomeOf, Except.isOk, Except.toBool]

/-- The outcome of a child is settled by its status, together with its standard output if it
succeeds and its standard error if not, in whatever order and in whatever chunks these arrive.  A
stream that encodes a text is that text again. -/
theorem outcome_of_interleaved (command : Command) {written : Stream → List (List UInt8)}
    {status : Status} {events : List Event} (hevents : Interleaves written status events) :
    let outcome := (execute command (.ok events)).outcome
    outcome = outcomeOf command written status ∧
      (outcome.isOk ↔ status = .exited 0) ∧
      (∀ stream text, (written stream).flatten = encode text.toList →
        streamText written stream = text) ∧
      ∀ other events', Interleaves other status events' →
        (status = .exited 0 → (other .stdout).flatten = (written .stdout).flatten →
          (execute command (.ok events')).outcome = outcome) ∧
        (status ≠ .exited 0 → (other .stderr).flatten = (written .stderr).flatten →
          (execute command (.ok events')).outcome = outcome) := by
  intro outcome
  have houtcome : outcome = outcomeOf command written status := execute_interleaved command hevents
  refine ⟨houtcome, ?_, ?_, ?_⟩
  · rw [houtcome, isOk_outcomeOf]
  · intro stream text hencoded
    rw [streamText, hencoded, decodeLossy_encode, String.ofList_toList]
  · intro other events' hother
    rw [execute_interleaved command hother, houtcome]
    constructor
    · rintro rfl hstdout
      simp only [outcomeOf, streamText, hstdout]
    · intro hfailed hstderr
      match status with
      | .exited 0 => exact absurd rfl hfailed
      | .exited (code + 1) => simp only [outcomeOf, streamText, hstderr]
      | .killed => simp only [outcomeOf, streamText, hstderr]

/-- A child whose output is cut inside a character, and that exits before all of it has arrived. -/
theorem outcome_of_cut_character :
    let command : Command := { program := "git", arguments := ["tag"], captures := true }
    let written : Stream → List (List UInt8)
      | .stdout => [[0x63, 0xC3], [0xA9]]
      | .stderr => [[0x21]]
    let events : List Event :=
      [.chunk .stdout [0x63, 0xC3], .exit (.exited 0), .chunk .stderr [0x21], .endOfFile .stderr,
        .chunk .stdout [0xA9], .endOfFile .stdout]
    Interleaves written (.exited 0) events ∧
      (execute command (.ok events)).outcome = .ok "c\u00e9" := by
  intro command written events
  have hevents : Interleaves written (.exited 0) events :=
    ⟨fun stream => by cases stream <;> rfl, rfl⟩
  obtain ⟨houtcome, -, hdecoded, -⟩ := outcome_of_interleaved command hevents
  refine ⟨hevents, houtcome.trans ?_⟩
  have htext := hdecoded .stdout "c\u00e9" (by decide)
  exact congrArg Except.ok htext

end ArtifactRelease.Child
