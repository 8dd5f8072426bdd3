/-!
# Bytes and characters

A child process writes bytes; messages and captured output are text.  Decoding never fails: every
longest beginning of a character that cannot be completed becomes one replacement character.  The
decoder is a machine that takes one byte at a time, so that cutting the bytes into chunks makes no
difference.
-/

namespace ArtifactRelease.Text

/-- A character whose first bytes have been read: the bits so far, how many bytes are to come, and
the range the next one has to lie in. -/
structure PartialChar where
  bits : Nat
  missing : Nat
  low : UInt8
  high : UInt8
  deriving Repr, DecidableEq

/-- What a byte starts when no character is under way. -/
inductive Lead where
  | complete (c : Char)
  | opens (char : PartialChar)
  | stray
  deriving Repr, DecidableEq

/-- Reads a first byte.  The range of the second byte excludes overlong forms, surrogates and code
points past the last one. -/
def lead (byte : UInt8) : Lead :=
  let value := byte.toNat
  if value < 0x80 then .complete (Char.ofNat value)
  else if value < 0xC2 then .stray
  else if value < 0xE0 then .opens ⟨value - 0xC0, 1, 0x80, 0xBF⟩
  else if value = 0xE0 then .opens ⟨0, 2, 0xA0, 0xBF⟩
  else if value = 0xED then .opens ⟨0xD, 2, 0x80, 0x9F⟩
  else if value < 0xF0 then .opens ⟨value - 0xE0, 2, 0x80, 0xBF⟩
  else if value = 0xF0 then .opens ⟨0, 3, 0x90, 0xBF⟩
  else if value < 0xF4 then .opens ⟨value - 0xF0, 3, 0x80, 0xBF⟩
  else if value = 0xF4 then .opens ⟨4, 3, 0x80, 0x8F⟩
  else .stray

/-- U+FFFD, which stands for bytes that are no character. -/
def replacement : Char := Char.ofNat 0xFFFD

/-- The characters decoded so far, last one first, and the one under way. -/
structure Decoder where
  decoded : List Char := []
  underway : Option PartialChar := none
  deriving Repr, DecidableEq

namespace Decoder

def begin (decoded : List Char) (byte : UInt8) : Decoder :=
  match lead byte with
  | .complete c => ⟨c :: decoded, none⟩
  | .opens char => ⟨decoded, some char⟩
  | .stray => ⟨replacement :: decoded, none⟩

def step (decoder : Decoder) (byte : UInt8) : Decoder :=
  match decoder.underway with
  | none => begin decoder.decoded byte
  | some char =>
    if char.low ≤ byte ∧ byte ≤ char.high then
      let bits := char.bits * 64 + (byte.toNat - 0x80)
      if char.missing ≤ 1 then ⟨Char.ofNat bits :: decoder.decoded, none⟩
      else ⟨decoder.decoded, some ⟨bits, char.missing - 1, 0x80, 0xBF⟩⟩
    else begin (replacement :: decoder.decoded) byte

/-- A character left unfinished at the end is replaced. -/
def finish (decoder : Decoder) : List Char :=
  match decoder.underway with
  | none => decoder.decoded.reverse
  | some _ => (replacement :: decoder.decoded).reverse

end Decoder

/-- The text that the bytes stand for, with replacement characters where they are none. -/
def decodeLossy (bytes : List UInt8) : List Char :=
  (bytes.foldl Decoder.step {}).finish

def encode (text : List Char) : List UInt8 :=
  text.flatMap String.utf8EncodeChar

/-- The text whose encoding the bytes are, if there is one. -/
def decode? (bytes : List UInt8) : Option (List Char) :=
  let text := decodeLossy bytes
  if encode text = bytes then some text else none

end ArtifactRelease.Text
