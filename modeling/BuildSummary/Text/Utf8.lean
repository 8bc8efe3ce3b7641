import BuildSummary.Text.Basic

/-!
# Reading bytes as UTF-8

Every byte string is read as a text. Where the bytes are ill-formed, each longest beginning of a
well-formed sequence, or else a single byte, becomes one replacement character. The reader is a
machine that takes one byte at a time, so a byte below 0x80 is read as itself wherever it stands.

## Main definitions

* `Utf8.Reader.next`: one byte
* `Utf8.decode`: a byte string as a text
* `Utf8.encode`: the bytes of a text
* `Utf8.byteLength`: how many bytes they are

## Main results

* `Utf8.decode_append_ascii`: a byte below 0x80 is read as itself and cuts the reading in two
-/

namespace BuildSummary.Utf8

/-- A character of which the first bytes are read. -/
structure Begun where
  /-- The code point's bits so far. -/
  bits : Nat
  /-- How many bytes are owed after the next one. -/
  later : Nat
  /-- The least value of the next byte. -/
  low : Nat
  /-- The greatest value of the next byte. -/
  high : Nat
  /-- No ASCII byte goes on with a character. -/
  low_ge : 0x80 ≤ low := by decide

/-- Where the reader stands between two bytes. -/
structure Reader where
  /-- The characters read, last first. -/
  read : Text
  /-- The character begun, if the reader stands inside one. -/
  begun : Option Begun

/-- What an ill-formed sequence is read as. -/
def replacement : Char := '\uFFFD'

/-- What the first byte of a character begins, for a byte of 0x80 or more. After some first bytes
the next one is bounded more tightly, so that no character is written in two ways or is a
surrogate or lies beyond the last code point. -/
def Begun.ofFirst? (byte : Nat) : Option Begun :=
  let ofTwo : Begun := { bits := byte % 32, later := 0, low := 0x80, high := 0xBF }
  let ofThree : Begun := { bits := byte % 16, later := 1, low := 0x80, high := 0xBF }
  let ofFour : Begun := { bits := byte % 8, later := 2, low := 0x80, high := 0xBF }
  if 0xC2 ≤ byte && byte ≤ 0xDF then some ofTwo
  else if byte == 0xE0 then some { ofThree with low := 0xA0, low_ge := by decide }
  else if byte == 0xED then some { ofThree with high := 0x9F }
  else if 0xE1 ≤ byte && byte ≤ 0xEF then some ofThree
  else if byte == 0xF0 then some { ofFour with low := 0x90, low_ge := by decide }
  else if 0xF1 ≤ byte && byte ≤ 0xF3 then some ofFour
  else if byte == 0xF4 then some { ofFour with high := 0x8F }
  else none

namespace Reader

/-- Reads a byte between two characters, where `read` are the characters before it. -/
def first (read : Text) (byte : Nat) : Reader :=
  if byte < 0x80 then ⟨Char.ofNat byte :: read, none⟩
  else match Begun.ofFirst? byte with
    | some begun => ⟨read, some begun⟩
    | none => ⟨replacement :: read, none⟩

/-- Reads one byte. A byte that cannot go on with the character begun ends it and is read anew. -/
def next (reader : Reader) (byte : UInt8) : Reader :=
  let byte := byte.toNat
  match reader.begun with
  | none => first reader.read byte
  | some begun =>
    if begun.low ≤ byte && byte ≤ begun.high then
      let bits := begun.bits * 64 + byte % 64
      match begun.later with
      | 0 => ⟨Char.ofNat bits :: reader.read, none⟩
      | later + 1 => ⟨reader.read, some { bits, later, low := 0x80, high := 0xBF }⟩
    else first (replacement :: reader.read) byte

/-- The text read when the bytes end. -/
def finish (reader : Reader) : Text :=
  match reader.begun with
  | none => reader.read.reverse
  | some _ => (replacement :: reader.read).reverse

end Reader

/-- A byte string as a text. -/
def decode (bytes : List UInt8) : Text :=
  (bytes.foldl Reader.next ⟨[], none⟩).finish

/-! ## Reading in parts -/

namespace Reader

/-- The reader with more characters read before. -/
def after (earlier : Text) (reader : Reader) : Reader :=
  { reader with read := reader.read ++ earlier }

theorem first_append (read earlier : Text) (byte : Nat) :
    first (read ++ earlier) byte = (first read byte).after earlier := by
  unfold first
  split
  · rfl
  · split <;> rfl

/-- What was read before does not change how a byte is read. -/
theorem next_after (earlier : Text) (reader : Reader) (byte : UInt8) :
    (reader.after earlier).next byte = (reader.next byte).after earlier := by
  obtain ⟨read, begun⟩ := reader
  unfold after next
  cases begun with
  | none => exact first_append read earlier _
  | some begun =>
    simp only
    split
    · split <;> rfl
    · rw [← List.cons_append]
      exact first_append _ earlier _

theorem foldl_after (earlier : Text) (reader : Reader) (bytes : List UInt8) :
    bytes.foldl next (reader.after earlier) = (bytes.foldl next reader).after earlier := by
  induction bytes generalizing reader with
  | nil => rfl
  | cons byte rest ih => rw [List.foldl_cons, next_after, ih, List.foldl_cons]

theorem finish_after (earlier : Text) (reader : Reader) :
    (reader.after earlier).finish = earlier.reverse ++ reader.finish := by
  obtain ⟨read, begun⟩ := reader
  unfold after finish
  cases begun <;> simp

/-- A byte below 0x80 is read as itself, after the replacement of a character begun. -/
theorem next_ascii (reader : Reader) {byte : UInt8} (h : byte.toNat < 0x80) :
    reader.next byte = ⟨Char.ofNat byte.toNat :: reader.finish.reverse, none⟩ := by
  obtain ⟨read, begun⟩ := reader
  unfold next finish
  cases begun with
  | none => simp [first, h]
  | some begun =>
    have hlow : ¬ begun.low ≤ byte.toNat := fun hle =>
      absurd (Nat.le_trans begun.low_ge hle) (Nat.not_le.mpr h)
    simp [first, h, hlow]

end Reader

/-- **A byte below 0x80 is read as itself and cuts the reading in two.** Thus invalid bytes neither
hide nor forge one. -/
theorem decode_append_ascii (a b : List UInt8) {byte : UInt8} (h : byte.toNat < 0x80) :
    decode (a ++ byte :: b) = decode a ++ Char.ofNat byte.toNat :: decode b := by
  unfold decode
  rw [List.foldl_append, List.foldl_cons, Reader.next_ascii _ h]
  have hafter (earlier : Text) :
      (⟨earlier, none⟩ : Reader) = Reader.after earlier ⟨[], none⟩ := rfl
  rw [hafter, Reader.foldl_after, Reader.finish_after]
  simp

/-- The bytes of a text. -/
def encode (text : Text) : List UInt8 :=
  text.flatMap String.utf8EncodeChar

/-- How many bytes the text takes. -/
def byteLength (text : Text) : Nat :=
  text.foldl (fun n c => n + c.utf8Size) 0

end BuildSummary.Utf8
