import Mathlib.Data.List.Basic
import Mathlib.Tactic.IntervalCases
import BuildSummary.Text.Utf8

/-!
# Decoding

Whatever the bytes of a log are, a byte of an ASCII character is read as that character, and no other
byte is read as one. A text is read back from its bytes.

## Main definitions

* `Utf8.Begun.IsOwed`, `Utf8.codePoint`: the bytes that complete a character, and its code point
* `Utf8.Reader.IsHigh`: the reader has read no ASCII character, and is not about to

## Main results

* `Utf8.decode_encode`: a text is read back from its bytes
* `Utf8.exists_of_decode_eq_append_cons`: an ASCII character that is read was written
-/

namespace BuildSummary.Utf8

variable {begun : Begun} {byte : UInt8} {rest bytes : List UInt8} {c : Char} {a b : Text}

/-! ## The bytes of a character -/

/-- The code point whose first bits are given and whose other bits are in the bytes. -/
def codePoint (bits : Nat) (bytes : List UInt8) : Nat :=
  bytes.foldl (fun bits byte => bits * 64 + byte.toNat % 64) bits

namespace Begun

/-- The bytes are what the character begun is owed: the next one within its bounds, and as many
more as are owed after it. -/
structure IsOwed (begun : Begun) (byte : UInt8) (rest : List UInt8) : Prop where
  low_le : begun.low ≤ byte.toNat
  le_high : byte.toNat ≤ begun.high
  length_eq : rest.length = begun.later
  tail : ∀ b ∈ rest, 0x80 ≤ b.toNat ∧ b.toNat ≤ 0xBF

/-- The bound of every byte after the second. -/
theorem low_ge_later : 0x80 ≤ 0x80 :=
  Nat.le_refl 0x80

/-- The character begun with one more byte of it read. -/
def step (begun : Begun) (byte : UInt8) (later : Nat) : Begun where
  bits := begun.bits * 64 + byte.toNat % 64
  later := later
  low := 0x80
  high := 0xBF
  low_ge := low_ge_later

/-- A character of two bytes; `bits` are those of its first byte. -/
def ofTwo (bits : Nat) : Begun where
  bits := bits
  later := 0
  low := 0x80
  high := 0xBF
  low_ge := low_ge_later

/-- A character of three bytes. It could be written in two, or is a surrogate, beyond the bounds. -/
def ofThree (bits : Nat) : Begun where
  bits := bits
  later := 1
  low := if bits = 0 then 0xA0 else 0x80
  high := if bits = 13 then 0x9F else 0xBF
  low_ge := by split <;> decide

/-- A character of four bytes. It could be written in three, or is no code point, beyond the
bounds. -/
def ofFour (bits : Nat) : Begun where
  bits := bits
  later := 2
  low := if bits = 0 then 0x90 else 0x80
  high := if bits = 4 then 0x8F else 0xBF
  low_ge := by split <;> decide

theorem ofFirst?_ofTwo {bits : Nat} (h : 2 ≤ bits) (h' : bits < 32) :
    ofFirst? (bits + 0xC0) = some (ofTwo bits) := by
  interval_cases bits <;> rfl

theorem ofFirst?_ofThree {bits : Nat} (h : bits < 16) :
    ofFirst? (bits + 0xE0) = some (ofThree bits) := by
  interval_cases bits <;> rfl

theorem ofFirst?_ofFour {bits : Nat} (h : bits < 5) :
    ofFirst? (bits + 0xF0) = some (ofFour bits) := by
  interval_cases bits <;> rfl

theorem ofFirst?_eq_none {n : Nat} (h : n < 0xC2 ∨ 0xF5 ≤ n) : ofFirst? n = none := by
  unfold ofFirst?
  repeat rw [if_neg (by simp; omega)]

/-- What a first byte begins is a character of two, three or four bytes. -/
theorem exists_of_ofFirst?_eq_some {n : Nat} (h : ofFirst? n = some begun) :
    (∃ bits, 2 ≤ bits ∧ bits < 32 ∧ n = bits + 0xC0 ∧ begun = ofTwo bits) ∨
      (∃ bits < 16, n = bits + 0xE0 ∧ begun = ofThree bits) ∨
      ∃ bits < 5, n = bits + 0xF0 ∧ begun = ofFour bits := by
  by_cases hnone : n < 0xC2 ∨ 0xF5 ≤ n
  · rw [ofFirst?_eq_none hnone] at h
    cases h
  by_cases htwo : n < 0xE0
  · obtain ⟨bits, rfl⟩ := Nat.exists_eq_add_of_le' (show 0xC0 ≤ n by omega)
    rw [ofFirst?_ofTwo (by omega) (by omega)] at h
    exact .inl ⟨bits, by omega, by omega, rfl, (Option.some.inj h).symm⟩
  by_cases hthree : n < 0xF0
  · obtain ⟨bits, rfl⟩ := Nat.exists_eq_add_of_le' (show 0xE0 ≤ n by omega)
    rw [ofFirst?_ofThree (by omega)] at h
    exact .inr (.inl ⟨bits, by omega, rfl, (Option.some.inj h).symm⟩)
  · obtain ⟨bits, rfl⟩ := Nat.exists_eq_add_of_le' (show 0xF0 ≤ n by omega)
    rw [ofFirst?_ofFour (by omega)] at h
    exact .inr (.inr ⟨bits, by omega, rfl, (Option.some.inj h).symm⟩)

theorem IsOwed.step {next : UInt8} (h : begun.IsOwed byte (next :: rest)) :
    (begun.step byte rest.length).IsOwed next rest where
  low_le := (h.tail next List.mem_cons_self).1
  le_high := (h.tail next List.mem_cons_self).2
  length_eq := rfl
  tail := fun b hb => h.tail b (List.mem_cons_of_mem next hb)

theorem IsOwed.of_step {later : Nat} {next : UInt8}
    (h : (begun.step byte later).IsOwed next rest) (hlow : begun.low ≤ byte.toNat)
    (hhigh : byte.toNat ≤ begun.high) (hlater : begun.later = later + 1) :
    begun.IsOwed byte (next :: rest) where
  low_le := hlow
  le_high := hhigh
  length_eq := by rw [List.length_cons, h.length_eq, hlater]; rfl
  tail := List.forall_mem_cons.mpr ⟨⟨h.low_le, h.le_high⟩, h.tail⟩

/-- Whatever completes the character begun, it is a code point beyond ASCII. -/
def IsSound (begun : Begun) : Prop :=
  ∀ byte rest, begun.IsOwed byte rest →
    0x80 ≤ codePoint begun.bits (byte :: rest) ∧
      (codePoint begun.bits (byte :: rest)).isValidChar

theorem isSound_of_ofFirst?_eq_some {n : Nat} (h : ofFirst? n = some begun) : begun.IsSound := by
  rintro byte rest ⟨hlow, hhigh, hlength, htail⟩
  unfold Nat.isValidChar
  rcases exists_of_ofFirst?_eq_some h with
    ⟨bits, h2, h32, rfl, rfl⟩ | ⟨bits, h16, rfl, rfl⟩ | ⟨bits, h5, rfl, rfl⟩
  · obtain rfl := List.length_eq_zero_iff.mp hlength
    simp only [ofTwo, codePoint, List.foldl_cons, List.foldl_nil] at *
    omega
  -- the bounds of the second byte depend on the first one
  · obtain ⟨last, rfl⟩ := List.length_eq_one_iff.mp hlength
    simp only [ofThree, codePoint, List.foldl_cons, List.foldl_nil, List.forall_mem_singleton] at *
    split at hlow <;> split at hhigh <;> omega
  · obtain ⟨third, last, rfl⟩ := List.length_eq_two.mp hlength
    simp only [ofFour, codePoint, List.foldl_cons, List.foldl_nil, List.forall_mem_cons] at *
    split at hlow <;> split at hhigh <;> omega

end Begun

theorem toNat_ofNat_of_isValidChar {n : Nat} (h : n.isValidChar) : (Char.ofNat n).toNat = n := by
  rw [Char.ofNat, dif_pos h]
  rfl

theorem toNat_ofNat_of_ascii (hc : c.toNat < 0x80) : (UInt8.ofNat c.toNat).toNat = c.toNat :=
  UInt8.toNat_ofNat_of_lt' (Nat.lt_trans hc (by decide : 0x80 < UInt8.size))

theorem utf8EncodeChar_of_ascii (hc : c.toNat < 0x80) :
    String.utf8EncodeChar c = [UInt8.ofNat c.toNat] :=
  if_pos (Nat.le_of_lt_succ hc)

/-- A character beyond ASCII is written as a first byte and the bytes that it is owed then. -/
theorem exists_isOwed_of_not_ascii (hc : 0x80 ≤ c.toNat) :
    ∃ lead byte rest begun, String.utf8EncodeChar c = lead :: byte :: rest ∧ 0x80 ≤ lead.toNat ∧
      Begun.ofFirst? lead.toNat = some begun ∧ begun.IsOwed byte rest ∧
      codePoint begun.bits (byte :: rest) = c.toNat := by
  have hvalid : c.toNat < 0xD800 ∨ 0xDFFF < c.toNat ∧ c.toNat < 0x110000 := c.valid
  have hbyte {n : Nat} (h : n < 256) : (UInt8.ofNat n).toNat = n := UInt8.toNat_ofNat_of_lt' h
  have htail (n : Nat) : (UInt8.ofNat (n % 64 + 128)).toNat = n % 64 + 128 := hbyte (by omega)
  unfold String.utf8EncodeChar
  simp only [Char.toNat_val]
  rw [if_neg (by omega)]
  split
  · have hlead : (UInt8.ofNat (c.toNat / 64 % 32 + 192)).toNat = c.toNat / 64 + 0xC0 := by
      rw [hbyte (by omega)]
      omega
    refine ⟨_, _, _, _, rfl, by omega, hlead ▸ Begun.ofFirst?_ofTwo (by omega) (by omega), ?_, ?_⟩
    · exact ⟨by rw [htail]; exact Nat.le_add_left .., by rw [htail]; show _ ≤ 0xBF; omega, rfl,
        nofun⟩
    · simp only [codePoint, List.foldl_cons, List.foldl_nil, htail, Begun.ofTwo]
      omega
  split
  · have hlead : (UInt8.ofNat (c.toNat / 4096 % 16 + 224)).toNat = c.toNat / 4096 + 0xE0 := by
      rw [hbyte (by omega)]
      omega
    refine ⟨_, _, _, _, rfl, by omega, hlead ▸ Begun.ofFirst?_ofThree (by omega), ?_, ?_⟩
    · refine ⟨?_, ?_, rfl, ?_⟩
      · show (if _ then 0xA0 else 0x80) ≤ _
        rw [htail]
        split <;> omega
      · show _ ≤ if _ then 0x9F else 0xBF
        rw [htail]
        split <;> omega
      · rw [List.forall_mem_singleton, htail]
        omega
    · simp only [codePoint, List.foldl_cons, List.foldl_nil, htail, Begun.ofThree]
      omega
  · have hlead : (UInt8.ofNat (c.toNat / 262144 % 8 + 240)).toNat = c.toNat / 262144 + 0xF0 := by
      rw [hbyte (by omega)]
      omega
    refine ⟨_, _, _, _, rfl, by omega, hlead ▸ Begun.ofFirst?_ofFour (by omega), ?_, ?_⟩
    · refine ⟨?_, ?_, rfl, ?_⟩
      · show (if _ then 0x90 else 0x80) ≤ _
        rw [htail]
        split <;> omega
      · show _ ≤ if _ then 0x8F else 0xBF
        rw [htail]
        split <;> omega
      · rw [List.forall_mem_cons, List.forall_mem_singleton, htail, htail]
        omega
    · simp only [codePoint, List.foldl_cons, List.foldl_nil, htail, Begun.ofFour]
      omega

/-! ## Reading a character -/

namespace Reader

theorem next_of_ofFirst?_eq_some (hbyte : 0x80 ≤ byte.toNat)
    (h : Begun.ofFirst? byte.toNat = some begun) (read : Text) :
    next ⟨read, none⟩ byte = ⟨read, some begun⟩ := by
  show first read byte.toNat = _
  rw [first, if_neg (Nat.not_lt.mpr hbyte), h]

theorem next_of_mem (hlow : begun.low ≤ byte.toNat) (hhigh : byte.toNat ≤ begun.high)
    (read : Text) :
    next ⟨read, some begun⟩ byte =
      match begun.later with
      | 0 => ⟨Char.ofNat (begun.bits * 64 + byte.toNat % 64) :: read, none⟩
      | later + 1 => ⟨read, some (begun.step byte later)⟩ := by
  simp only [next, hlow, hhigh, decide_true, Bool.and_true, if_true]
  rfl

theorem next_of_not_mem (h : ¬ (begun.low ≤ byte.toNat ∧ byte.toNat ≤ begun.high)) (read : Text) :
    next ⟨read, some begun⟩ byte = first (replacement :: read) byte.toNat := by
  simp only [next, Bool.and_eq_true, decide_eq_true_eq, h, if_false]

theorem foldl_next_of_isOwed (h : begun.IsOwed byte rest) (read : Text) :
    (byte :: rest).foldl next ⟨read, some begun⟩ =
      ⟨Char.ofNat (codePoint begun.bits (byte :: rest)) :: read, none⟩ := by
  -- the bytes after the first one are owed to a character of which one more byte is read
  induction rest generalizing begun byte with
  | nil =>
    rw [List.foldl_cons, next_of_mem h.low_le h.le_high, ← h.length_eq]
    rfl
  | cons next rest ih =>
    rw [List.foldl_cons, next_of_mem h.low_le h.le_high, ← h.length_eq]
    exact ih h.step

/-- **The bytes of a character are read as that character.** -/
theorem foldl_next_utf8EncodeChar (read : Text) (c : Char) :
    (String.utf8EncodeChar c).foldl next ⟨read, none⟩ = ⟨c :: read, none⟩ := by
  by_cases hc : c.toNat < 0x80
  · have hbyte := toNat_ofNat_of_ascii hc
    rw [utf8EncodeChar_of_ascii hc, List.foldl_cons, next_ascii _ (by rwa [hbyte]), hbyte,
      Char.ofNat_toNat]
    simp [finish]
  · obtain ⟨lead, byte, rest, begun, hencode, hlead, hfirst, howed, hcode⟩ :=
      exists_isOwed_of_not_ascii (Nat.not_lt.mp hc)
    rw [hencode, List.foldl_cons, next_of_ofFirst?_eq_some hlead hfirst,
      foldl_next_of_isOwed howed, hcode, Char.ofNat_toNat]

/-! ## Bytes beyond ASCII -/

/-- The reader has read no ASCII character, and is not about to. -/
structure IsHigh (reader : Reader) : Prop where
  read : ∀ c ∈ reader.read, 0x80 ≤ c.toNat
  begun : ∀ begun ∈ reader.begun, begun.IsSound

theorem isHigh_first {read : Text} (hread : ∀ c ∈ read, 0x80 ≤ c.toNat) {n : Nat}
    (hn : 0x80 ≤ n) : (first read n).IsHigh := by
  unfold first
  rw [if_neg (Nat.not_lt.mpr hn)]
  split
  · rename_i begun hbegun
    refine ⟨hread, ?_⟩
    rintro _ ⟨⟩
    exact Begun.isSound_of_ofFirst?_eq_some hbegun
  · exact ⟨List.forall_mem_cons.mpr ⟨by decide, hread⟩, nofun⟩

theorem IsHigh.next {reader : Reader} (h : reader.IsHigh) (hbyte : 0x80 ≤ byte.toNat) :
    (reader.next byte).IsHigh := by
  obtain ⟨read, begun⟩ := reader
  cases begun with
  | none => exact isHigh_first h.read hbyte
  | some begun =>
    have hsound := h.begun begun rfl
    by_cases hmem : begun.low ≤ byte.toNat ∧ byte.toNat ≤ begun.high
    · rw [next_of_mem hmem.1 hmem.2]
      split
      -- the byte completes the character, or more bytes are owed
      · rename_i hlater
        obtain ⟨hge, hvalid⟩ := hsound byte [] ⟨hmem.1, hmem.2, hlater.symm, nofun⟩
        have hread : 0x80 ≤ (Char.ofNat (begun.bits * 64 + byte.toNat % 64)).toNat := by
          exact hge.trans_eq (toNat_ofNat_of_isValidChar hvalid).symm
        exact ⟨List.forall_mem_cons.mpr ⟨hread, h.read⟩, nofun⟩
      · rename_i later hlater
        refine ⟨h.read, ?_⟩
        rintro _ ⟨⟩ next rest hrest
        exact hsound byte (next :: rest) (hrest.of_step hmem.1 hmem.2 hlater)
    · rw [next_of_not_mem hmem]
      exact isHigh_first (List.forall_mem_cons.mpr ⟨by decide, h.read⟩) hbyte

theorem IsHigh.foldl_next {reader : Reader} (h : reader.IsHigh)
    (hbytes : ∀ byte ∈ bytes, 0x80 ≤ byte.toNat) : (bytes.foldl Reader.next reader).IsHigh := by
  induction bytes generalizing reader with
  | nil => exact h
  | cons byte rest ih =>
    rw [List.forall_mem_cons] at hbytes
    exact ih (h.next hbytes.1) hbytes.2

theorem IsHigh.finish {reader : Reader} (h : reader.IsHigh) :
    ∀ c ∈ reader.finish, 0x80 ≤ c.toNat := by
  obtain ⟨read, begun⟩ := reader
  intro c hc
  cases begun with
  | none => exact h.read c (List.mem_reverse.mp hc)
  | some begun =>
    rcases List.mem_cons.mp (List.mem_reverse.mp hc) with rfl | hc
    · decide
    · exact h.read c hc

theorem finish_next_ne_nil (reader : Reader) (byte : UInt8) : (reader.next byte).finish ≠ [] := by
  have hfirst (read : Text) (n : Nat) : (first read n).finish ≠ [] := by
    unfold first
    split
    · simp [finish]
    · split <;> simp [finish]
  obtain ⟨read, begun⟩ := reader
  cases begun with
  | none => exact hfirst read byte.toNat
  | some begun =>
    by_cases hmem : begun.low ≤ byte.toNat ∧ byte.toNat ≤ begun.high
    · rw [next_of_mem hmem.1 hmem.2]
      split <;> simp [finish]
    · rw [next_of_not_mem hmem]
      exact hfirst (replacement :: read) byte.toNat

end Reader

/-! ## What decoding keeps -/

@[simp] theorem decode_nil : decode [] = [] := rfl

theorem decode_eq_nil_iff : decode bytes = [] ↔ bytes = [] := by
  constructor
  · intro h
    rcases List.eq_nil_or_concat bytes with rfl | ⟨before, last, rfl⟩
    · rfl
    · rw [List.concat_eq_append, decode, List.foldl_append] at h
      exact absurd h (Reader.finish_next_ne_nil _ last)
  · rintro rfl
    rfl

/-- A character that is read stands before what is read next. -/
theorem finish_foldl_next_singleton (c : Char) (bytes : List UInt8) :
    (bytes.foldl Reader.next ⟨[c], none⟩).finish = c :: decode bytes := by
  have hafter : (⟨[c], none⟩ : Reader) = Reader.after [c] ⟨[], none⟩ := rfl
  rw [hafter, Reader.foldl_after, Reader.finish_after]
  rfl

/-- Well-formed bytes are read as the characters that they encode, whatever follows. -/
theorem decode_encode_append (text : Text) (bytes : List UInt8) :
    decode (encode text ++ bytes) = text ++ decode bytes := by
  induction text with
  | nil => rfl
  | cons c text ih =>
    have hcons : encode (c :: text) = String.utf8EncodeChar c ++ encode text := rfl
    rw [hcons, List.append_assoc, decode, List.foldl_append, Reader.foldl_next_utf8EncodeChar,
      finish_foldl_next_singleton, ih]
    rfl

/-- **A text is read back from its bytes.** -/
theorem decode_encode (text : Text) : decode (encode text) = text := by
  have h := decode_encode_append text []
  rwa [List.append_nil, decode_nil, List.append_nil] at h

/-- Bytes beyond ASCII are read as characters beyond ASCII. -/
theorem le_toNat_of_mem_decode (h : ∀ byte ∈ bytes, 0x80 ≤ byte.toNat) (hc : c ∈ decode bytes) :
    0x80 ≤ c.toNat := by
  have hstart : (⟨[], none⟩ : Reader).IsHigh := ⟨nofun, nofun⟩
  exact (hstart.foldl_next h).finish c hc

/-- The first ASCII byte cuts a byte string in two, if there is one. -/
theorem high_or_cut (bytes : List UInt8) :
    (∀ byte ∈ bytes, 0x80 ≤ byte.toNat) ∨ ∃ high ascii rest, bytes = high ++ ascii :: rest ∧
      (∀ byte ∈ high, 0x80 ≤ byte.toNat) ∧ ascii.toNat < 0x80 := by
  cases hfind : bytes.find? (·.toNat < 0x80) with
  | none => exact .inl (by simpa using hfind)
  | some ascii =>
    obtain ⟨hascii, high, rest, rfl, hhigh⟩ := List.find?_eq_some_iff_append.mp hfind
    exact .inr ⟨high, ascii, rest, rfl, by simpa using hhigh, by simpa using hascii⟩

/-- **An ASCII character that is read was written**, and it cuts the bytes where it cuts the text. -/
theorem exists_of_decode_eq_append_cons (hc : c.toNat < 0x80) (h : decode bytes = a ++ c :: b) :
    ∃ before after, bytes = before ++ UInt8.ofNat c.toNat :: after ∧ decode before = a ∧
      decode after = b := by
  -- each step of the induction goes on behind the first ASCII byte
  induction hlength : bytes.length using Nat.strong_induction_on generalizing bytes a with
  | _ n ih =>
    have not_mem {high : List UInt8} (hhigh : ∀ byte ∈ high, 0x80 ≤ byte.toNat) :
        c ∉ decode high :=
      fun hmem => Nat.not_lt.mpr (le_toNat_of_mem_decode hhigh hmem) hc
    rcases high_or_cut bytes with hhigh | ⟨high, ascii, rest, rfl, hhigh, hascii⟩
    · exact absurd (h ▸ List.mem_append_right a List.mem_cons_self) (not_mem hhigh)
    rw [decode_append_ascii _ _ hascii] at h
    have hvalue : (Char.ofNat ascii.toNat).toNat = ascii.toNat :=
      toNat_ofNat_of_isValidChar (.inl (by omega))
    have hhere (hchar : Char.ofNat ascii.toNat = c) (ha : decode high = a) (hb : decode rest = b) :
        ∃ before after, high ++ ascii :: rest = before ++ UInt8.ofNat c.toNat :: after ∧
          decode before = a ∧ decode after = b := by
      refine ⟨high, rest, ?_, ha, hb⟩
      rw [← hchar, hvalue, UInt8.ofNat_toNat]
    rcases List.append_eq_append_iff.mp h with ⟨as, rfl, hrest⟩ | ⟨bs, hhigh_eq, hrest⟩
    · cases as with
      | nil =>
        obtain ⟨hchar, hb⟩ := List.cons.inj hrest
        exact hhere hchar (List.append_nil _).symm hb
      | cons d as =>
        obtain ⟨hchar, htail⟩ := List.cons.inj hrest
        have hshorter : rest.length < n := by
          rw [← hlength, List.length_append, List.length_cons]
          omega
        obtain ⟨before, after, rfl, hbefore, hafter⟩ := ih rest.length hshorter htail rfl
        refine ⟨high ++ ascii :: before, after, by simp, ?_, hafter⟩
        rw [decode_append_ascii _ _ hascii, hbefore, hchar]
    · cases bs with
      | nil =>
        obtain ⟨hchar, hb⟩ := List.cons.inj hrest
        exact hhere hchar.symm (hhigh_eq.trans (List.append_nil _)) hb.symm
      | cons d bs =>
        refine absurd ?_ (not_mem hhigh)
        rw [hhigh_eq, (List.cons.inj hrest).1]
        exact List.mem_append_right a List.mem_cons_self

theorem ofNat_mem_of_mem_decode (hc : c.toNat < 0x80) (h : c ∈ decode bytes) :
    UInt8.ofNat c.toNat ∈ bytes := by
  obtain ⟨a, b, h⟩ := List.append_of_mem h
  obtain ⟨before, after, rfl, -, -⟩ := exists_of_decode_eq_append_cons hc h
  exact List.mem_append_right before List.mem_cons_self

end BuildSummary.Utf8
