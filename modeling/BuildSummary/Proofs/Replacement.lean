import BuildSummary.Proofs.Decoding

/-!
# Ill-formed bytes

Where bytes are ill-formed, each longest beginning of a character that is cut off is read as one
replacement character, and so is a byte with which no character begins. As the bytes of a character
are read as the character, this determines how any bytes are read.

## Main definitions

* `Utf8.BeginsCharacter`: bytes with which the bytes of a character begin
* `Utf8.IsCutOff`: a longest beginning of a character that is cut off
* `Utf8.Decodes`: how bytes are to be read
* `Utf8.Begun.Completes`: the bytes that a character begun is owed complete it

## Main results

* `Utf8.exists_utf8EncodeChar_eq`: a first byte and the bytes that are owed then are a character's
* `Utf8.Begun.Completes.exists_foldl_next`: where the reader stands after a part of a character
* `Utf8.decodes_iff`: bytes are read as they are to be
-/

namespace BuildSummary.Utf8

/-! ## How bytes are to be read -/

/-- The bytes of some character begin with these. -/
def BeginsCharacter (bytes : List UInt8) : Prop :=
  ∃ c, bytes <+: String.utf8EncodeChar c

/-- The bytes begin a character and do not complete it, and no character begins with them and the
byte after them. -/
structure IsCutOff (bad rest : List UInt8) : Prop where
  ne_nil : bad ≠ []
  begins : ∃ c, bad <+: String.utf8EncodeChar c ∧ bad ≠ String.utf8EncodeChar c
  longest : ∀ next ∈ rest.head?, ¬ BeginsCharacter (bad ++ [next])

/-- How bytes are to be read: a character's as the character, a longest beginning that is cut off
as one replacement character, and any other byte as one. -/
inductive Decodes : List UInt8 → Text → Prop where
  | nil : Decodes [] []
  | character {rest : List UInt8} {text : Text} (c : Char) (h : Decodes rest text) :
    Decodes (String.utf8EncodeChar c ++ rest) (c :: text)
  | cutOff {bad rest : List UInt8} {text : Text} (hbad : IsCutOff bad rest)
    (h : Decodes rest text) : Decodes (bad ++ rest) (replacement :: text)
  | stray {byte : UInt8} {rest : List UInt8} {text : Text} (hbyte : ¬ BeginsCharacter [byte])
    (h : Decodes rest text) : Decodes (byte :: rest) (replacement :: text)

variable {begun : Begun} {lead byte next : UInt8} {bad more rest bytes : List UInt8}
  {text : Text}

/-- Bytes that begin a character go on to a longest beginning. -/
theorem BeginsCharacter.exists_longest (h : BeginsCharacter bad) (rest : List UInt8) :
    ∃ more after, rest = more ++ after ∧ BeginsCharacter (bad ++ more) ∧
      ∀ next ∈ after.head?, ¬ BeginsCharacter (bad ++ more ++ [next]) := by
  induction rest generalizing bad with
  | nil => exact ⟨[], [], rfl, by rwa [List.append_nil], by simp⟩
  | cons byte rest ih =>
    by_cases hnext : BeginsCharacter (bad ++ [byte])
    · obtain ⟨more, after, rfl, hmore, hlongest⟩ := ih hnext
      refine ⟨byte :: more, after, rfl, ?_⟩
      rw [List.append_cons]
      exact ⟨hmore, hlongest⟩
    · refine ⟨[], byte :: rest, rfl, by rwa [List.append_nil], ?_⟩
      rintro _ ⟨⟩
      rwa [List.append_nil]

/-- **All bytes can be read.** -/
theorem exists_decodes (bytes : List UInt8) : ∃ text, Decodes bytes text := by
  induction hlength : bytes.length using Nat.strong_induction_on generalizing bytes with
  | _ n ih =>
    cases bytes with
    | nil => exact ⟨[], .nil⟩
    | cons byte rest =>
      by_cases hbyte : BeginsCharacter [byte]
      · obtain ⟨more, after, rfl, ⟨c, hc⟩, hlongest⟩ := hbyte.exists_longest rest
        have hshorter : after.length < n := by
          rw [← hlength, List.length_cons, List.length_append]
          omega
        obtain ⟨text, htext⟩ := ih after.length hshorter after rfl
        -- the longest beginning is all of the character, or it is cut off
        by_cases hall : [byte] ++ more = String.utf8EncodeChar c
        · have hcharacter := Decodes.character c htext
          rw [← hall] at hcharacter
          exact ⟨_, hcharacter⟩
        · exact ⟨_, .cutOff ⟨List.cons_ne_nil byte more, ⟨c, hc, hall⟩, hlongest⟩ htext⟩
      · obtain ⟨text, htext⟩ := ih rest.length (by simp [← hlength]) rest rfl
        exact ⟨_, .stray hbyte htext⟩

/-! ## The bytes of a character -/

/-- **A first byte and the bytes that are owed then are a character's.** -/
theorem exists_utf8EncodeChar_eq (h : Begun.ofFirst? lead.toNat = some begun)
    (howed : begun.IsOwed byte rest) : ∃ c, String.utf8EncodeChar c = lead :: byte :: rest := by
  obtain ⟨hge, hvalid⟩ := Begun.isSound_of_ofFirst?_eq_some h byte rest howed
  have heq {n : Nat} {b : UInt8} (hn : n = b.toNat) : UInt8.ofNat n = b := by
    rw [hn, UInt8.ofNat_toNat]
  refine ⟨Char.ofNat (codePoint begun.bits (byte :: rest)), ?_⟩
  unfold String.utf8EncodeChar
  simp only [Char.toNat_val, toNat_ofNat_of_isValidChar hvalid]
  rw [if_neg (by omega)]
  generalize hn : codePoint begun.bits (byte :: rest) = n at *
  unfold Nat.isValidChar at hvalid
  obtain ⟨hlow, hhigh, hlength, htail⟩ := howed
  rcases Begun.exists_of_ofFirst?_eq_some h with
    ⟨bits, h2, h32, hlead, rfl⟩ | ⟨bits, h16, hlead, rfl⟩ | ⟨bits, h5, hlead, rfl⟩
  · obtain rfl := List.length_eq_zero_iff.mp hlength
    simp only [Begun.ofTwo, codePoint, List.foldl_cons, List.foldl_nil] at *
    rw [if_pos (by omega), heq (b := lead) (by omega), heq (b := byte) (by omega)]
  -- the tighter bounds of the second byte say that the character takes no fewer bytes
  · obtain ⟨last, rfl⟩ := List.length_eq_one_iff.mp hlength
    simp only [Begun.ofThree, codePoint, List.foldl_cons, List.foldl_nil,
      List.forall_mem_singleton] at *
    have hlow : 0x80 ≤ byte.toNat ∧ (bits = 0 → 0xA0 ≤ byte.toNat) := by
      split at hlow <;> omega
    have hhigh : byte.toNat ≤ 0xBF := by split at hhigh <;> omega
    rw [if_neg (by omega), if_pos (by omega), heq (b := lead) (by omega),
      heq (b := byte) (by omega), heq (b := last) (by omega)]
  · obtain ⟨third, last, rfl⟩ := List.length_eq_two.mp hlength
    simp only [Begun.ofFour, codePoint, List.foldl_cons, List.foldl_nil, List.forall_mem_cons] at *
    have hlow : 0x80 ≤ byte.toNat ∧ (bits = 0 → 0x90 ≤ byte.toNat) := by
      split at hlow <;> omega
    have hhigh : byte.toNat ≤ 0xBF := by split at hhigh <;> omega
    rw [if_neg (by omega), if_neg (by omega), heq (b := lead) (by omega),
      heq (b := byte) (by omega), heq (b := third) (by omega), heq (b := last) (by omega)]

namespace Begun

/-- The bytes that the character begun is owed complete it, where these are the ones before. -/
def Completes (begun : Begun) (bytes : List UInt8) : Prop :=
  ∀ byte rest, begun.IsOwed byte rest → ∃ c, String.utf8EncodeChar c = bytes ++ byte :: rest

theorem completes_of_ofFirst?_eq_some (h : ofFirst? lead.toNat = some begun) :
    begun.Completes [lead] :=
  fun _ _ howed => exists_utf8EncodeChar_eq h howed

/-- The next byte within its bounds can be followed by all that is owed. -/
theorem isOwed_replicate (hlow : begun.low ≤ byte.toNat) (hhigh : byte.toNat ≤ begun.high) :
    begun.IsOwed byte (List.replicate begun.later 0x80) := by
  refine ⟨hlow, hhigh, List.length_replicate, ?_⟩
  intro b hb
  obtain rfl := List.eq_of_mem_replicate hb
  decide

/-- The bounds of the byte after a first one leave room for a byte. -/
theorem exists_isOwed_of_ofFirst?_eq_some {n : Nat} (h : ofFirst? n = some begun) :
    ∃ byte rest, begun.IsOwed byte rest := by
  have hbounds : begun.low ≤ begun.high ∧ begun.high < 256 := by
    rcases exists_of_ofFirst?_eq_some h with
      ⟨bits, -, -, -, rfl⟩ | ⟨bits, -, -, rfl⟩ | ⟨bits, -, -, rfl⟩
    · simp only [ofTwo]
      omega
    · simp only [ofThree]
      split <;> split <;> omega
    · simp only [ofFour]
      split <;> split <;> omega
  have hbyte : (UInt8.ofNat begun.low).toNat = begun.low :=
    UInt8.toNat_ofNat_of_lt' (Nat.lt_of_le_of_lt hbounds.1 hbounds.2)
  exact ⟨_, _, isOwed_replicate hbyte.ge (hbyte.trans_le hbounds.1)⟩

namespace Completes

/-- A byte within the bounds goes on with a character. -/
theorem beginsCharacter (h : begun.Completes bad) (hlow : begun.low ≤ byte.toNat)
    (hhigh : byte.toNat ≤ begun.high) : BeginsCharacter (bad ++ [byte]) := by
  obtain ⟨c, hc⟩ := h byte _ (isOwed_replicate hlow hhigh)
  exact ⟨c, _, by rw [hc, ← List.append_cons]⟩

theorem step (h : begun.Completes bad) (howed : begun.IsOwed byte (next :: rest)) :
    (begun.step byte rest.length).Completes (bad ++ [byte]) := by
  intro b after hafter
  rw [← List.append_cons]
  exact h byte (b :: after) (hafter.of_step howed.low_le howed.le_high howed.length_eq.symm)

/-- **Where the reader stands after a part of a character**: at what completes the part. -/
theorem exists_foldl_next (h : begun.Completes bad) (howed : begun.IsOwed byte rest)
    (hmore : more <+: byte :: rest) (hpart : more ≠ byte :: rest) (read : Text) :
    ∃ begun' : Begun, more.foldl Reader.next ⟨read, some begun⟩ = ⟨read, some begun'⟩ ∧
      begun'.Completes (bad ++ more) := by
  -- a byte that is read is the next one owed, and not the last one
  induction more generalizing begun bad byte rest with
  | nil => exact ⟨begun, rfl, by rwa [List.append_nil]⟩
  | cons b more ih =>
    obtain ⟨rfl, htail⟩ := List.cons_prefix_cons.mp hmore
    cases rest with
    | nil =>
      obtain rfl := List.prefix_nil.mp htail
      exact absurd rfl hpart
    | cons next rest =>
      have hpart : more ≠ next :: rest := by
        rintro rfl
        exact hpart rfl
      rw [List.foldl_cons, Reader.next_of_mem howed.low_le howed.le_high, ← howed.length_eq,
        List.append_cons]
      exact ih (h.step howed) howed.step htail hpart

end Completes

end Begun

/-! ## How bytes are read -/

/-- The reader stands in the character that is cut off. -/
theorem IsCutOff.exists_foldl_next (h : IsCutOff bad rest) (read : Text) :
    ∃ begun : Begun, bad.foldl Reader.next ⟨read, none⟩ = ⟨read, some begun⟩ ∧
      begun.Completes bad := by
  obtain ⟨c, hc, hpart⟩ := h.begins
  obtain ⟨lead, bad, rfl⟩ := List.exists_cons_of_ne_nil h.ne_nil
  by_cases hascii : c.toNat < 0x80
  · rw [utf8EncodeChar_of_ascii hascii] at hc hpart
    obtain ⟨rfl, hnil⟩ := List.cons_prefix_cons.mp hc
    rw [List.prefix_nil.mp hnil] at hpart
    exact absurd rfl hpart
  · obtain ⟨first, byte, after, begun, hencode, hfirst, hbegun, howed, -⟩ :=
      exists_isOwed_of_not_ascii (Nat.not_lt.mp hascii)
    rw [hencode] at hc hpart
    obtain ⟨rfl, hmore⟩ := List.cons_prefix_cons.mp hc
    have hpart : bad ≠ byte :: after := by
      rintro rfl
      exact hpart rfl
    rw [List.foldl_cons, Reader.next_of_ofFirst?_eq_some hfirst hbegun]
    exact (Begun.completes_of_ofFirst?_eq_some hbegun).exists_foldl_next howed hmore hpart read

/-- **A longest beginning that is cut off is read as one replacement character.** -/
theorem decode_append_of_isCutOff (h : IsCutOff bad rest) :
    decode (bad ++ rest) = replacement :: decode rest := by
  obtain ⟨begun, hread, hcompletes⟩ := h.exists_foldl_next []
  rw [decode, List.foldl_append, hread]
  cases rest with
  | nil => rfl
  | cons next rest =>
    -- the byte after the beginning is not within the bounds, so it is read anew
    have hnext : ¬ (begun.low ≤ next.toNat ∧ next.toNat ≤ begun.high) := fun hmem =>
      h.longest next rfl (hcompletes.beginsCharacter hmem.1 hmem.2)
    rw [List.foldl_cons, Reader.next_of_not_mem hnext]
    exact finish_foldl_next_singleton replacement (next :: rest)

/-- **A byte with which no character begins is read as one replacement character.** -/
theorem decode_cons_of_not_beginsCharacter (h : ¬ BeginsCharacter [byte]) (rest : List UInt8) :
    decode (byte :: rest) = replacement :: decode rest := by
  have hhigh : ¬ byte.toNat < 0x80 := by
    intro hascii
    have hvalue : (Char.ofNat byte.toNat).toNat = byte.toNat :=
      toNat_ofNat_of_isValidChar (.inl (by omega))
    have hencode : String.utf8EncodeChar (Char.ofNat byte.toNat) = [byte] := by
      rw [utf8EncodeChar_of_ascii (by omega), hvalue, UInt8.ofNat_toNat]
    exact h ⟨Char.ofNat byte.toNat, [], hencode.symm⟩
  have hnone : Begun.ofFirst? byte.toNat = none := by
    rw [Option.eq_none_iff_forall_ne_some]
    intro begun hbegun
    obtain ⟨b, after, howed⟩ := Begun.exists_isOwed_of_ofFirst?_eq_some hbegun
    obtain ⟨c, hc⟩ := exists_utf8EncodeChar_eq hbegun howed
    exact h ⟨c, hc ▸ List.prefix_append [byte] _⟩
  have hfirst : Reader.next ⟨[], none⟩ byte = ⟨[replacement], none⟩ := by
    show Reader.first [] byte.toNat = _
    rw [Reader.first, if_neg hhigh, hnone]
  rw [decode, List.foldl_cons, hfirst]
  exact finish_foldl_next_singleton replacement rest

/-- **Bytes are read as they are to be.** -/
theorem decodes_iff : Decodes bytes text ↔ decode bytes = text := by
  have hsound {bytes : List UInt8} {text : Text} (h : Decodes bytes text) :
      decode bytes = text := by
    induction h with
    | nil => rfl
    | @character rest text c h ih =>
      have happend := decode_encode_append [c] rest
      rwa [encode, List.flatMap_singleton, ih] at happend
    | cutOff hbad h ih => rw [decode_append_of_isCutOff hbad, ih]
    | stray hbyte h ih => rw [decode_cons_of_not_beginsCharacter hbyte, ih]
  constructor
  · exact hsound
  · rintro rfl
    obtain ⟨text, htext⟩ := exists_decodes bytes
    rwa [hsound htext]

end BuildSummary.Utf8
