import BuildSummary.Program
import BuildSummary.Proofs.Replacement

/-!
# Decoding line by line

The lines of a log are its byte lines, decoded one by one, and a marker of ASCII characters stands in
a line if and only if its bytes do, however ill-formed the bytes around it are. A log that is
well-formed is read as the text that it encodes.

## Main definitions

* `Utf8.byteLines`: the lines of a byte string

## Main results

* `Utf8.occursIn_decode_iff`: a marker that is read was written, and conversely
* `Utf8.lines_decode`: the lines that are read are the byte lines
* `logLines_eq_map_decode`: invalid bytes neither hide nor forge a marker, and join or split no lines
-/

namespace BuildSummary

namespace Utf8

variable {bytes line : List UInt8} {c : Char} {b marker : Text}

/-! ## Markers -/

theorem encode_cons_of_ascii (hc : c.toNat < 0x80) (text : Text) :
    encode (c :: text) = UInt8.ofNat c.toNat :: encode text := by
  rw [encode, List.flatMap_cons, utf8EncodeChar_of_ascii hc]
  rfl

/-- What is read as ASCII characters at the beginning was written as these characters. -/
theorem isPrefix_of_decode_eq_append (hmarker : ∀ c ∈ marker, c.toNat < 0x80)
    (h : decode bytes = marker ++ b) : encode marker <+: bytes := by
  induction marker generalizing bytes with
  | nil => exact List.nil_prefix
  | cons c marker ih =>
    rw [List.forall_mem_cons] at hmarker
    obtain ⟨before, after, rfl, hbefore, hafter⟩ :=
      exists_of_decode_eq_append_cons (a := []) hmarker.1 h
    obtain rfl := decode_eq_nil_iff.mp hbefore
    rw [encode_cons_of_ascii hmarker.1]
    exact List.cons_prefix_cons.mpr ⟨rfl, ih hmarker.2 hafter⟩

/-- **A marker stands in a line that is read if and only if its bytes were written there.** -/
theorem occursIn_decode_iff (hmarker : ∀ c ∈ marker, c.toNat < 0x80) :
    marker.occursIn (decode bytes) = true ↔ encode marker <:+: bytes := by
  rw [Text.occursIn_iff_isInfix]
  cases marker with
  | nil => exact iff_of_true List.nil_infix List.nil_infix
  | cons c marker =>
    rw [List.forall_mem_cons] at hmarker
    obtain ⟨hc, hmarker⟩ := hmarker
    rw [encode_cons_of_ascii hc]
    -- the first character of the marker cuts the line, and the others follow it
    constructor
    · rintro ⟨a, b, h⟩
      rw [List.append_assoc] at h
      obtain ⟨before, after, rfl, -, hafter⟩ := exists_of_decode_eq_append_cons hc h.symm
      have hrest := isPrefix_of_decode_eq_append hmarker hafter
      exact (List.cons_prefix_cons.mpr ⟨rfl, hrest⟩).isInfix.trans (List.suffix_append ..).isInfix
    · rintro ⟨before, after, rfl⟩
      have hbyte := toNat_ofNat_of_ascii hc
      rw [List.append_assoc, List.cons_append, decode_append_ascii _ _ (by rwa [hbyte]),
        decode_encode_append, hbyte, Char.ofNat_toNat]
      exact ⟨decode before, decode after, by simp⟩

/-! ## Lines -/

/-- The bytes without one 0x0D at their end. -/
def dropReturn (bytes : List UInt8) : List UInt8 :=
  if bytes.getLast? = some 0x0D then bytes.dropLast else bytes

/-- The lines of a byte string: what stands before the first 0x0A, less one 0x0D at its end, and
then the lines of what follows it. What holds no 0x0A is a line of its own unless it is empty. -/
def byteLines (bytes : List UInt8) : List (List UInt8) :=
  if 0x0A ∈ bytes then
    dropReturn (bytes.takeWhile (· ≠ 0x0A)) :: byteLines ((bytes.dropWhile (· ≠ 0x0A)).drop 1)
  else if bytes = [] then []
  else [bytes]
termination_by bytes.length
decreasing_by
  rename_i h
  have hpos := List.length_pos_of_mem h
  have hle := (List.dropWhile_suffix (· ≠ 0x0A) (l := bytes)).length_le
  rw [List.length_drop]
  omega

theorem byteLines_append (hline : 0x0A ∉ line) (rest : List UInt8) :
    byteLines (line ++ 0x0A :: rest) = dropReturn line :: byteLines rest := by
  have hnot : ∀ byte ∈ line, decide (byte ≠ 0x0A) = true := by
    intro byte hbyte
    rw [decide_eq_true_eq]
    rintro rfl
    exact hline hbyte
  rw [byteLines, if_pos (List.mem_append_right line List.mem_cons_self),
    List.takeWhile_append_of_pos hnot, List.dropWhile_append_of_pos hnot,
    List.takeWhile_cons_of_neg (by decide), List.dropWhile_cons_of_neg (by decide),
    List.append_nil]
  rfl

/-- A carriage return ends a line that is read if and only if its byte does. -/
theorem dropReturn_decode (line : List UInt8) :
    Text.dropReturn (decode line) = decode (dropReturn line) := by
  by_cases hreturn : line.getLast? = some 0x0D
  · obtain ⟨init, rfl⟩ := List.getLast?_eq_some_iff.mp hreturn
    have hdecode : decode (init ++ [0x0D]) = decode init ++ ['\r'] :=
      decode_append_ascii init [] (by decide)
    rw [dropReturn, if_pos hreturn, List.dropLast_concat, hdecode, Text.dropReturn,
      if_pos List.getLast?_concat, List.dropLast_concat]
  · have hdecode : (decode line).getLast? ≠ some '\r' := by
      intro hlast
      obtain ⟨init, hinit⟩ := List.getLast?_eq_some_iff.mp hlast
      obtain ⟨before, after, rfl, -, hafter⟩ :=
        exists_of_decode_eq_append_cons (c := '\r') (by decide) hinit
      obtain rfl := decode_eq_nil_iff.mp hafter
      exact hreturn List.getLast?_concat
    rw [dropReturn, if_neg hreturn, Text.dropReturn, if_neg hdecode]

/-- **The lines that are read are the byte lines**, each read on its own. -/
theorem lines_decode (bytes : List UInt8) :
    Text.lines (decode bytes) = (byteLines bytes).map decode := by
  have not_mem {bytes : List UInt8} (h : 0x0A ∉ bytes) : '\n' ∉ decode bytes :=
    fun hmem => h (ofNat_mem_of_mem_decode (c := '\n') (by decide) hmem)
  induction bytes using Text.cut_induction (0x0A : UInt8) with
  | last line hline =>
    rw [Text.lines_of_not_mem (not_mem hline), byteLines, if_neg hline]
    by_cases hnil : line = []
    · rw [hnil]
      rfl
    · have hdecode : (decode line).isEmpty = false := by
        rwa [List.isEmpty_eq_false_iff, ne_eq, decode_eq_nil_iff]
      rw [hdecode, if_neg hnil]
      rfl
  | next line rest hline ih =>
    have hdecode : decode (line ++ 0x0A :: rest) = decode line ++ '\n' :: decode rest :=
      decode_append_ascii line rest (by decide)
    rw [hdecode, Text.lines_append_newline (not_mem hline), ih, dropReturn_decode,
      byteLines_append hline, List.map_cons]

end Utf8

/-! ## The lines of a log -/

/-- **Invalid bytes neither hide nor forge a marker, and join or split no lines.** The lines of a
log are its byte lines, each decoded on its own. There each longest beginning of a character that is
cut off, and each byte with which no character begins, is one replacement character. A marker of
ASCII characters stands in a decoded line if and only if its bytes stand in the line. A log that
encodes a text has the lines of the text. -/
theorem logLines_eq_map_decode (bytes : List UInt8) :
    logLines bytes = (Utf8.byteLines bytes).map Utf8.decode ∧
      (∀ line text, Utf8.Decodes line text ↔ Utf8.decode line = text) ∧
      (∀ (line : List UInt8) (marker : Text), (∀ c ∈ marker, c.toNat < 0x80) →
        (marker.occursIn (Utf8.decode line) = true ↔ Utf8.encode marker <:+: line)) ∧
      ∀ text, logLines (Utf8.encode text) = Text.lines text := by
  refine ⟨Utf8.lines_decode bytes, fun line text => Utf8.decodes_iff,
    fun line marker h => Utf8.occursIn_decode_iff h, fun text => ?_⟩
  rw [logLines, Utf8.decode_encode]

/-- A marker stands between characters that are cut off, before it and at the end of the line. -/
theorem logLines_eq_map_decode_cut_off :
    ∃ (line : List UInt8) (marker : Text), (∀ c ∈ marker, c.toNat < 0x80) ∧
      Utf8.encode marker <:+: line ∧ marker.occursIn (Utf8.decode line) = true ∧
      logLines (line ++ 0x0A :: line) = [Utf8.decode line, Utf8.decode line] := by
  let marker : Text := "MSGBLD0260"
  let line : List UInt8 := [0xF0, 0x9F, 0x98] ++ Utf8.encode marker ++ [0xE2, 0x82]
  have hascii : marker.all (·.toNat < 0x80) = true := by decide
  have hmarker : ∀ c ∈ marker, c.toNat < 0x80 := by simpa using hascii
  have hline : Utf8.encode marker <:+: line := List.infix_append _ _ _
  have hnot : 0x0A ∉ line := by decide
  have hlines : Utf8.byteLines (line ++ 0x0A :: line) = [line, line] := by
    rw [Utf8.byteLines_append hnot, Utf8.byteLines, if_neg hnot]
    rfl
  obtain ⟨hlog, -, hoccurs, -⟩ := logLines_eq_map_decode (line ++ 0x0A :: line)
  refine ⟨line, marker, hmarker, hline, (hoccurs line marker hmarker).mpr hline, ?_⟩
  rw [hlog, hlines]
  rfl

end BuildSummary
