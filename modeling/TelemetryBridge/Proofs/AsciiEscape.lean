import TelemetryBridge.Proofs.JsonText
import TelemetryBridge.Telemetry.Frame

/-!
# Text made ASCII

The frame escaper `escapeNonAscii` returns a text that is ASCII already as it is. Any other
text goes through a loop that decodes a code point off the front (`Utf8.decodeRune`, a stray
byte giving U+FFFD), writes an ASCII code point as its byte, and writes any other as `\u` and
four lowercase hexadecimal digits (`Bytes.hexPadded 4`), a code point beyond U+FFFF as its two
UTF-16 surrogates. Which of the last two applies is told by `Utf16.encodeRune`, whose answer is
the replacement character for a code point without surrogates.

Main statement: `escapeNonAscii_matches_reference`. For every byte string the escaper writes the
reference escape (`EscapedText`), defined over the segmentation of the string into the
encodings of characters and the bytes that start none: an ASCII character as its byte, any
other character up to U+FFFF as the escape of its code point, one beyond as the escapes of its
surrogates, and a byte that starts no encoding as the escape of U+FFFD. Encoded surrogates,
overlong forms and values past U+10FFFF are no encoding, so each of their bytes is such a byte.
The escape is ASCII, and a text that is ASCII already is its own escape, by the fast path and by
the loop alike.

The loop writes unit by unit what `asciiOnly` writes (`escapeLoop_eq`): the decoder steps over
the units of `Utf8.units` (`Utf8.units_cons`, `Utf8.drop_decodeRune`), each code point's text is
its unit's (`runeEscape_decodeRune`), and `%04x` writes four digits below U+10000
(`Bytes.hexPadded_four`). The units are the segmentation: a unit the reader takes as a character
is that character's encoding (`Utf8.take_lead_of_char`), and a stray byte starts no encoding
(`Utf8.not_encoding_of_stray`).
-/

namespace TelemetryBridge

/-! ### ASCII-only text -/

theorem unitEscape_eq (u : Nat) : unitEscape u = 92 :: 117 :: Json.unitDigits u := by
  rw [unitEscape, show Bytes.ofString "\\u" = [92, 117] by decide +kernel]
  rfl

theorem lt_of_mem_unitDigits {u : Nat} {b : UInt8} (hb : b ∈ Json.unitDigits u) : b < 0x80 := by
  have h : ∀ n, n < 16 → Bytes.hexDigit n < 0x80 := by decide
  simp only [Json.unitDigits, List.mem_cons, List.not_mem_nil, or_false] at hb
  rcases hb with rfl | rfl | rfl | rfl <;> exact h _ (Nat.mod_lt _ (by decide))

theorem lt_of_mem_unitEscape {u : Nat} {b : UInt8} (hb : b ∈ unitEscape u) : b < 0x80 := by
  rw [unitEscape_eq] at hb
  rcases List.mem_cons.mp hb with rfl | hb
  · decide
  rcases List.mem_cons.mp hb with rfl | hb
  · decide
  exact lt_of_mem_unitDigits hb

/-- A code point is ASCII, in the rest of the basic plane, or beyond it up to U+10FFFF. -/
theorem codePoint_cases (c : Char) :
    c.toNat < 0x80 ∨ (0x80 ≤ c.toNat ∧ c.toNat < 0x10000) ∨
      (0x10000 ≤ c.toNat ∧ c.toNat ≤ 0x10FFFF) := by
  have hc : c.toNat < 0xd800 ∨ (0xdfff < c.toNat ∧ c.toNat < 0x110000) := c.valid
  omega

theorem asciiUnit_of_lt {c : Char} (w : Nat) (h : c.toNat < 0x80) :
    asciiUnit (.char c w) = [c.toNat.toUInt8] := by
  simp only [asciiUnit, if_pos h]

theorem asciiUnit_of_bmp {c : Char} (w : Nat) (h1 : 0x80 ≤ c.toNat) (h2 : c.toNat < 0x10000) :
    asciiUnit (.char c w) = unitEscape c.toNat := by
  simp only [asciiUnit, if_neg (show ¬ c.toNat < 0x80 by omega), if_pos h2]

theorem asciiUnit_of_astral {c : Char} (w : Nat) (h : 0x10000 ≤ c.toNat) :
    asciiUnit (.char c w) = unitEscape (0xD800 + (c.toNat - 0x10000) / 0x400) ++
      unitEscape (0xDC00 + (c.toNat - 0x10000) % 0x400) := by
  simp only [asciiUnit, if_neg (show ¬ c.toNat < 0x80 by omega),
    if_neg (show ¬ c.toNat < 0x10000 by omega)]

/-- Whatever a unit becomes in ASCII-only text is ASCII. -/
theorem lt_of_mem_asciiUnit {u : Utf8.Unit} {b : UInt8} (hb : b ∈ asciiUnit u) : b < 0x80 := by
  cases u with
  | stray => exact lt_of_mem_unitEscape hb
  | char c w =>
    rcases codePoint_cases c with h | ⟨h1, h2⟩ | ⟨h1, -⟩
    · rw [asciiUnit_of_lt w h, List.mem_singleton] at hb
      rw [hb, UInt8.lt_iff_toNat_lt, Nat.toUInt8_eq, Utf8.toNat_byte (by omega)]
      simpa using h
    · rw [asciiUnit_of_bmp w h1 h2] at hb
      exact lt_of_mem_unitEscape hb
    · rw [asciiUnit_of_astral w h1] at hb
      rcases List.mem_append.mp hb with hb | hb <;> exact lt_of_mem_unitEscape hb

theorem lt_of_mem_asciiOnly {s : Bytes} {b : UInt8} (hb : b ∈ asciiOnly s) : b < 0x80 := by
  obtain ⟨u, -, hu⟩ := List.mem_flatMap.mp hb
  exact lt_of_mem_asciiUnit hu

/-- ASCII text is left as it is. -/
theorem asciiOnly_of_ascii {a : Bytes} (h : ∀ b ∈ a, b < 0x80) : asciiOnly a = a := by
  induction a with
  | nil => rw [asciiOnly, Utf8.units_nil]; rfl
  | cons b t ih =>
    have hb := h b List.mem_cons_self
    have hn : b.toNat < 0x80 := by rw [UInt8.lt_iff_toNat_lt] at hb; simpa using hb
    have hc : (Utf8.charOf b.toNat).toNat = b.toNat := Utf8.toNat_charOf (by omega)
    rw [asciiOnly, Utf8.units_cons_ascii hb, List.flatMap_cons, ← asciiOnly,
      ih fun x hx => h x (List.mem_cons_of_mem b hx), asciiUnit]
    simp only [hc, if_pos hn]
    simp

/-! ### Four hexadecimal digits -/

namespace Bytes

theorem hexDigits_of_lt {n : Nat} (h : n < 16) : hexDigits n = [hexDigit n] := by
  rw [hexDigits, if_pos h]

theorem hexDigits_of_le {n : Nat} (h : 16 ≤ n) :
    hexDigits n = hexDigits (n / 16) ++ [hexDigit (n % 16)] := by
  rw [hexDigits, if_neg (by omega)]

theorem hexPadded_one {n : Nat} (h : n < 16) : hexPadded 1 n = [hexDigit n] := by
  rw [hexPadded, hexDigits_of_lt h]
  rfl

/-- Padding to one more digit pads the number without its last digit, then writes that digit. -/
theorem hexPadded_succ {k : Nat} (hk : 0 < k) (n : Nat) :
    hexPadded (k + 1) n = hexPadded k (n / 16) ++ [hexDigit (n % 16)] := by
  by_cases h : n < 16
  · -- a single digit: what is left of the number is zero, which pads as zeros
    obtain ⟨j, rfl⟩ : ∃ j, k = j + 1 := ⟨k - 1, by omega⟩
    rw [hexPadded, hexPadded, hexDigits_of_lt h, Nat.div_eq_of_lt h, hexDigits_of_lt (by decide),
      Nat.mod_eq_of_lt h, show hexDigit 0 = 48 by decide]
    simp [List.replicate_succ']
  · rw [hexPadded, hexPadded, hexDigits_of_le (by omega), List.length_append,
      List.length_singleton, List.append_assoc,
      show k + 1 - ((hexDigits (n / 16)).length + 1) = k - (hexDigits (n / 16)).length by omega]

/-- Below `0x10000`, the verb `%04x` writes the four lowest hexadecimal digits. -/
theorem hexPadded_four {n : Nat} (h : n < 0x10000) : hexPadded 4 n = Json.unitDigits n := by
  rw [hexPadded_succ (by decide), hexPadded_succ (by decide), hexPadded_succ (by decide),
    hexPadded_one (by omega), Json.unitDigits]
  have e1 : n / 16 / 16 / 16 = n / 4096 % 16 := by omega
  have e2 : n / 16 / 16 % 16 = n / 256 % 16 := by omega
  simp only [e1, e2, List.cons_append, List.nil_append]

end Bytes

/-- Below `0x10000`, `\u%04x` writes the escape of a code unit. -/
theorem escapeFormat_eq {u : Nat} (h : u < 0x10000) :
    Bytes.ofString "\\u" ++ Bytes.hexPadded 4 u = unitEscape u := by
  rw [Bytes.hexPadded_four h]
  rfl

/-! ### One code point -/

namespace Utf16

theorem encodeRune_of_lt {r : Nat} (h : r < 0x10000) : encodeRune r = (0xFFFD, 0xFFFD) := by
  rw [encodeRune, if_pos (.inl h)]

theorem encodeRune_of_le {r : Nat} (h1 : 0x10000 ≤ r) (h2 : r ≤ 0x10FFFF) :
    encodeRune r = (0xD800 + (r - 0x10000) / 0x400, 0xDC00 + (r - 0x10000) % 0x400) := by
  rw [encodeRune, if_neg (by omega), Nat.mod_eq_of_lt (by omega)]

end Utf16

theorem runeEscape_of_lt {r : Nat} (h : r < 0x80) : runeEscape r = [r.toUInt8] := by
  rw [runeEscape, if_pos h]

/-- A code point from `0x80` up to `0xFFFF` has no surrogates, so the replacement character
sends it to its own escape. -/
theorem runeEscape_of_bmp {r : Nat} (h1 : 0x80 ≤ r) (h2 : r < 0x10000) :
    runeEscape r = unitEscape r := by
  rw [runeEscape, if_neg (by omega)]
  simp only [Utf16.encodeRune_of_lt h2, Utf8.runeError, ne_eq, not_true_eq_false, if_false]
  exact escapeFormat_eq h2

/-- A code point beyond `0xFFFF` is written as the escapes of its two surrogates; the high one
is below `0xDC00`, so it is never the replacement character. -/
theorem runeEscape_of_astral {r : Nat} (h1 : 0x10000 ≤ r) (h2 : r ≤ 0x10FFFF) :
    runeEscape r =
      unitEscape (0xD800 + (r - 0x10000) / 0x400) ++ unitEscape (0xDC00 + (r - 0x10000) % 0x400) := by
  rw [runeEscape, if_neg (by omega)]
  simp only [Utf16.encodeRune_of_le h1 h2]
  rw [if_pos (by simp only [Utf8.runeError]; omega), escapeFormat_eq (by omega),
    List.append_assoc, escapeFormat_eq (by omega)]

/-- The code point of a character is written as `asciiUnit` writes the character. -/
theorem runeEscape_char (c : Char) (w : Nat) : runeEscape c.toNat = asciiUnit (.char c w) := by
  rcases codePoint_cases c with h | ⟨h1, h2⟩ | ⟨h1, h2⟩
  · rw [asciiUnit_of_lt w h, runeEscape_of_lt h]
  · rw [asciiUnit_of_bmp w h1 h2, runeEscape_of_bmp h1 h2]
  · rw [asciiUnit_of_astral w h1, runeEscape_of_astral h1 h2]

/-! ### Units are encodings -/

namespace Utf8

theorem toNat_charOf_of_valid {n : Nat} (h : n < 0xd800 ∨ (0xdfff < n ∧ n < 0x110000)) :
    (charOf n).toNat = n := by
  rw [charOf, Char.ofNat, dif_pos h]
  rfl

theorem encode_charOf_one {v : Nat} (h : v < 0x80) : encode (charOf v) = [UInt8.ofNat v] := by
  rw [encode_of_lt (by rw [toNat_charOf (by omega)]; exact h), toNat_charOf (by omega)]

theorem encode_charOf_two {v : Nat} (h1 : 0x80 ≤ v) (h2 : v ≤ 0x7ff) :
    encode (charOf v) = [UInt8.ofNat (v / 64 % 32 + 0xc0), UInt8.ofNat (v % 64 + 0x80)] := by
  have hv : (charOf v).val.toNat = v := toNat_charOf (by omega)
  rw [encode_eq, String.utf8EncodeChar]
  simp only [hv, if_neg (show ¬ v ≤ 0x7f by omega), if_pos h2]

theorem encode_charOf_three {v : Nat} (h1 : 0x800 ≤ v) (h2 : v ≤ 0xffff)
    (hs : v < 0xd800 ∨ 0xdfff < v) :
    encode (charOf v) = [UInt8.ofNat (v / 4096 % 16 + 0xe0), UInt8.ofNat (v / 64 % 64 + 0x80),
      UInt8.ofNat (v % 64 + 0x80)] := by
  have hv : (charOf v).val.toNat = v := toNat_charOf_of_valid (by omega)
  rw [encode_eq, String.utf8EncodeChar]
  simp only [hv, if_neg (show ¬ v ≤ 0x7f by omega), if_neg (show ¬ v ≤ 0x7ff by omega), if_pos h2]

theorem encode_charOf_four {v : Nat} (h1 : 0x10000 ≤ v) (h2 : v < 0x110000) :
    encode (charOf v) = [UInt8.ofNat (v / 262144 % 8 + 0xf0), UInt8.ofNat (v / 4096 % 64 + 0x80),
      UInt8.ofNat (v / 64 % 64 + 0x80), UInt8.ofNat (v % 64 + 0x80)] := by
  have hv : (charOf v).val.toNat = v := toNat_charOf_of_valid (by omega)
  rw [encode_eq, String.utf8EncodeChar]
  simp only [hv, if_neg (show ¬ v ≤ 0x7f by omega), if_neg (show ¬ v ≤ 0x7ff by omega),
    if_neg (show ¬ v ≤ 0xffff by omega)]

/-- What the second-byte range says in numbers: a continuation byte, narrowed after `E0`, `ED`,
`F0` and `F4`. -/
theorem toNat_of_secondRange {b0 b1 : UInt8}
    (h : (secondRange b0).1 ≤ b1 ∧ b1 ≤ (secondRange b0).2) :
    0x80 ≤ b1.toNat ∧ b1.toNat ≤ 0xBF ∧ (b0.toNat = 0xE0 → 0xA0 ≤ b1.toNat) ∧
      (b0.toNat = 0xED → b1.toNat ≤ 0x9F) ∧ (b0.toNat = 0xF0 → 0x90 ≤ b1.toNat) ∧
      (b0.toNat = 0xF4 → b1.toNat ≤ 0x8F) := by
  unfold secondRange at h
  split_ifs at h with e0 e1 e2 e3 <;>
    simp only [← UInt8.toNat_inj, UInt8.le_iff_toNat_le, UInt8.reduceToNat] at * <;> omega

theorem isCont_iff {b : UInt8} : isCont b = true ↔ 0x80 ≤ b.toNat ∧ b.toNat ≤ 0xBF := by
  simp only [isCont, Bool.and_eq_true, decide_eq_true_eq, UInt8.le_iff_toNat_le, UInt8.reduceToNat]

theorem eq_ofNat_of_toNat {b : UInt8} {x : Nat} (h : b.toNat = x) : b = UInt8.ofNat x := by
  subst h
  simp

/-! The bytes of each unit the reader takes as a character are that character's encoding: one
lemma per length, the leads and second-byte ranges keeping the code point a scalar value of that
length. -/

theorem encode_lead_one {b0 : UInt8} (h : b0 < 0x80) : encode (charOf b0.toNat) = [b0] := by
  rw [encode_charOf_one (by simpa [UInt8.lt_iff_toNat_lt] using h)]
  simp

theorem encode_lead_two {b0 b1 : UInt8} (h0 : 0xC2 ≤ b0 ∧ b0 ≤ 0xDF) (h1 : isCont b1 = true) :
    encode (charOf (b0.toNat % 32 * 64 + contBits b1)) = [b0, b1] := by
  simp only [UInt8.le_iff_toNat_le, UInt8.reduceToNat] at h0
  rw [isCont_iff] at h1
  unfold contBits
  rw [encode_charOf_two (by omega) (by omega)]
  simp only [List.cons.injEq, and_true]
  refine ⟨(eq_ofNat_of_toNat ?_).symm, (eq_ofNat_of_toNat ?_).symm⟩ <;> omega

theorem encode_lead_three {b0 b1 b2 : UInt8} (h0 : 0xE0 ≤ b0 ∧ b0 ≤ 0xEF)
    (h : (secondRange b0).1 ≤ b1 ∧ b1 ≤ (secondRange b0).2 ∧ isCont b2 = true) :
    encode (charOf (b0.toNat % 16 * 4096 + contBits b1 * 64 + contBits b2)) = [b0, b1, b2] := by
  obtain ⟨h1, h2, hc2⟩ := h
  -- the second byte's range excludes overlong forms and surrogates
  have hs := toNat_of_secondRange ⟨h1, h2⟩
  simp only [UInt8.le_iff_toNat_le, UInt8.reduceToNat] at h0
  rw [isCont_iff] at hc2
  unfold contBits
  rw [encode_charOf_three (by omega) (by omega) (by omega)]
  simp only [List.cons.injEq, and_true]
  refine ⟨(eq_ofNat_of_toNat ?_).symm, (eq_ofNat_of_toNat ?_).symm, (eq_ofNat_of_toNat ?_).symm⟩ <;>
    omega

theorem encode_lead_four {b0 b1 b2 b3 : UInt8} (h0 : 0xF0 ≤ b0 ∧ b0 ≤ 0xF4)
    (h : (secondRange b0).1 ≤ b1 ∧ b1 ≤ (secondRange b0).2 ∧ isCont b2 = true ∧
      isCont b3 = true) :
    encode (charOf (b0.toNat % 8 * 262144 + contBits b1 * 4096 + contBits b2 * 64 +
      contBits b3)) = [b0, b1, b2, b3] := by
  obtain ⟨h1, h2, hc2, hc3⟩ := h
  -- the second byte's range excludes overlong forms and values past U+10FFFF
  have hs := toNat_of_secondRange ⟨h1, h2⟩
  simp only [UInt8.le_iff_toNat_le, UInt8.reduceToNat] at h0
  rw [isCont_iff] at hc2 hc3
  unfold contBits
  rw [encode_charOf_four (by omega) (by omega)]
  simp only [List.cons.injEq, and_true]
  refine ⟨(eq_ofNat_of_toNat ?_).symm, (eq_ofNat_of_toNat ?_).symm, (eq_ofNat_of_toNat ?_).symm,
    (eq_ofNat_of_toNat ?_).symm⟩ <;> omega

theorem units_cons (b : UInt8) (rest : Bytes) :
    units (b :: rest) = (lead b rest).1 :: units (rest.drop (lead b rest).2) := by
  rw [units]
  split
  next h => simp [next?] at h
  next u r h =>
    simp only [next?, Option.some.injEq, Prod.mk.injEq] at h
    obtain ⟨rfl, rfl⟩ := h
    rfl

/-- A stray byte is the lead byte itself, and the reader takes nothing after it. -/
theorem lead_stray {b0 b : UInt8} {rest : Bytes} {n : Nat} (h : lead b0 rest = (.stray b, n)) :
    b = b0 ∧ n = 0 := by
  unfold lead at h
  repeat' split at h
  all_goals simp_all

theorem take_lead_of_char {b0 : UInt8} {rest : Bytes} {c : Char} {w n : Nat}
    (h : lead b0 rest = (.char c w, n)) : b0 :: rest.take n = encode c := by
  unfold lead at h
  repeat' split at h
  -- the stray cases contradict `h`
  all_goals try (simp only [Prod.mk.injEq, reduceCtorEq, false_and] at h; done)
  all_goals simp only [Prod.mk.injEq, Unit.char.injEq] at h
  all_goals obtain ⟨⟨rfl, -⟩, rfl⟩ := h
  all_goals simp only [List.take_succ_cons, List.take_zero]
  · rename_i hb
    exact (encode_lead_one hb).symm
  · rename_i _ hr _ _ _ hc
    exact (encode_lead_two hr hc).symm
  · rename_i _ _ hr _ _ _ _ hc
    exact (encode_lead_three hr hc).symm
  · rename_i _ _ _ hr _ _ _ _ _ hc
    exact (encode_lead_four hr hc).symm

/-- A byte string led by a character's encoding is read as that character. -/
theorem lead_of_encode_append {c : Char} {t : Bytes} {b0 : UInt8} {rest : Bytes}
    (h : encode c ++ t = b0 :: rest) : (lead b0 rest).1 = .char c (encode c).length := by
  have hn := next?_encode_append c t
  rw [h, next?, Option.some.injEq, Prod.mk.injEq] at hn
  exact hn.1

/-- A byte that starts no character's encoding is a stray byte taking nothing after it. -/
theorem lead_of_not_encoding {b0 : UInt8} {rest : Bytes}
    (h : ∀ c : Char, ¬ encode c <+: b0 :: rest) : lead b0 rest = (.stray b0, 0) := by
  rcases hl : lead b0 rest with ⟨u, n⟩
  cases u with
  | char c w =>
    -- the bytes the reader takes are the character's encoding
    have he := take_lead_of_char hl
    exact absurd ⟨rest.drop n, by rw [← he, List.cons_append, List.take_append_drop]⟩ (h c)
  | stray b =>
    obtain ⟨rfl, rfl⟩ := lead_stray hl
    rfl

/-- A stray byte starts no character's encoding. -/
theorem not_encoding_of_stray {b0 b : UInt8} {rest : Bytes} (h : (lead b0 rest).1 = .stray b)
    (c : Char) : ¬ encode c <+: b0 :: rest := by
  rintro ⟨t, ht⟩
  rw [lead_of_encode_append ht] at h
  cases h

end Utf8

theorem asciiOnly_cons (b : UInt8) (rest : Bytes) :
    asciiOnly (b :: rest) = asciiUnit (Utf8.lead b rest).1 ++ asciiOnly (rest.drop (Utf8.lead b rest).2) := by
  rw [asciiOnly, Utf8.units_cons, List.flatMap_cons, ← asciiOnly]

theorem asciiOnly_encode_append (c : Char) (t : Bytes) :
    asciiOnly (Utf8.encode c ++ t) = asciiUnit (.char c (Utf8.encode c).length) ++ asciiOnly t := by
  rw [asciiOnly, Utf8.units_encode_append, List.flatMap_cons, ← asciiOnly]

/-! ### The loop -/

namespace Utf8

/-- The decoder steps over the bytes of the unit the reader takes. -/
theorem drop_decodeRune (b0 : UInt8) (rest : Bytes) :
    (b0 :: rest).drop (decodeRune (b0 :: rest)).2 = rest.drop (lead b0 rest).2 := by
  rcases hl : lead b0 rest with ⟨u, n⟩
  cases u with
  | char c w => simp [decodeRune, hl]
  | stray b =>
    obtain ⟨rfl, rfl⟩ := lead_stray hl
    simp [decodeRune, hl]

end Utf8

/-- The code point the decoder gives is written as `asciiUnit` writes the reader's unit: a
stray byte decodes as U+FFFD, which the escaper writes as its own escape. -/
theorem runeEscape_decodeRune (b0 : UInt8) (rest : Bytes) :
    runeEscape (Utf8.decodeRune (b0 :: rest)).1 = asciiUnit (Utf8.lead b0 rest).1 := by
  rcases hl : Utf8.lead b0 rest with ⟨u, n⟩
  cases u with
  | char c w =>
    simp only [Utf8.decodeRune, hl]
    exact runeEscape_char c w
  | stray b =>
    simp only [Utf8.decodeRune, hl, asciiUnit]
    exact runeEscape_of_bmp (by decide) (by decide)

/-- The loop appends to what it has written the reference text of what is left. -/
theorem escapeLoop_eq (out s : Bytes) : escapeLoop out s = out ++ asciiOnly s := by
  fun_induction escapeLoop out s with
  | case1 out => rw [asciiOnly, Utf8.units_nil, List.flatMap_nil, List.append_nil]
  | case2 out b rest r ih =>
    rw [ih, asciiOnly_cons, List.append_assoc, runeEscape_decodeRune, Utf8.drop_decodeRune]

theorem Bytes.isAscii_iff {s : Bytes} : Bytes.isAscii s = true ↔ ∀ b ∈ s, b < 0x80 := by
  simp only [Bytes.isAscii, List.all_eq_true, decide_eq_true_eq]

theorem escapeNonAscii_eq_asciiOnly (s : Bytes) : escapeNonAscii s = asciiOnly s := by
  unfold escapeNonAscii
  split
  · next h => rw [asciiOnly_of_ascii (Bytes.isAscii_iff.mp h)]
  · rw [escapeLoop_eq, List.nil_append]

/-! ### The reference escaper -/

/-- `EscapedText s o`: `o` is the reference escape of `s`, written over the segmentation of `s`
into the encodings of characters and the bytes that start none. -/
inductive EscapedText : Bytes → Bytes → Prop
  | nil : EscapedText [] []
  /-- An ASCII character is written as its byte. -/
  | ascii (c : Char) {rest out : Bytes} (hc : c.toNat < 0x80) (h : EscapedText rest out) :
      EscapedText (Utf8.encode c ++ rest) (c.toNat.toUInt8 :: out)
  /-- Any other character up to U+FFFF is written as the escape of its code point. -/
  | bmp (c : Char) {rest out : Bytes} (hlo : 0x80 ≤ c.toNat) (hhi : c.toNat < 0x10000)
      (h : EscapedText rest out) : EscapedText (Utf8.encode c ++ rest) (unitEscape c.toNat ++ out)
  /-- A character beyond U+FFFF is written as the escapes of its two UTF-16 surrogates. -/
  | astral (c : Char) {rest out : Bytes} (hc : 0x10000 ≤ c.toNat) (h : EscapedText rest out) :
      EscapedText (Utf8.encode c ++ rest)
        (unitEscape (0xD800 + (c.toNat - 0x10000) / 0x400) ++
          unitEscape (0xDC00 + (c.toNat - 0x10000) % 0x400) ++ out)
  /-- A byte that starts no character's encoding is written as the escape of U+FFFD. -/
  | stray {b : UInt8} {rest out : Bytes} (hb : ∀ c : Char, ¬ Utf8.encode c <+: b :: rest)
      (h : EscapedText rest out) : EscapedText (b :: rest) (unitEscape 0xFFFD ++ out)

/-- The three ways a character is written are the three cases of `asciiUnit`. -/
theorem EscapedText.char (c : Char) (w : Nat) {rest out : Bytes} (h : EscapedText rest out) :
    EscapedText (Utf8.encode c ++ rest) (asciiUnit (.char c w) ++ out) := by
  rcases codePoint_cases c with h1 | ⟨h1, h2⟩ | ⟨h1, -⟩
  · rw [asciiUnit_of_lt w h1]
    exact .ascii c h1 h
  · rw [asciiUnit_of_bmp w h1 h2]
    exact .bmp c h1 h2 h
  · rw [asciiUnit_of_astral w h1]
    exact .astral c h1 h

/-- `asciiOnly` writes the reference escape: the reader's units are the segmentation. -/
theorem escapedText_asciiOnly (s : Bytes) : EscapedText s (asciiOnly s) := by
  -- on the length, since a unit may take several bytes
  induction hn : s.length using Nat.strong_induction_on generalizing s with
  | _ k ih =>
  cases s with
  | nil => rw [asciiOnly, Utf8.units_nil]; exact .nil
  | cons b rest =>
    rcases hl : Utf8.lead b rest with ⟨u, n⟩
    cases u with
    | char c w =>
      -- the unit is the encoding of `c`, followed by what it leaves
      have hs : b :: rest = Utf8.encode c ++ rest.drop n := by
        rw [← Utf8.take_lead_of_char hl, List.cons_append, List.take_append_drop]
      have hlt : (rest.drop n).length < k := by
        rw [← hn, List.length_drop, List.length_cons]
        omega
      rw [hs, asciiOnly_encode_append]
      exact .char c _ (ih _ hlt _ rfl)
    | stray b' =>
      obtain ⟨rfl, rfl⟩ := Utf8.lead_stray hl
      have hlt : rest.length < k := by rw [← hn, List.length_cons]; omega
      rw [asciiOnly_cons, hl]
      exact .stray (Utf8.not_encoding_of_stray (congrArg Prod.fst hl)) (ih _ hlt _ rfl)

/-- The reference escape is unique: it is the one `asciiOnly` writes. -/
theorem EscapedText.eq_asciiOnly {s o : Bytes} (h : EscapedText s o) : o = asciiOnly s := by
  induction h with
  | nil => rw [asciiOnly, Utf8.units_nil]; rfl
  | ascii c hc _ ih => rw [asciiOnly_encode_append, ih, asciiUnit_of_lt _ hc, List.singleton_append]
  | bmp c hlo hhi _ ih => rw [asciiOnly_encode_append, ih, asciiUnit_of_bmp _ hlo hhi]
  | astral c hc _ ih => rw [asciiOnly_encode_append, ih, asciiUnit_of_astral _ hc]
  | stray hb _ ih => rw [asciiOnly_cons, Utf8.lead_of_not_encoding hb, ih]; rfl

theorem escapedText_iff {s o : Bytes} : EscapedText s o ↔ o = escapeNonAscii s := by
  rw [escapeNonAscii_eq_asciiOnly]
  exact ⟨EscapedText.eq_asciiOnly, fun h => h ▸ escapedText_asciiOnly s⟩

/-- The frame escaper writes, for every byte string, exactly its reference escape; that text is
ASCII, and a text that is ASCII already is returned as it is, which is also what the loop
writes for it. -/
theorem escapeNonAscii_matches_reference (s : Bytes) :
    (∀ o, EscapedText s o ↔ o = escapeNonAscii s) ∧ (∀ b ∈ escapeNonAscii s, b < 0x80) ∧
      ((∀ b ∈ s, b < 0x80) → escapeNonAscii s = s ∧ escapeLoop [] s = s) := by
  refine ⟨fun o => escapedText_iff, fun b hb => ?_, fun h => ?_⟩
  · rw [escapeNonAscii_eq_asciiOnly] at hb
    exact lt_of_mem_asciiOnly hb
  · rw [escapeNonAscii, if_pos (Bytes.isAscii_iff.mpr h), escapeLoop_eq, List.nil_append,
      asciiOnly_of_ascii h]
    exact ⟨rfl, rfl⟩

example : escapeNonAscii (Bytes.ofString "CSX-ü😀") =
    Bytes.ofString "CSX-\\u00fc\\ud83d\\ude00" := by
  decide +kernel

end TelemetryBridge
