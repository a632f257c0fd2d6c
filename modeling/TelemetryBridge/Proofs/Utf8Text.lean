import TelemetryBridge.Text.Utf8

/-!
# Reading back UTF-8 encodings

The escapers of the library are maps over `Utf8.units`, so every statement about what they write
starts from the units of a concatenation. The basic fact is that the reader takes the encoding
of a character back as that character, whatever bytes follow it
(`Utf8.units_encode_append`): the encoder writes no overlong form, no surrogate and nothing past
U+10FFFF, which is exactly what the strict reader accepts.

A byte string is *whole* (`Utf8.Whole`) when it ends on a unit boundary whatever follows it.
Encodings of characters and ASCII bytes are whole, and so are concatenations of whole strings,
so the units of a text built from them are the units of its parts.

The bytes of a `String` are the encodings of its characters (`Bytes.ofString_eq`); a byte array
read as a list is its data (`ByteArray.toList_eq`).
-/

namespace TelemetryBridge

/-- The list loop of a byte array from index `i` with `r` read so far. -/
theorem ByteArray.toList_loop (bs : ByteArray) (i : Nat) (r : List UInt8) :
    ByteArray.toList.loop bs i r = r.reverse ++ bs.data.toList.drop i := by
  induction i, r using ByteArray.toList.loop.induct bs with
  | case1 i r hi ih =>
    have hlen : i < bs.data.toList.length := by rw [Array.length_toList]; exact hi
    rw [ByteArray.toList.loop.eq_1, if_pos hi, ih, List.reverse_cons, List.append_assoc,
      List.drop_eq_getElem_cons hlen]
    rw [List.singleton_append, ByteArray.get!, Array.getElem_toList hi,
      getElem!_pos bs.data i hi]
  | case2 i r hi =>
    have hle : bs.data.toList.length ≤ i := by rw [Array.length_toList]; exact Nat.not_lt.mp hi
    rw [ByteArray.toList.loop.eq_1, if_neg hi, List.drop_of_length_le hle, List.append_nil]

theorem ByteArray.toList_eq (bs : ByteArray) : bs.toList = bs.data.toList := by
  simp [ByteArray.toList, ByteArray.toList_loop]

namespace Utf8

theorem encode_eq (c : Char) : encode c = String.utf8EncodeChar c := by
  unfold encode Bytes.ofChar Bytes.ofString
  rw [String.toUTF8_eq_toByteArray, String.toByteArray_singleton, ByteArray.toList_eq,
    List.utf8Encode, List.toList_data_toByteArray, List.flatMap_singleton]

/-- A character below `0x80` is its own byte. -/
theorem encode_of_lt {c : Char} (h : c.toNat < 0x80) : encode c = [UInt8.ofNat c.toNat] := by
  rw [encode_eq, String.utf8EncodeChar, if_pos (by show c.toNat ≤ 0x7f; omega)]
  rfl

theorem toNat_charOf {n : Nat} (h : n < 0xd800) : (charOf n).toNat = n := by
  rw [charOf, Char.ofNat, dif_pos (Or.inl h)]
  rfl

/-! ### The reader on the encoder's bytes -/

section Lead

theorem toNat_byte {n : Nat} (h : n < 256) : (UInt8.ofNat n).toNat = n := by
  simp [Nat.mod_eq_of_lt h]

/-- The second-byte range after a three-byte lead `E0`..`EF`. -/
theorem secondRange_three (k : Nat) (hk : k < 16) :
    secondRange (UInt8.ofNat (k + 0xe0)) =
      if k = 0 then (0xA0, 0xBF) else if k = 13 then (0x80, 0x9F) else (0x80, 0xBF) := by
  have : ∀ k, k < 16 → secondRange (UInt8.ofNat (k + 0xe0)) =
      if k = 0 then (0xA0, 0xBF) else if k = 13 then (0x80, 0x9F) else (0x80, 0xBF) := by
    decide
  exact this k hk

/-- The second-byte range after a four-byte lead `F0`..`F4`. -/
theorem secondRange_four (k : Nat) (hk : k < 5) :
    secondRange (UInt8.ofNat (k + 0xf0)) =
      if k = 0 then (0x90, 0xBF) else if k = 4 then (0x80, 0x8F) else (0x80, 0xBF) := by
  have : ∀ k, k < 5 → secondRange (UInt8.ofNat (k + 0xf0)) =
      if k = 0 then (0x90, 0xBF) else if k = 4 then (0x80, 0x8F) else (0x80, 0xBF) := by
    decide
  exact this k hk

/-- A byte below `0x80` is a unit on its own. -/
theorem lead_ascii {b : UInt8} (h : b < 0x80) (rest : Bytes) :
    lead b rest = (.char (charOf b.toNat) 1, 0) := by
  unfold lead
  rw [if_pos h]

variable {v : Nat}

theorem lead_one (h : v < 0x80) (rest : Bytes) :
    lead (UInt8.ofNat v) rest = (.char (charOf v) 1, 0) := by
  have e0 := toNat_byte (show v < 256 by omega)
  rw [lead_ascii (by simp only [UInt8.lt_iff_toNat_lt, e0, UInt8.reduceToNat]; omega), e0]

theorem lead_two (hlo : 0x80 ≤ v) (hhi : v ≤ 0x7ff) (rest : Bytes) :
    lead (UInt8.ofNat (v / 64 % 32 + 0xc0)) (UInt8.ofNat (v % 64 + 0x80) :: rest) =
      (.char (charOf v) 2, 1) := by
  have e0 := toNat_byte (show v / 64 % 32 + 0xc0 < 256 by omega)
  have e1 := toNat_byte (show v % 64 + 0x80 < 256 by omega)
  unfold lead
  rw [if_neg (by simp only [UInt8.lt_iff_toNat_lt, e0, UInt8.reduceToNat]; omega),
    if_pos (by simp only [UInt8.le_iff_toNat_le, e0, UInt8.reduceToNat]; omega)]
  dsimp only
  rw [if_pos (by
    simp only [isCont, Bool.and_eq_true, decide_eq_true_eq, UInt8.le_iff_toNat_le, e1,
      UInt8.reduceToNat]
    omega)]
  congr 3
  simp only [contBits, e0, e1]
  omega

theorem lead_three (hlo : 0x800 ≤ v) (hhi : v ≤ 0xffff) (hs : v < 0xd800 ∨ 0xdfff < v)
    (rest : Bytes) :
    lead (UInt8.ofNat (v / 4096 % 16 + 0xe0))
        (UInt8.ofNat (v / 64 % 64 + 0x80) :: UInt8.ofNat (v % 64 + 0x80) :: rest) =
      (.char (charOf v) 3, 2) := by
  have e0 := toNat_byte (show v / 4096 % 16 + 0xe0 < 256 by omega)
  have e1 := toNat_byte (show v / 64 % 64 + 0x80 < 256 by omega)
  have e2 := toNat_byte (show v % 64 + 0x80 < 256 by omega)
  unfold lead
  rw [if_neg (by simp only [UInt8.lt_iff_toNat_lt, e0, UInt8.reduceToNat]; omega),
    if_neg (by simp only [UInt8.le_iff_toNat_le, e0, UInt8.reduceToNat]; omega),
    if_pos (by simp only [UInt8.le_iff_toNat_le, e0, UInt8.reduceToNat]; omega)]
  -- the range of the second byte is what excludes overlong forms and surrogates
  dsimp only
  have hsecond := secondRange_three (v / 4096 % 16) (by omega)
  rw [if_pos (by
    simp only [isCont, Bool.and_eq_true, decide_eq_true_eq, UInt8.le_iff_toNat_le, e1, e2,
      UInt8.reduceToNat, hsecond]
    by_cases h0 : v / 4096 % 16 = 0
    · -- after `E0` the second byte is from `A0` up: no overlong form
      simp only [if_pos h0, UInt8.reduceToNat]
      omega
    by_cases h13 : v / 4096 % 16 = 13
    · -- after `ED` it is up to `9F`: no surrogate
      simp only [if_neg h0, if_pos h13, UInt8.reduceToNat]
      omega
    · simp only [if_neg h0, if_neg h13, UInt8.reduceToNat]
      omega)]
  congr 3
  simp only [contBits, e0, e1, e2]
  omega

theorem lead_four (hlo : 0x10000 ≤ v) (hhi : v < 0x110000) (rest : Bytes) :
    lead (UInt8.ofNat (v / 262144 % 8 + 0xf0))
        (UInt8.ofNat (v / 4096 % 64 + 0x80) :: UInt8.ofNat (v / 64 % 64 + 0x80) ::
          UInt8.ofNat (v % 64 + 0x80) :: rest) =
      (.char (charOf v) 4, 3) := by
  have e0 := toNat_byte (show v / 262144 % 8 + 0xf0 < 256 by omega)
  have e1 := toNat_byte (show v / 4096 % 64 + 0x80 < 256 by omega)
  have e2 := toNat_byte (show v / 64 % 64 + 0x80 < 256 by omega)
  have e3 := toNat_byte (show v % 64 + 0x80 < 256 by omega)
  unfold lead
  rw [if_neg (by simp only [UInt8.lt_iff_toNat_lt, e0, UInt8.reduceToNat]; omega),
    if_neg (by simp only [UInt8.le_iff_toNat_le, e0, UInt8.reduceToNat]; omega),
    if_neg (by simp only [UInt8.le_iff_toNat_le, e0, UInt8.reduceToNat]; omega),
    if_pos (by simp only [UInt8.le_iff_toNat_le, e0, UInt8.reduceToNat]; omega)]
  dsimp only
  have hsecond := secondRange_four (v / 262144 % 8) (by omega)
  rw [if_pos (by
    simp only [isCont, Bool.and_eq_true, decide_eq_true_eq, UInt8.le_iff_toNat_le, e1, e2, e3,
      UInt8.reduceToNat, hsecond]
    by_cases h0 : v / 262144 % 8 = 0
    · -- after `F0` the second byte is from `90` up: no overlong form
      simp only [if_pos h0, UInt8.reduceToNat]
      omega
    by_cases h4 : v / 262144 % 8 = 4
    · -- after `F4` it is up to `8F`: nothing past U+10FFFF
      simp only [if_neg h0, if_pos h4, UInt8.reduceToNat]
      omega
    · simp only [if_neg h0, if_neg h4, UInt8.reduceToNat]
      omega)]
  congr 3
  simp only [contBits, e0, e1, e2, e3]
  omega

end Lead

/-- Every byte of the encoding of a character beyond ASCII has its high bit set. -/
theorem le_of_mem_encode {c : Char} (hc : 0x80 ≤ c.toNat) {b : UInt8} (hb : b ∈ encode c) :
    0x80 ≤ b := by
  have hv : c.val.toNat = c.toNat := rfl
  have hmax : c.toNat < 0xd800 ∨ (0xdfff < c.toNat ∧ c.toNat < 0x110000) := c.valid
  rw [encode_eq, String.utf8EncodeChar] at hb
  simp only [hv, if_neg (show ¬ c.toNat ≤ 0x7f by omega)] at hb
  rw [UInt8.le_iff_toNat_le]
  -- one case per length of the encoding, each byte a lead or a continuation byte
  repeat' split at hb
  all_goals
    simp only [List.mem_cons, List.not_mem_nil, or_false] at hb
    rcases hb with rfl | rfl | rfl | rfl <;> rw [toNat_byte (by omega)] <;> simp

/-- The reader takes the encoding of a character back as that character, whatever follows. -/
theorem next?_encode_append (c : Char) (rest : Bytes) :
    next? (encode c ++ rest) = some (.char c (encode c).length, rest) := by
  have hc : c.toNat < 0xd800 ∨ (0xdfff < c.toNat ∧ c.toNat < 0x110000) := c.valid
  have hv : c.val.toNat = c.toNat := rfl
  rw [encode_eq, String.utf8EncodeChar]
  simp only [hv]
  -- one case per length of the encoding
  by_cases h1 : c.toNat ≤ 0x7f
  · rw [if_pos h1]
    simp only [List.cons_append, List.nil_append, next?, List.length_cons, List.length_nil]
    rw [lead_one (by omega)]
    simp [charOf]
  rw [if_neg h1]
  by_cases h2 : c.toNat ≤ 0x7ff
  · rw [if_pos h2]
    simp only [List.cons_append, List.nil_append, next?, List.length_cons, List.length_nil]
    rw [lead_two (by omega) h2]
    simp [charOf]
  rw [if_neg h2]
  by_cases h3 : c.toNat ≤ 0xffff
  · rw [if_pos h3]
    simp only [List.cons_append, List.nil_append, next?, List.length_cons, List.length_nil]
    rw [lead_three (by omega) h3 (by omega)]
    simp [charOf]
  rw [if_neg h3]
  simp only [List.cons_append, List.nil_append, next?, List.length_cons, List.length_nil]
  rw [lead_four (by omega) (by omega)]
  simp [charOf]

theorem units_nil : units [] = [] := by
  rw [units]
  rfl

theorem units_encode_append (c : Char) (rest : Bytes) :
    units (encode c ++ rest) = .char c (encode c).length :: units rest := by
  rw [units]
  split
  next h => rw [next?_encode_append] at h; cases h
  next u r h =>
    rw [next?_encode_append] at h
    cases h
    rfl

theorem units_encode (c : Char) : units (encode c) = [.char c (encode c).length] := by
  rw [← List.append_nil (encode c), units_encode_append, units_nil, List.append_nil]

theorem units_cons_ascii {b : UInt8} (hb : b < 0x80) (rest : Bytes) :
    units (b :: rest) = .char (charOf b.toNat) 1 :: units rest := by
  rw [units]
  split
  next h => simp [next?] at h
  next u r h =>
    simp only [next?, lead, if_pos hb, List.drop_zero, Option.some.injEq, Prod.mk.injEq] at h
    obtain ⟨rfl, rfl⟩ := h
    rfl

/-! ### Whole byte strings -/

/-- A byte string that ends on a unit boundary whatever follows it: reading it together with
what follows is reading each on its own. -/
def Whole (a : Bytes) : Prop := ∀ rest, units (a ++ rest) = units a ++ units rest

theorem whole_nil : Whole [] := fun rest => by rw [List.nil_append, units_nil, List.nil_append]

theorem Whole.append {a b : Bytes} (ha : Whole a) (hb : Whole b) : Whole (a ++ b) := fun rest => by
  rw [List.append_assoc, ha, hb, ha, List.append_assoc]

theorem whole_encode (c : Char) : Whole (encode c) := fun rest => by
  rw [units_encode_append, ← List.append_nil (encode c), units_encode_append, units_nil,
    List.append_nil, List.singleton_append]

theorem Whole.cons_ascii {b : UInt8} {t : Bytes} (hb : b < 0x80) (ht : Whole t) :
    Whole (b :: t) := fun rest => by
  rw [List.cons_append, units_cons_ascii hb, units_cons_ascii hb, ht, List.cons_append]

theorem whole_of_ascii {a : Bytes} (h : ∀ b ∈ a, b < 0x80) : Whole a := by
  induction a with
  | nil => exact whole_nil
  | cons b t ih =>
    exact (ih fun x hx => h x (List.mem_cons_of_mem b hx)).cons_ascii (h b List.mem_cons_self)

theorem whole_flatMap {α : Type} {f : α → Bytes} {xs : List α} (h : ∀ x ∈ xs, Whole (f x)) :
    Whole (xs.flatMap f) := by
  induction xs with
  | nil => exact whole_nil
  | cons x xs ih =>
    rw [List.flatMap_cons]
    exact (h x List.mem_cons_self).append (ih fun y hy => h y (List.mem_cons_of_mem x hy))

theorem units_flatMap {α : Type} {f : α → Bytes} {xs : List α} (h : ∀ x ∈ xs, Whole (f x)) :
    units (xs.flatMap f) = xs.flatMap fun x => units (f x) := by
  induction xs with
  | nil => exact units_nil
  | cons x xs ih =>
    rw [List.flatMap_cons, h x List.mem_cons_self, ih fun y hy => h y (List.mem_cons_of_mem x hy),
      List.flatMap_cons]

theorem units_of_ascii {a : Bytes} (h : ∀ b ∈ a, b < 0x80) :
    units a = a.map fun b => .char (charOf b.toNat) 1 := by
  induction a with
  | nil => exact units_nil
  | cons b t ih =>
    rw [units_cons_ascii (h b List.mem_cons_self), ih fun x hx => h x (List.mem_cons_of_mem b hx),
      List.map_cons]

/-! ### ASCII characters in the reading

An ASCII character other than `NUL` is read only from its own byte: a sequence led by a byte
from `0x80` up encodes a code point of at least `0x80`, and every byte it takes is from `0x80`
up as well. -/

/-- `charOf` keeps a code point of at least `0x80` at least `0x80`, or falls back to `NUL`. -/
theorem toNat_charOf_of_le {n : Nat} (hn : 0x80 ≤ n) :
    (charOf n).toNat = 0 ∨ 0x80 ≤ (charOf n).toNat := by
  rw [charOf, Char.ofNat]
  by_cases hv : n.isValidChar
  · rw [dif_pos hv]
    exact .inr hn
  · rw [dif_neg hv]
    exact .inl rfl

/-- A unit led by a byte from `0x80` up is no ASCII character but `NUL`: its code point is at
least `0x80`, the leads and second bytes ruling out overlong forms. -/
theorem char_of_lead_high {b0 : UInt8} {rest : Bytes} {c : Char} {w : Nat} (hb : ¬ b0 < 0x80)
    (h : (lead b0 rest).1 = .char c w) : c.toNat = 0 ∨ 0x80 ≤ c.toNat := by
  unfold lead at h
  rw [if_neg hb] at h
  repeat' split at h
  all_goals simp only [Unit.char.injEq, reduceCtorEq] at h
  all_goals obtain ⟨rfl, -⟩ := h
  all_goals refine toNat_charOf_of_le ?_
  all_goals simp only [UInt8.le_iff_toNat_le, UInt8.toNat_ofNat, contBits, isCont,
    Bool.and_eq_true, decide_eq_true_eq] at *
  · -- two bytes: the lead is at least `0xC2`
    omega
  · -- three bytes: after `0xE0` the second byte is at least `0xA0`
    rename_i hr
    rcases Nat.lt_or_ge 224 b0.toNat with hgt | hle
    · omega
    · have h0 : b0 = 0xE0 := UInt8.toNat_inj.mp (by simp; omega)
      simp only [h0, secondRange, if_true, UInt8.toNat_ofNat] at hr
      omega
  · -- four bytes: after `0xF0` the second byte is at least `0x90`
    rename_i hr
    rcases Nat.lt_or_ge 240 b0.toNat with hgt | hle
    · omega
    · have h0 : b0 = 0xF0 := UInt8.toNat_inj.mp (by simp; omega)
      simp [h0, secondRange] at hr
      omega

theorem le_secondRange_fst (b0 : UInt8) : 0x80 ≤ (secondRange b0).1 := by
  unfold secondRange
  repeat' split
  all_goals decide

/-- The bytes that a unit led by a byte from `0x80` up takes after its lead are from `0x80` up
too: continuation bytes, or a second byte in its lead's range. -/
theorem le_of_mem_take_lead {b0 : UInt8} {rest : Bytes} (hb : ¬ b0 < 0x80) {b : UInt8}
    (hm : b ∈ rest.take (lead b0 rest).2) : 0x80 ≤ b := by
  have hs := le_secondRange_fst b0
  unfold lead at hm
  rw [if_neg hb] at hm
  repeat' split at hm
  all_goals simp only [List.take_zero, List.not_mem_nil] at hm
  all_goals simp only [isCont, Bool.and_eq_true, decide_eq_true_eq, List.take_succ_cons,
    List.take_zero, List.mem_cons, List.not_mem_nil, or_false] at *
  · -- two bytes: the second is a continuation byte
    rename_i hc
    exact hm ▸ hc.1
  · -- three bytes: the second is in the lead's range, which starts at `0x80`
    rename_i hc
    rcases hm with rfl | rfl
    · exact UInt8.le_trans hs hc.1
    · exact hc.2.2.1
  · rename_i hc
    rcases hm with rfl | rfl | rfl
    · exact UInt8.le_trans hs hc.1
    · exact hc.2.2.1.1
    · exact hc.2.2.2.1

end Utf8

namespace Bytes

theorem ofString_eq (s : String) : ofString s = s.toList.flatMap Utf8.encode := by
  unfold ofString
  rw [String.toUTF8_eq_toByteArray, ← String.utf8Encode_toList, ByteArray.toList_eq,
    List.utf8Encode, List.toList_data_toByteArray, funext Utf8.encode_eq]

theorem whole_ofString (s : String) : Utf8.Whole (ofString s) := by
  rw [ofString_eq]
  exact Utf8.whole_flatMap fun c _ => Utf8.whole_encode c

/-- Two texts have the same bytes only if they are the same text. -/
theorem ofString_inj {s t : String} : ofString s = ofString t ↔ s = t := by
  refine ⟨fun h => ?_, fun h => h ▸ rfl⟩
  -- the bytes are those of the strings' byte arrays, and a string is its byte array
  rw [ofString, ofString, ByteArray.toList_eq, ByteArray.toList_eq] at h
  exact String.toByteArray_inj.mp (congrArg ByteArray.mk (Array.toList_inj.mp h))

theorem ofString_eq_nil {s : String} : ofString s = [] ↔ s = "" := by
  rw [← ofString_inj, show ofString "" = [] by decide +kernel]

/-- The bytes of a text are well-formed UTF-8: repairing them changes nothing. -/
theorem repair_ofString (s : String) : Utf8.repair (ofString s) = ofString s := by
  rw [Utf8.repair, ofString_eq, Utf8.units_flatMap fun c _ => Utf8.whole_encode c]
  simp [List.flatMap_assoc, Utf8.units_encode, Utf8.Unit.toChar]

end Bytes

end TelemetryBridge
