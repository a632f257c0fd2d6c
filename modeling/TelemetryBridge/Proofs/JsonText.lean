import TelemetryBridge.Proofs.NumberText
import TelemetryBridge.Json.Reader
import TelemetryBridge.Json.Writer
import Mathlib.Tactic.IntervalCases

/-!
# Reading back written JSON

The writer's string and number literals, and objects made of them, read back as what they were
written from.

The content of a string literal is described by two properties that survive concatenation, so
that a literal is handled one written unit at a time: `Json.Content` (the reader's span passes
over it, layout removal leaves it alone, it holds no control byte) and `Json.Decodes` (it
decodes to given bytes whatever content follows). Each unit the writer emits, a byte as itself,
a short escape, a `\u` escape or a surrogate pair, has both, so the content of a written string
decodes to the string's UTF-8 repair (`Json.escapes_quote`).

A number literal without exponent followed by a byte that cannot continue it reads as itself
(`Json.number_append`). An object whose members are written keys and values reads back as the
object and has no layout outside its strings (`Json.MembersText.readWhole`,
`Json.MembersText.compact`).
-/

namespace TelemetryBridge

namespace Json

/-! ### String-literal content -/

/-- Bytes that can stand inside a string literal whatever follows them: the reader's span goes
through them, layout leaves them alone, and none is a control byte. -/
structure Content (raw : Bytes) : Prop where
  span : ∀ rest acc, stringSpan (raw ++ rest) acc = stringSpan rest (raw.reverse ++ acc)
  layout : ∀ rest, dropLayout (raw ++ rest) true false = raw ++ dropLayout rest true false
  visible : ∀ b ∈ raw, 0x20 ≤ b

theorem content_nil : Content [] :=
  ⟨fun _ _ => rfl, fun _ => rfl, fun _ h => absurd h List.not_mem_nil⟩

theorem Content.append {a b : Bytes} (ha : Content a) (hb : Content b) : Content (a ++ b) where
  span rest acc := by rw [List.append_assoc, ha.span, hb.span, List.reverse_append, List.append_assoc]
  layout rest := by rw [List.append_assoc, ha.layout, hb.layout, List.append_assoc]
  visible x hx := (List.mem_append.mp hx).elim (ha.visible x) (hb.visible x)

theorem content_flatMap {α : Type} {f : α → Bytes} {xs : List α} (h : ∀ x ∈ xs, Content (f x)) :
    Content (xs.flatMap f) := by
  induction xs with
  | nil => exact content_nil
  | cons x xs ih =>
    rw [List.flatMap_cons]
    exact (h x List.mem_cons_self).append (ih fun y hy => h y (List.mem_cons_of_mem x hy))

/-- A byte that stands for itself: not a control byte, a quote or a backslash. -/
theorem content_byte {b : UInt8} (hlo : 0x20 ≤ b) (h34 : b ≠ 34) (h92 : b ≠ 92) : Content [b] where
  span rest acc := by
    rw [List.singleton_append, stringSpan.eq_def]
    simp only
    rw [if_neg h34, if_neg h92, if_neg (by
      rw [UInt8.lt_iff_toNat_lt]; rw [UInt8.le_iff_toNat_le] at hlo; simp at hlo ⊢; omega)]
    rfl
  layout rest := by
    rw [List.singleton_append, dropLayout, if_pos rfl, if_neg Bool.false_ne_true, if_neg h92,
      if_neg h34]
    rfl
  visible x hx := by rw [List.mem_singleton.mp hx]; exact hlo

/-- A short escape: a backslash and one of the letters a string literal allows after it. -/
theorem content_escape {e : UInt8}
    (he : e = 34 ∨ e = 92 ∨ e = 47 ∨ e = 98 ∨ e = 102 ∨ e = 110 ∨ e = 114 ∨ e = 116) :
    Content [92, e] where
  span rest acc := by
    have h117 : e ≠ 117 := by rcases he with h | h | h | h | h | h | h | h <;> subst h <;> decide
    rw [List.cons_append, stringSpan.eq_def]
    simp only
    rw [if_neg (by decide), if_pos trivial]
    simp only [List.cons_append, List.nil_append]
    rw [if_neg h117, if_pos he]
    rfl
  layout rest := by
    simp only [List.cons_append, List.nil_append, dropLayout, if_true, if_false,
      Bool.false_eq_true]
  visible x hx := by
    simp only [List.mem_cons, List.not_mem_nil, or_false] at hx
    rcases hx with rfl | rfl
    · decide
    · rcases he with h | h | h | h | h | h | h | h <;> subst h <;> decide

/-! ### Unicode escapes -/

/-- The four lowercase hexadecimal digits a `\u` escape gives for a UTF-16 code unit. -/
def unitDigits (u : Nat) : Bytes :=
  [Bytes.hexDigit (u / 4096 % 16), Bytes.hexDigit (u / 256 % 16), Bytes.hexDigit (u / 16 % 16),
    Bytes.hexDigit (u % 16)]

theorem hexValue?_hexDigit {n : Nat} (h : n < 16) : Bytes.hexValue? (Bytes.hexDigit n) = some n := by
  interval_cases n <;> rfl

theorem content_hexDigit {n : Nat} (h : n < 16) : Content [Bytes.hexDigit n] := by
  apply content_byte <;> interval_cases n <;> decide

theorem content_unitDigits (u : Nat) : Content (unitDigits u) := by
  have h := fun k => content_hexDigit (Nat.mod_lt k (show 0 < 16 by decide))
  exact (h _).append ((h _).append ((h _).append (h _)))

theorem hexRun_unitDigits (u : Nat) (rest : Bytes) : hexRun 4 (unitDigits u ++ rest) = .ok () := by
  have h : ∀ k, (Bytes.hexValue? (Bytes.hexDigit (k % 16))).isSome = true := fun k => by
    rw [hexValue?_hexDigit (Nat.mod_lt k (by decide))]; rfl
  simp only [unitDigits, List.cons_append, List.nil_append, hexRun, h, if_true]

theorem hex4_unitDigits {u : Nat} (hu : u < 0x10000) (rest : Bytes) :
    hex4 (unitDigits u ++ rest) = u := by
  have h : ∀ k, Bytes.hexValue? (Bytes.hexDigit (k % 16)) = some (k % 16) := fun k =>
    hexValue?_hexDigit (Nat.mod_lt k (by decide))
  simp only [hex4, unitDigits, List.cons_append, List.nil_append, List.take_succ_cons,
    List.take_zero, List.foldl_cons, List.foldl_nil, h, Option.getD_some]
  omega

/-- A `\u` escape of any code unit can stand inside a string literal. -/
theorem content_unicode (u : Nat) : Content (92 :: 117 :: unitDigits u) where
  span rest acc := by
    have hlen : (unitDigits u).length = 4 := rfl
    rw [List.cons_append, stringSpan.eq_def]
    simp only
    rw [if_neg (by decide), if_pos trivial]
    simp only [List.cons_append]
    rw [if_pos trivial, hexRun_unitDigits]
    simp only
    rw [List.drop_left' hlen, List.take_left' hlen]
    simp [List.reverse_cons]
  layout rest := by
    have h := (content_unitDigits u).layout rest
    simp only [List.cons_append, dropLayout, if_true, if_false, Bool.false_eq_true]
    rw [h]
  visible x hx := by
    simp only [List.mem_cons] at hx
    rcases hx with rfl | rfl | hx
    · decide
    · decide
    · exact (content_unitDigits u).visible x hx

/-! ### Decoding string-literal content -/

/-- Content bytes that decode to `dec` whatever content follows them. -/
def Decodes (raw dec : Bytes) : Prop := ∀ rest, unquote (raw ++ rest) = dec ++ unquote rest

theorem Decodes.append {a b da db : Bytes} (ha : Decodes a da) (hb : Decodes b db) :
    Decodes (a ++ b) (da ++ db) := fun rest => by
  rw [List.append_assoc, ha, hb, List.append_assoc]

theorem decodes_flatMap {α : Type} {f g : α → Bytes} {xs : List α}
    (h : ∀ x ∈ xs, Decodes (f x) (g x)) : Decodes (xs.flatMap f) (xs.flatMap g) := by
  induction xs with
  | nil => exact fun rest => rfl
  | cons x xs ih =>
    rw [List.flatMap_cons, List.flatMap_cons]
    exact (h x List.mem_cons_self).append (ih fun y hy => h y (List.mem_cons_of_mem x hy))

/-- A byte other than a backslash starts a UTF-8 unit, which decodes as its character. -/
theorem unquote_cons {b : UInt8} (hb : b ≠ 92) (rest : Bytes) :
    unquote (b :: rest) =
      Utf8.encode (Utf8.lead b rest).1.toChar ++ unquote (rest.drop (Utf8.lead b rest).2) := by
  rw [unquote.eq_4 b rest (fun _ h _ => hb h) (fun _ _ h _ => hb h)]
  generalize Utf8.lead b rest = r
  obtain ⟨_ | _, n⟩ := r <;> rfl

/-- A character other than the backslash, written in UTF-8, decodes as itself. -/
theorem decodes_encode {c : Char} (hc : c ≠ '\\') : Decodes (Utf8.encode c) (Utf8.encode c) :=
  fun rest => by
    obtain ⟨b, tl, hbt⟩ : ∃ b tl, Utf8.encode c = b :: tl :=
      List.exists_cons_of_ne_nil (by rw [Utf8.encode_eq]; exact String.utf8EncodeChar_ne_nil)
    have hnext := Utf8.next?_encode_append c rest
    rw [hbt, List.cons_append, Utf8.next?] at hnext
    obtain ⟨hu, hdrop⟩ := Prod.mk.inj (Option.some.inj hnext)
    -- the unit is the character itself, so its lead byte cannot be the backslash
    have hb : b ≠ 92 := by
      rintro rfl
      rw [Utf8.lead_ascii (by decide)] at hu
      exact hc (Utf8.Unit.char.inj hu).1.symm
    calc unquote (Utf8.encode c ++ rest) = unquote (b :: (tl ++ rest)) := by rw [hbt]; rfl
      _ = Utf8.encode c ++ unquote rest := by rw [unquote_cons hb, hu, hdrop]; rfl

/-- A short escape other than `\u` decodes as the byte it names. -/
theorem decodes_escape {e : UInt8} (he : e ≠ 117) : Decodes [92, e] [escapedByte e] := fun rest =>
  unquote.eq_3 e rest he

/-- A `\u` escape of a code unit that is no surrogate half decodes as that character. -/
theorem decodes_unicode {u : Nat} (hu : u < 0x10000) (hs : isSurrogate u = false) :
    Decodes (92 :: 117 :: unitDigits u) (Utf8.encode (Char.ofNat u)) := fun rest => by
  have hlen : (unitDigits u).length = 4 := rfl
  rw [List.cons_append, List.cons_append, unquote.eq_2, hex4_unitDigits hu]
  simp only [escapedUnit, hs, Bool.false_eq_true, if_false, Nat.add_zero]
  rw [List.drop_left' hlen]

/-- A first surrogate half followed by the escape of a second half forms one character. -/
theorem escapedUnit_pair {hi lo : Nat} (hhi : 0xD800 ≤ hi ∧ hi < 0xDC00)
    (hlo : 0xDC00 ≤ lo ∧ lo ≤ 0xDFFF) (rest : Bytes) :
    escapedUnit hi (92 :: 117 :: (unitDigits lo ++ rest)) =
      (Char.ofNat (0x10000 + (hi - 0xD800) * 0x400 + (lo - 0xDC00)), 6) := by
  have hsur : isSurrogate hi = true := by
    simp only [isSurrogate, Bool.and_eq_true, decide_eq_true_eq]; omega
  unfold escapedUnit
  rw [if_pos hsur]
  split
  · next more heq =>
    obtain rfl : more = unitDigits lo ++ rest := (List.cons.inj (List.cons.inj heq).2).2.symm
    rw [hex4_unitDigits (by omega), hexRun_unitDigits, if_pos]
    simp only [Except.toBool, Bool.true_and, Bool.and_eq_true, decide_eq_true_eq]
    omega
  · next hne => exact absurd rfl (hne _)

/-- The escapes of the two UTF-16 surrogate halves of a character beyond U+FFFF decode as the
character. -/
theorem decodes_surrogates {c : Char} (hc : 0x10000 ≤ c.toNat) :
    Decodes (92 :: 117 :: unitDigits (0xD800 + (c.toNat - 0x10000) / 0x400) ++
      92 :: 117 :: unitDigits (0xDC00 + (c.toNat - 0x10000) % 0x400)) (Utf8.encode c) :=
  fun rest => by
    have hmax : c.toNat < 0xd800 ∨ (0xdfff < c.toNat ∧ c.toNat < 0x110000) := c.valid
    generalize hhi : 0xD800 + (c.toNat - 0x10000) / 0x400 = hi
    generalize hlo : 0xDC00 + (c.toNat - 0x10000) % 0x400 = lo
    have hc' : 0x10000 + (hi - 0xD800) * 0x400 + (lo - 0xDC00) = c.toNat := by omega
    have hdrop : (unitDigits hi ++ 92 :: 117 :: (unitDigits lo ++ rest)).drop (4 + 6) = rest := by
      simp [unitDigits]
    simp only [List.cons_append, List.append_assoc]
    rw [unquote.eq_2, hex4_unitDigits (by omega),
      List.drop_left' (show (unitDigits hi).length = 4 from rfl),
      escapedUnit_pair (by omega) (by omega)]
    dsimp only
    rw [hc', Char.ofNat_toNat, hdrop]

/-- Bytes with the high bit set stand for themselves inside a string literal. -/
theorem content_of_high {bs : Bytes} (h : ∀ b ∈ bs, 0x80 ≤ b) : Content bs := by
  induction bs with
  | nil => exact content_nil
  | cons b t ih =>
    have hb := h b List.mem_cons_self
    have hb' : 0x80 ≤ b.toNat := by rw [UInt8.le_iff_toNat_le] at hb; simpa using hb
    rw [← List.singleton_append]
    refine (content_byte ?_ ?_ ?_).append (ih fun x hx => h x (List.mem_cons_of_mem b hx))
    · rw [UInt8.le_iff_toNat_le]; simp; omega
    · intro h34; subst h34; simp at hb'
    · intro h92; subst h92; simp at hb'

/-! ### The writer's string literals -/

/-- The escape of an ASCII byte that is not written as itself: a short escape that names it,
or the `\u` escape of its code. -/
theorem escapeAscii_cases (b : UInt8) :
    (∃ e, escapeAscii b = [92, e] ∧ e ≠ 117 ∧ escapedByte e = b ∧
      (e = 34 ∨ e = 92 ∨ e = 47 ∨ e = 98 ∨ e = 102 ∨ e = 110 ∨ e = 114 ∨ e = 116)) ∨
    escapeAscii b = 92 :: 117 :: unitDigits b.toNat := by
  unfold escapeAscii
  split_ifs with h34 h92 h8 h12 h10 h13 h9
  · exact .inl ⟨34, rfl, by decide, by rw [h34]; decide, by decide⟩
  · exact .inl ⟨92, rfl, by decide, by rw [h92]; decide, by decide⟩
  · exact .inl ⟨98, rfl, by decide, by rw [h8]; decide, by decide⟩
  · exact .inl ⟨102, rfl, by decide, by rw [h12]; decide, by decide⟩
  · exact .inl ⟨110, rfl, by decide, by rw [h10]; decide, by decide⟩
  · exact .inl ⟨114, rfl, by decide, by rw [h13]; decide, by decide⟩
  · exact .inl ⟨116, rfl, by decide, by rw [h9]; decide, by decide⟩
  · refine .inr ?_
    have hb : b.toNat < 256 := b.toNat_lt
    rw [show Bytes.ofString "\\u00" = [92, 117, 48, 48] by decide +kernel]
    simp only [unitDigits, Bytes.hexOfByte, List.cons_append, List.nil_append,
      Nat.mod_eq_of_lt (show b.toNat / 16 < 16 by omega)]
    rw [Nat.div_eq_of_lt (by omega : b.toNat < 4096), Nat.div_eq_of_lt (by omega : b.toNat < 256)]
    rfl

/-- Content that can stand in a string literal whatever surrounds it and decodes to `dec`. -/
structure Escapes (raw dec : Bytes) : Prop where
  content : Content raw
  decodes : Decodes raw dec

theorem Escapes.append {a b da db : Bytes} (ha : Escapes a da) (hb : Escapes b db) :
    Escapes (a ++ b) (da ++ db) :=
  ⟨ha.content.append hb.content, ha.decodes.append hb.decodes⟩

/-- Content that decodes to `dec` before anything is unquoted to `dec`. -/
theorem Escapes.unquote_eq {raw dec : Bytes} (h : Escapes raw dec) : unquote raw = dec := by
  have hd := h.decodes []
  rwa [List.append_nil, unquote.eq_1, List.append_nil] at hd

theorem escapes_flatMap {α : Type} {f g : α → Bytes} {xs : List α}
    (h : ∀ x ∈ xs, Escapes (f x) (g x)) : Escapes (xs.flatMap f) (xs.flatMap g) :=
  ⟨content_flatMap fun x hx => (h x hx).content, decodes_flatMap fun x hx => (h x hx).decodes⟩

/-- A character beyond ASCII, written in UTF-8, stands in a literal for itself. -/
theorem escapes_encode_high {c : Char} (hc : 0x80 ≤ c.toNat) :
    Escapes (Utf8.encode c) (Utf8.encode c) :=
  ⟨content_of_high fun _ hb => Utf8.le_of_mem_encode hc hb,
    decodes_encode fun h => by rw [h] at hc; exact absurd hc (by decide)⟩

/-- The `\u` escape of a character below U+10000 that is no surrogate. -/
theorem escapes_unicode {c : Char} (hc : c.toNat < 0x10000) :
    Escapes (92 :: 117 :: unitDigits c.toNat) (Utf8.encode c) := by
  have hs : isSurrogate c.toNat = false := by
    have := c.valid
    simp only [isSurrogate, Bool.and_eq_false_iff, decide_eq_false_iff_not]
    change c.toNat < 0xd800 ∨ (0xdfff < c.toNat ∧ c.toNat < 0x110000) at this
    omega
  have h := decodes_unicode hc hs
  rw [Char.ofNat_toNat] at h
  exact ⟨content_unicode _, h⟩

/-- Each unit of a byte string is written in a literal so that it decodes as its character. -/
theorem quoteUnit_escapes (embedded : Bool) :
    ∀ u, Escapes (quoteUnit embedded u) (Utf8.encode u.toChar)
  | .stray _ => escapes_encode_high (by decide)
  | .char c w => by
    simp only [quoteUnit, Utf8.Unit.toChar]
    split_ifs with hlt hp h28 h29
    · -- an ASCII byte written as itself
      simp only [plainByte, Bool.and_eq_true, bne_iff_ne, ne_eq, decide_eq_true_eq] at hp
      obtain ⟨⟨⟨hlo, h34⟩, h92⟩, -⟩ := hp
      have hd := decodes_encode (c := c) fun h => h92 (by rw [h]; rfl)
      rw [Utf8.encode_of_lt hlt] at hd ⊢
      exact ⟨content_byte hlo h34 h92, hd⟩
    · -- an ASCII byte escaped
      have hb : (c.toNat.toUInt8).toNat = c.toNat := Utf8.toNat_byte (by omega)
      rcases escapeAscii_cases c.toNat.toUInt8 with ⟨e, he, h117, hbyte, hset⟩ | hu
      · rw [he, Utf8.encode_of_lt hlt]
        have hd := decodes_escape h117
        rw [hbyte] at hd
        exact ⟨content_escape hset, hd⟩
      · rw [hu, hb]
        exact escapes_unicode (by omega)
    · -- the line separator, escaped for JavaScript
      rw [show Bytes.ofString "\\u2028" = 92 :: 117 :: unitDigits 0x2028 by decide +kernel, ← h28]
      exact escapes_unicode (by omega)
    · -- the paragraph separator
      rw [show Bytes.ofString "\\u2029" = 92 :: 117 :: unitDigits 0x2029 by decide +kernel, ← h29]
      exact escapes_unicode (by omega)
    · exact escapes_encode_high (by omega)

/-- The content of a string literal the writer produces decodes as the repaired string. -/
theorem escapes_quote (embedded : Bool) (s : Bytes) :
    Escapes ((Utf8.units s).flatMap (quoteUnit embedded)) (Utf8.repair s) :=
  escapes_flatMap fun u _ => quoteUnit_escapes embedded u

/-! ### Number literals -/

/-- What may follow a number literal without continuing it: no digit, point or exponent. -/
def EndsNumber (rest : Bytes) : Prop :=
  ∀ b ∈ rest.head?, Bytes.isDigit b = false ∧ b ≠ 46 ∧ b ≠ 101 ∧ b ≠ 69

theorem digits1_append {ds rest : Bytes} (hne : ds ≠ []) (hds : ∀ b ∈ ds, Bytes.isDigit b = true)
    (hr : ∀ b ∈ rest.head?, Bytes.isDigit b = false) : digits1 (ds ++ rest) = .ok (ds, rest) := by
  obtain ⟨d, t, rfl⟩ := List.exists_cons_of_ne_nil hne
  have hstop : rest.takeWhile Bytes.isDigit = [] ∧ rest.dropWhile Bytes.isDigit = rest := by
    cases rest with
    | nil => exact ⟨rfl, rfl⟩
    | cons b r =>
      have hb : ¬ Bytes.isDigit b = true := by simp [hr b rfl]
      exact ⟨List.takeWhile_cons_of_neg hb, List.dropWhile_cons_of_neg hb⟩
  rw [List.cons_append, digits1.eq_2, if_pos (hds d List.mem_cons_self), ← List.cons_append,
    List.takeWhile_append_of_pos hds, List.dropWhile_append_of_pos hds, hstop.1, hstop.2,
    List.append_nil]

/-- A minus, or no sign before anything but a minus, is read as the sign of a number. -/
theorem numberSign_append {sg y : Bytes} (h : sg = [45] ∨ sg = [] ∧ ∀ c ∈ y.head?, c ≠ 45) :
    numberSign (sg ++ y) = (sg, y) := by
  rcases h with rfl | ⟨rfl, hy⟩
  · rfl
  · rw [List.nil_append, numberSign.eq_2 _ fun r h => hy 45 (by rw [h]; rfl) rfl]

/-- `0`, or digits not starting with `0` before anything but a digit, are read as the integer
part. -/
theorem numberWhole_append {w y : Bytes} (hw : ∀ b ∈ w, Bytes.isDigit b = true)
    (hw0 : w = [48] ∨ ∃ d t, w = d :: t ∧ d ≠ 48)
    (hy : w ≠ [48] → ∀ c ∈ y.head?, Bytes.isDigit c = false) :
    numberWhole (w ++ y) = .ok (w, y) := by
  rcases hw0 with rfl | ⟨d, t, rfl, hd⟩
  · rfl
  · rw [List.cons_append, numberWhole.eq_2 _ (fun r h => hd (List.cons.inj h).1),
      ← List.cons_append]
    exact digits1_append (List.cons_ne_nil d t) hw (hy fun h => hd (List.cons.inj h).1)

/-- No fraction before anything but a point, or a point and digits before anything but a digit,
are read as the fraction. -/
theorem numberFrac_append {fr y : Bytes}
    (hf : fr = [] ∨ ∃ ds, fr = 46 :: ds ∧ ds ≠ [] ∧ ∀ b ∈ ds, Bytes.isDigit b = true)
    (hy0 : fr = [] → ∀ c ∈ y.head?, c ≠ 46) (hy : fr ≠ [] → ∀ c ∈ y.head?, Bytes.isDigit c = false) :
    numberFrac (fr ++ y) = .ok (fr, y) := by
  rcases hf with rfl | ⟨ds, rfl, hne, hds⟩
  · rw [List.nil_append, numberFrac.eq_2 _ fun r h => hy0 rfl 46 (by rw [h]; rfl) rfl]
  · rw [List.cons_append, numberFrac, digits1_append hne hds (hy (List.cons_ne_nil _ _))]
    rfl

theorem numberExpo_none {y : Bytes} (hy : ∀ c ∈ y.head?, c ≠ 101 ∧ c ≠ 69) :
    numberExpo y = .ok ([], y) := by
  rcases y with _ | ⟨c, y⟩
  · rfl
  · obtain ⟨h101, h69⟩ := hy c rfl
    rw [numberExpo.eq_def]
    simp only
    rw [if_neg (by rintro (h | h) <;> contradiction)]

/-- An exponent mark, a plus, a minus or no sign, and digits read as an exponent before anything
but a digit. -/
theorem numberExpo_append {e : UInt8} (he : e = 101 ∨ e = 69) {sg ds y : Bytes}
    (hsg : sg = [] ∨ sg = [43] ∨ sg = [45]) (hne : ds ≠ [])
    (hds : ∀ c ∈ ds, Bytes.isDigit c = true) (hy : ∀ c ∈ y.head?, Bytes.isDigit c = false) :
    numberExpo (e :: sg ++ ds ++ y) = .ok (e :: sg ++ ds, y) := by
  have hd := digits1_append hne hds hy
  rcases hsg with rfl | rfl | rfl
  · -- no sign: the first digit is neither sign
    obtain ⟨d, u, rfl⟩ := List.exists_cons_of_ne_nil hne
    have hdig := hds d List.mem_cons_self
    have hsign : ∀ c : UInt8, Bytes.isDigit c = false → ∀ t, d :: (u ++ y) = c :: t → False :=
      fun c hc t h => by rw [(List.cons.inj h).1, hc] at hdig; exact Bool.false_ne_true hdig
    simp only [List.cons_append, List.nil_append]
    rw [numberExpo.eq_3 _ _ (hsign 43 (by decide)) (hsign 45 (by decide)), if_pos he,
      ← List.cons_append, hd]
    rfl
  · simp only [List.cons_append, List.nil_append]
    rw [numberExpo.eq_1, if_pos he, hd]
    rfl
  · simp only [List.cons_append, List.nil_append]
    rw [numberExpo.eq_2, if_pos he, hd]
    rfl

/-- A number literal, followed by what cannot continue it, reads as itself. -/
theorem number_append_expo (neg : Bool) {whole frac expo rest : Bytes} {e : Int}
    (hw : ∀ b ∈ whole, Bytes.isDigit b = true) (hw0 : whole = [48] ∨ ∃ d t, whole = d :: t ∧ d ≠ 48)
    (hf : frac = [] ∨ ∃ ds, frac = 46 :: ds ∧ ds ≠ [] ∧ ∀ b ∈ ds, Bytes.isDigit b = true)
    (he : NumberText.Exponent expo e) (hr : EndsNumber rest) :
    number (Binary.signed neg (whole ++ frac ++ expo) ++ rest) =
      .ok (Binary.signed neg (whole ++ frac ++ expo), rest) := by
  -- the four stages of the reader, each taking its part and leaving the rest
  have hexpo : numberExpo (expo ++ rest) = .ok (expo, rest) := by
    cases he with
    | none => exact numberExpo_none fun b hb => ⟨(hr b hb).2.2.1, (hr b hb).2.2.2⟩
    | @mk sneg ds hds hne =>
      have hy : ∀ b ∈ rest.head?, Bytes.isDigit b = false := fun b hb => (hr b hb).1
      cases sneg
      · exact numberExpo_append (.inl rfl) (.inr (.inl rfl)) hne hds hy
      · exact numberExpo_append (.inl rfl) (.inr (.inr rfl)) hne hds hy
  -- after the fraction comes the exponent, or what ends the number: no digit and no point
  have hafter : ∀ b ∈ (expo ++ rest).head?, Bytes.isDigit b = false ∧ b ≠ 46 := by
    cases he with
    | none => exact fun b hb => ⟨(hr b hb).1, (hr b hb).2.1⟩
    | mk =>
      intro b hb
      simp only [List.cons_append, List.head?_cons, Option.mem_def, Option.some.injEq] at hb
      subst hb
      decide
  have hfrac : numberFrac (frac ++ (expo ++ rest)) = .ok (frac, expo ++ rest) :=
    numberFrac_append hf (fun _ b hb => (hafter b hb).2) fun _ b hb => (hafter b hb).1
  -- the byte after the integer part is a point or ends the integer part
  have hnext : ∀ b ∈ (frac ++ (expo ++ rest)).head?, Bytes.isDigit b = false := by
    rcases hf with rfl | ⟨ds, rfl, -, -⟩
    · exact fun b hb => (hafter b hb).1
    · intro b hb
      simp only [List.cons_append, List.head?_cons, Option.mem_def, Option.some.injEq] at hb
      rw [← hb]
      rfl
  have hwhole : numberWhole (whole ++ (frac ++ (expo ++ rest))) =
      .ok (whole, frac ++ (expo ++ rest)) :=
    numberWhole_append hw hw0 fun _ => hnext
  -- without a minus the literal starts with a digit, which is no minus
  have hsign : numberSign (Binary.signed neg (whole ++ frac ++ expo) ++ rest) =
      (if neg then [45] else [], whole ++ (frac ++ (expo ++ rest))) := by
    cases neg
    · simp only [Binary.signed, Bool.false_eq_true, if_false, List.append_assoc]
      refine numberSign_append (.inr ⟨rfl, fun c hc h45 => ?_⟩)
      obtain ⟨d, t, rfl⟩ : ∃ d t, whole = d :: t := by
        rcases hw0 with rfl | ⟨d, t, rfl, -⟩
        exacts [⟨48, [], rfl⟩, ⟨d, t, rfl⟩]
      simp only [List.append_eq, List.cons_append, List.head?_cons, Option.mem_def,
        Option.some.injEq] at hc
      have := hw d List.mem_cons_self
      rw [hc, h45] at this
      exact absurd this (by decide)
    · simp [Binary.signed, numberSign]
  rw [number, hsign]
  simp only [hwhole, hfrac, hexpo, bind, Except.bind, pure, Except.pure, List.append_assoc]
  cases neg <;> rfl

/-- A number literal without exponent, followed by what cannot continue it, reads as itself. -/
theorem number_append (neg : Bool) {whole frac rest : Bytes}
    (hw : ∀ b ∈ whole, Bytes.isDigit b = true) (hw0 : whole = [48] ∨ ∃ d t, whole = d :: t ∧ d ≠ 48)
    (hf : frac = [] ∨ ∃ ds, frac = 46 :: ds ∧ ds ≠ [] ∧ ∀ b ∈ ds, Bytes.isDigit b = true)
    (hr : EndsNumber rest) :
    number (Binary.signed neg (whole ++ frac) ++ rest) =
      .ok (Binary.signed neg (whole ++ frac), rest) := by
  have h := number_append_expo neg hw hw0 hf .none hr
  rwa [List.append_nil] at h

/-- Printable ASCII other than the quote and the backslash stands in a literal for itself. -/
theorem escapes_plain {s : Bytes} (h : ∀ b ∈ s, 0x20 ≤ b ∧ b < 0x80 ∧ b ≠ 34 ∧ b ≠ 92) :
    Escapes s s := by
  induction s with
  | nil => exact ⟨content_nil, fun _ => rfl⟩
  | cons b t ih =>
    obtain ⟨hlo, hhi, h34, h92⟩ := h b List.mem_cons_self
    have hb : b.toNat < 0x80 := by simpa [UInt8.lt_iff_toNat_lt] using hhi
    have hc : (Utf8.charOf b.toNat).toNat = b.toNat := Utf8.toNat_charOf (by omega)
    have hdec : Decodes [b] [b] := fun rest => by
      rw [List.singleton_append, unquote_cons h92, Utf8.lead_ascii hhi]
      simp only [List.drop_zero, Utf8.Unit.toChar]
      rw [Utf8.encode_of_lt (by omega), hc]
      simp
    rw [← List.singleton_append]
    exact (Escapes.mk (content_byte hlo h34 h92) hdec).append
      (ih fun x hx => h x (List.mem_cons_of_mem b hx))

/-! ### Values and objects -/

theorem skipSpace_cons {b : UInt8} (hb : isSpace b = false) (rest : Bytes) :
    skipSpace (b :: rest) = b :: rest := by
  simp [skipSpace, hb]

/-- A value's text that reads back as `v` before anything that ends a number, holds no layout
and no control byte. -/
structure Written (t : Bytes) (v : Value) : Prop where
  reads : ∀ fuel depth rest, EndsNumber rest → value (fuel + 1) depth (t ++ rest) = .ok (v, rest)
  compact : ∀ rest, dropLayout (t ++ rest) false false = t ++ dropLayout rest false false
  visible : ∀ b ∈ t, 0x20 ≤ b

/-- A string literal around content that can stand in one. -/
theorem written_string {raw : Bytes} (h : Content raw) :
    Written (34 :: raw ++ [34]) (.string (unquote raw)) where
  reads fuel depth rest _ := by
    simp only [List.cons_append, List.nil_append, List.append_assoc]
    rw [value.eq_2, skipSpace_cons (by decide)]
    simp only
    rw [if_neg (by decide), if_neg (by decide), if_pos trivial, h.span, stringSpan.eq_def]
    simp
  compact rest := by
    simp only [List.cons_append, List.nil_append, List.append_assoc]
    rw [dropLayout, if_neg Bool.false_ne_true, if_neg (by decide), if_pos rfl, h.layout, dropLayout]
    simp
  visible b hb := by
    simp only [List.cons_append, List.mem_cons, List.mem_append, List.not_mem_nil, or_false] at hb
    rcases hb with rfl | hb | rfl
    · decide
    · exact h.visible b hb
    · decide

/-- A string literal as the writer writes it reads back as the string with its UTF-8 repaired. -/
theorem written_quote (embedded : Bool) (s : Bytes) :
    Written (quote embedded s) (.string (Utf8.repair s)) := by
  have h := escapes_quote embedded s
  rw [quote, ← h.unquote_eq]
  exact written_string h.content

/-- Bytes outside string literals that are neither layout nor a quote stay where they are. -/
theorem dropLayout_plain {t : Bytes} (h : ∀ b ∈ t, isSpace b = false ∧ b ≠ 34) (rest : Bytes) :
    dropLayout (t ++ rest) false false = t ++ dropLayout rest false false := by
  induction t with
  | nil => rfl
  | cons b t ih =>
    obtain ⟨hsp, h34⟩ := h b List.mem_cons_self
    rw [List.cons_append, dropLayout, if_neg Bool.false_ne_true, if_neg (by rw [hsp]; decide),
      if_neg h34, ih fun x hx => h x (List.mem_cons_of_mem b hx), List.cons_append]

/-- The literal `null`. -/
theorem written_null : Written (Bytes.ofString "null") .null where
  reads fuel depth rest _ := by
    rw [show Bytes.ofString "null" = [110, 117, 108, 108] by decide +kernel, List.cons_append,
      value.eq_2, skipSpace_cons (by decide)]
    simp only
    rw [if_neg (by decide), if_neg (by decide), if_neg (by decide), if_neg (by decide),
      if_neg (by decide), if_pos trivial, show Bytes.ofString "ull" = [117, 108, 108] by decide +kernel]
    simp [literal, Except.map]
  compact rest := dropLayout_plain (by decide +kernel) rest
  visible := by decide +kernel

theorem mem_number {neg : Bool} {whole frac : Bytes} (hw : ∀ b ∈ whole, Bytes.isDigit b = true)
    (hf : frac = [] ∨ ∃ ds, frac = 46 :: ds ∧ ds ≠ [] ∧ ∀ b ∈ ds, Bytes.isDigit b = true) :
    ∀ b ∈ Binary.signed neg (whole ++ frac), b.toNat = 45 ∨ b.toNat = 46 ∨
      (48 ≤ b.toNat ∧ b.toNat ≤ 57) := by
  have hbody : ∀ b ∈ whole ++ frac, b.toNat = 46 ∨ (48 ≤ b.toNat ∧ b.toNat ≤ 57) := by
    intro b hb
    rcases List.mem_append.mp hb with hb | hb
    · exact .inr (NumberText.isDigit_iff.mp (hw b hb))
    · rcases hf with rfl | ⟨ds, rfl, -, hds⟩
      · exact absurd hb List.not_mem_nil
      · rcases List.mem_cons.mp hb with rfl | hb
        · exact .inl rfl
        · exact .inr (NumberText.isDigit_iff.mp (hds b hb))
  cases neg
  · exact fun b hb => .inr (hbody b hb)
  · intro b hb
    rcases List.mem_cons.mp hb with rfl | hb
    · exact .inl rfl
    · exact .inr (hbody b hb)

/-- A number literal: it starts with a minus or a digit, holds no layout, quote or control byte,
and the reader's number grammar takes it whole before anything that ends a number. -/
theorem written_of_number {t r : Bytes} {b : UInt8} (ht : t = b :: r)
    (hb : b = 45 ∨ Bytes.isDigit b = true)
    (hbytes : ∀ c ∈ t, isSpace c = false ∧ c ≠ 34 ∧ 0x20 ≤ c)
    (hnum : ∀ rest, EndsNumber rest → number (t ++ rest) = .ok (t, rest)) :
    Written t (.number t) where
  reads fuel depth rest hr := by
    -- the literal starts with a minus or a digit, which no other kind of value starts with
    have hne : ∀ c : UInt8, c.toNat ≠ 45 → (c.toNat < 48 ∨ 57 < c.toNat) → b ≠ c := by
      intro c h45 hdig h
      subst h
      rcases hb with h | h
      · exact h45 (by rw [h]; rfl)
      · have := NumberText.isDigit_iff.mp h; omega
    rw [value.eq_2, ht, List.cons_append,
      skipSpace_cons (hbytes b (by rw [ht]; exact List.mem_cons_self)).1]
    simp only
    rw [if_neg (hne 123 (by decide) (by decide)), if_neg (hne 91 (by decide) (by decide)),
      if_neg (hne 34 (by decide) (by decide)), if_neg (hne 116 (by decide) (by decide)),
      if_neg (hne 102 (by decide) (by decide)), if_neg (hne 110 (by decide) (by decide)),
      if_pos hb, ← List.cons_append, ← ht, hnum rest hr]
    rfl
  compact rest := dropLayout_plain (fun c hc => ⟨(hbytes c hc).1, (hbytes c hc).2.1⟩) rest
  visible c hc := (hbytes c hc).2.2

theorem signed_append (neg : Bool) (a b : Bytes) :
    Binary.signed neg (a ++ b) = Binary.signed neg a ++ b := by
  cases neg <;> rfl

end Json

namespace NumberText

open Json

/-- The bytes of a decimal literal: a minus, a point, an exponent mark or sign, or digits. -/
theorem Literal.mem {t : Bytes} {neg : Bool} {m f : Nat} {e : Int}
    (h : Literal t neg m f e) :
    ∀ b ∈ t, b.toNat = 45 ∨ b.toNat = 46 ∨ b.toNat = 101 ∨ b.toNat = 43 ∨
      (48 ≤ b.toNat ∧ b.toNat ≤ 57) := by
  rcases h with @⟨neg, whole, frac, expo, e, hw, hw0, hf, he⟩
  intro b hb
  rw [signed_append] at hb
  rcases List.mem_append.mp hb with hb | hb
  · -- the sign, the whole part and the fraction
    have hfrac : fraction frac = [] ∨ ∃ ds, fraction frac = 46 :: ds ∧
        ds ≠ [] ∧ ∀ b ∈ ds, Bytes.isDigit b = true := by
      by_cases h0 : frac = []
      · exact .inl (if_pos h0)
      · exact .inr ⟨frac, fraction_of_ne h0, h0, hf⟩
    rcases mem_number hw hfrac b hb with h | h | h
    · exact .inl h
    · exact .inr (.inl h)
    · exact .inr (.inr (.inr (.inr h)))
  · -- the exponent: its mark, its sign and its digits
    cases he with
    | none => exact absurd hb List.not_mem_nil
    | @mk sneg ds hds =>
      rcases List.mem_cons.mp hb with rfl | hb
      · exact .inr (.inr (.inl rfl))
      rcases List.mem_cons.mp hb with rfl | hb
      · cases sneg
        · exact .inr (.inr (.inr (.inl rfl)))
        · exact .inl rfl
      · exact .inr (.inr (.inr (.inr (isDigit_iff.mp (hds b hb)))))

/-- **A decimal literal reads back** as a JSON number literal, before anything that ends a
number. -/
theorem Literal.written {t : Bytes} {neg : Bool} {m f : Nat} {e : Int}
    (h : Literal t neg m f e) : Written t (.number t) := by
  have hmem := h.mem
  rcases h with @⟨neg, whole, frac, expo, e, hw, hw0, hf, he⟩
  obtain ⟨d, w, rfl, hd⟩ := exists_cons_of_whole hw hw0
  have hfrac : fraction frac = [] ∨ ∃ ds, fraction frac = 46 :: ds ∧
      ds ≠ [] ∧ ∀ b ∈ ds, Bytes.isDigit b = true := by
    by_cases h0 : frac = []
    · exact .inl (if_pos h0)
    · exact .inr ⟨frac, fraction_of_ne h0, h0, hf⟩
  -- the literal starts with its minus, or with its first digit
  obtain ⟨b, r, hbr, hb⟩ : ∃ b r, Binary.signed neg (d :: w ++ fraction frac ++ expo) =
      b :: r ∧ (b = 45 ∨ Bytes.isDigit b = true) := by
    cases neg
    · exact ⟨d, _, rfl, .inr hd⟩
    · exact ⟨45, _, rfl, .inl rfl⟩
  refine written_of_number hbr hb (fun c hc => ?_)
    fun rest hr => number_append_expo neg hw hw0 hfrac he hr
  have := hmem c hc
  refine ⟨?_, fun h => by rw [h] at this; simp at this, ?_⟩
  · simp only [isSpace, Bool.or_eq_false_iff, beq_eq_false_iff_ne, ne_eq, UInt8.ext_iff]
    simp only [UInt8.toNat_ofNat]
    omega
  · rw [UInt8.le_iff_toNat_le]
    simp only [UInt8.toNat_ofNat]
    omega

end NumberText

namespace Json

/-- A number literal without exponent. -/
theorem written_number (neg : Bool) {whole frac : Bytes} (hw : ∀ b ∈ whole, Bytes.isDigit b = true)
    (hw0 : whole = [48] ∨ ∃ d t, whole = d :: t ∧ d ≠ 48)
    (hf : frac = [] ∨ ∃ ds, frac = 46 :: ds ∧ ds ≠ [] ∧ ∀ b ∈ ds, Bytes.isDigit b = true) :
    Written (Binary.signed neg (whole ++ frac)) (.number (Binary.signed neg (whole ++ frac))) := by
  rcases hf with rfl | ⟨ds, rfl, hne, hds⟩
  · have h := (@NumberText.Literal.mk neg whole [] [] 0 hw hw0 (by simp) .none).written
    rwa [List.append_nil, show NumberText.fraction [] = [] from rfl] at h
  · have h := (NumberText.Literal.mk neg hw hw0 hds .none).written
    rwa [List.append_nil, NumberText.fraction_of_ne hne] at h

/-- A number literal without exponent: an optional minus, the integer digits (`0`, or digits not
starting with `0`) and an optional point with at least one digit after it. -/
inductive PlainNumber : Bytes → Prop
  | mk (neg : Bool) {whole frac : Bytes} (hw : ∀ b ∈ whole, Bytes.isDigit b = true)
      (hw0 : whole = [48] ∨ ∃ d t, whole = d :: t ∧ d ≠ 48)
      (hf : frac = [] ∨ ∃ ds, frac = 46 :: ds ∧ ds ≠ [] ∧ ∀ b ∈ ds, Bytes.isDigit b = true) :
      PlainNumber (Binary.signed neg (whole ++ frac))

namespace PlainNumber

variable {t : Bytes}

theorem written (h : PlainNumber t) : Written t (.number t) := by
  cases h with
  | mk neg hw hw0 hf => exact written_number neg hw hw0 hf

theorem lt_of_mem (h : PlainNumber t) {b : UInt8} (hb : b ∈ t) : b < 0x80 := by
  cases h with
  | mk neg hw _ hf =>
    have := mem_number hw hf b hb
    rw [UInt8.lt_iff_toNat_lt]
    simp only [UInt8.toNat_ofNat]
    omega

end PlainNumber

theorem stringSpan_quote (rest acc : Bytes) : stringSpan (34 :: rest) acc = .ok (acc.reverse, rest) := by
  rw [stringSpan.eq_def]
  rfl

/-- One member of an object: a quoted key, a colon and a written value; what comes next is
decided by the byte after the value. -/
theorem members_step {raw t : Bytes} {v : Value} (hk : Content raw) (hv : Written t v)
    (fuel depth : Nat) (acc : List (Bytes × Value)) {rest : Bytes} (hr : EndsNumber rest) :
    members (fuel + 1 + 1) depth (34 :: raw ++ 34 :: 58 :: t ++ rest) acc =
      match skipSpace rest with
      | [] => .error .truncated
      | 44 :: rest' => members (fuel + 1) depth rest' ((unquote raw, v) :: acc)
      | 125 :: rest' => .ok (.object ((unquote raw, v) :: acc).reverse, rest')
      | _ => .error .invalid := by
  simp only [List.cons_append, List.append_assoc]
  rw [members.eq_2, skipSpace_cons (by decide)]
  simp only
  rw [hk.span, stringSpan_quote, List.append_nil, List.reverse_reverse]
  simp only
  rw [skipSpace_cons (by decide)]
  simp only
  -- the statement's match and the definition's are two matchers here, equal by unfolding
  rewrite [hv.reads fuel depth rest hr]
  rfl

/-- The members of an object after its opening brace, through the closing brace: quoted keys,
colons and written values, separated by commas. -/
inductive MembersText : Bytes → List (Bytes × Value) → Prop
  | last {raw t : Bytes} {v : Value} (hk : Content raw) (hv : Written t v) :
      MembersText (34 :: raw ++ 34 :: 58 :: t ++ [125]) [(unquote raw, v)]
  | cons {raw t m : Bytes} {v : Value} {ms : List (Bytes × Value)} (hk : Content raw)
      (hv : Written t v) (hm : MembersText m ms) :
      MembersText (34 :: raw ++ 34 :: 58 :: t ++ 44 :: m) ((unquote raw, v) :: ms)

namespace MembersText

variable {m : Bytes} {ms : List (Bytes × Value)}

theorem length_le (h : MembersText m ms) : ms.length ≤ m.length := by
  induction h with
  | last => simp
  | cons _ _ _ ih => simp only [List.length_cons, List.cons_append, List.length_append]; omega

theorem head (h : MembersText m ms) : ∃ r, m = 34 :: r := by
  cases h <;> exact ⟨_, rfl⟩

/-- Members text holds no control byte. -/
theorem visible (h : MembersText m ms) : ∀ b ∈ m, 0x20 ≤ b := by
  induction h with
  | last hk hv =>
    intro b hb
    simp only [List.cons_append, List.mem_cons, List.mem_append, List.not_mem_nil, or_false] at hb
    rcases hb with rfl | (hb | rfl | rfl | hb) | rfl
    · decide
    · exact hk.visible b hb
    · decide
    · decide
    · exact hv.visible b hb
    · decide
  | cons hk hv _ ih =>
    intro b hb
    simp only [List.cons_append, List.mem_cons, List.mem_append] at hb
    rcases hb with rfl | (hb | rfl | rfl | hb) | rfl | hb
    · decide
    · exact hk.visible b hb
    · decide
    · decide
    · exact hv.visible b hb
    · decide
    · exact ih b hb

/-- The members read one by one, each taking one unit of fuel. -/
theorem members (h : MembersText m ms) (depth : Nat) :
    ∀ fuel acc rest, ms.length ≤ fuel →
      Json.members (fuel + 1) depth (m ++ rest) acc = .ok (.object (acc.reverse ++ ms), rest) := by
  induction h with
  | last hk hv =>
    intro fuel acc rest hfuel
    obtain ⟨f, rfl⟩ : ∃ f, fuel = f + 1 := ⟨fuel - 1, by simp at hfuel; omega⟩
    rw [List.append_assoc, List.singleton_append, members_step hk hv f depth acc (fun b hb => by
      simp only [List.head?_cons, Option.mem_def, Option.some.injEq] at hb
      subst hb; decide),
      skipSpace_cons (by decide)]
    simp
  | @cons raw t m' v ms' hk hv _ ih =>
    intro fuel acc rest hfuel
    obtain ⟨f, rfl⟩ : ∃ f, fuel = f + 1 := ⟨fuel - 1, by simp at hfuel; omega⟩
    rw [List.append_assoc, @members_step raw t v hk hv f depth acc (44 :: m' ++ rest) (fun b hb => by
      simp only [List.cons_append, List.head?_cons, Option.mem_def, Option.some.injEq] at hb
      subst hb; decide), List.cons_append, skipSpace_cons (by decide)]
    simp only
    rw [ih f _ rest (by simp at hfuel; omega)]
    simp

/-- Layout is only ever inside the keys' and values' string literals. -/
theorem compact (h : MembersText m ms) (rest : Bytes) :
    dropLayout (m ++ rest) false false = m ++ dropLayout rest false false := by
  induction h generalizing rest with
  | last hk hv =>
    simp only [List.cons_append, List.append_assoc, List.nil_append]
    rw [dropLayout, if_neg Bool.false_ne_true, if_neg (by decide), if_pos rfl, hk.layout,
      dropLayout, if_pos rfl, if_neg Bool.false_ne_true, if_neg (by decide), if_pos rfl,
      dropLayout, if_neg Bool.false_ne_true, if_neg (by decide), if_neg (by decide),
      hv.compact, dropLayout, if_neg Bool.false_ne_true, if_neg (by decide), if_neg (by decide)]
  | cons hk hv _ ih =>
    simp only [List.cons_append, List.append_assoc]
    rw [dropLayout, if_neg Bool.false_ne_true, if_neg (by decide), if_pos rfl, hk.layout,
      dropLayout, if_pos rfl, if_neg Bool.false_ne_true, if_neg (by decide), if_pos rfl,
      dropLayout, if_neg Bool.false_ne_true, if_neg (by decide), if_neg (by decide),
      hv.compact, dropLayout, if_neg Bool.false_ne_true, if_neg (by decide), if_neg (by decide),
      ih]

/-- An object read as a value, at a depth where one more level of nesting is allowed. -/
theorem value (h : MembersText m ms) {fuel depth : Nat} (hdepth : depth < maxDepth)
    (hfuel : ms.length < fuel) (rest : Bytes) :
    Json.value (fuel + 1) depth (123 :: m ++ rest) = .ok (.object ms, rest) := by
  obtain ⟨f, rfl⟩ : ∃ f, fuel = f + 1 := ⟨fuel - 1, by omega⟩
  obtain ⟨r, rfl⟩ := h.head
  rw [value.eq_2, List.cons_append, skipSpace_cons (by decide)]
  simp only
  rw [if_pos trivial, if_neg (by omega), List.cons_append, skipSpace_cons (by decide)]
  -- the first member's quote is no closing brace, so the members are read
  split
  · next heq => exact absurd (List.cons.inj heq).1 (by decide)
  · rw [← List.cons_append, h.members (depth + 1) f [] rest (by omega)]
    rfl

/-- An object read as a whole text. -/
theorem readWhole (h : MembersText m ms) : Json.readWhole (123 :: m) = .ok (.object ms) := by
  have hlen := h.length_le
  have hfuel : fuelFor (123 :: m) = (2 * m.length + 3) + 1 := by
    simp only [fuelFor, List.length_cons]; omega
  rw [Json.readWhole, readValue, hfuel, ← List.append_nil (123 :: m),
    h.value (by decide) (by omega)]
  rfl

end MembersText

/-- The members of an object as the writer writes them, through the closing brace, are members
text of the same members when each key is left alone by the repair of its UTF-8 and each value's
text reads back as the value. -/
theorem membersText_renderMembers (embedded : Bool) : ∀ {ms : List (Bytes × Value)}, ms ≠ [] →
    (∀ m ∈ ms, Utf8.repair m.1 = m.1 ∧ Written (m.2.render embedded) m.2) →
    MembersText (Value.render.renderMembers embedded ms ++ [125]) ms
  | [], hne, _ => absurd rfl hne
  | [(k, v)], _, hms => by
    obtain ⟨hk, hv⟩ := hms (k, v) List.mem_cons_self
    have hq := escapes_quote embedded k
    have h := MembersText.last hq.content hv
    rw [hq.unquote_eq, hk] at h
    simpa [Value.render.renderMembers, quote] using h
  | (k, v) :: m :: rest, _, hms => by
    obtain ⟨hk, hv⟩ := hms (k, v) List.mem_cons_self
    have hq := escapes_quote embedded k
    have h := MembersText.cons hq.content hv (membersText_renderMembers embedded
      (List.cons_ne_nil m rest) fun x hx => hms x (List.mem_cons_of_mem _ hx))
    rw [hq.unquote_eq, hk] at h
    simpa [Value.render.renderMembers, quote] using h

end Json

end TelemetryBridge
