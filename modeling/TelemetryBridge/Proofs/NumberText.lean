import TelemetryBridge.Proofs.ShortestDecimal
import TelemetryBridge.Proofs.Utf8Text
import TelemetryBridge.Decimal.Layout
import TelemetryBridge.Decimal.Reader
import Mathlib.Data.List.Basic

/-!
# Number texts read back as their numbers

The bridge writes a double in *wire* form (positional, `.0` added to a whole number) and an
integer as its decimal digits; a reader takes each back to the same number:

* `readFloat_wireNumber`: the wire text of a finite double reads back as that double, `-0`
  included. The digits are those of the shortest decimal, which lies in the double's rounding
  interval (`Decimal.nearest_of_shortest`); what remains is that the reader sees the digits and
  the point where the layout put them.
* `readInt64_ofInt`: the decimal text of a 64-bit integer reads back as the integer.

The texts are described by `NumberText.PointForm`: a sign, a whole part without leading zeros, a
point and more digits. The same description serves the grammar of JSON numbers.
-/

namespace TelemetryBridge

namespace Bytes

/-! ### Decimal digits -/

/-- The bytes of characters below `0x80` are their codes. -/
theorem flatMap_encode_of_lt {cs : List Char} (h : ∀ c ∈ cs, c.toNat < 0x80) :
    cs.flatMap Utf8.encode = cs.map fun c => UInt8.ofNat c.toNat := by
  induction cs with
  | nil => rfl
  | cons c cs ih =>
    rw [List.flatMap_cons, Utf8.encode_of_lt (h c List.mem_cons_self),
      ih fun d hd => h d (List.mem_cons_of_mem c hd), List.map_cons, List.singleton_append]

theorem toNat_of_mem_toDigits {n : Nat} {c : Char} (hc : c ∈ Nat.toDigits 10 n) :
    48 ≤ c.toNat ∧ c.toNat ≤ 57 := by
  have := Char.isDigit_iff_toNat.mp (Nat.isDigit_of_mem_toDigits (by decide) (by decide) hc)
  simpa using this

/-- The decimal text of a number is its digit characters as bytes. -/
theorem ofNat_eq_map (n : Nat) : ofNat n = (Nat.toDigits 10 n).map fun c => UInt8.ofNat c.toNat := by
  rw [ofNat, ofString_eq, Nat.toString_eq_ofList_toDigits, String.toList_ofList,
    flatMap_encode_of_lt fun c hc => by have := toNat_of_mem_toDigits hc; omega]

theorem isDigit_of_mem_ofNat {n : Nat} {b : UInt8} (hb : b ∈ ofNat n) : isDigit b = true := by
  rw [ofNat_eq_map, List.mem_map] at hb
  obtain ⟨c, hc, rfl⟩ := hb
  have := toNat_of_mem_toDigits hc
  simp only [isDigit, Bool.and_eq_true, decide_eq_true_eq, UInt8.le_iff_toNat_le]
  rw [Utf8.toNat_byte (by omega)]
  simp
  omega

theorem length_ofNat (n : Nat) : (ofNat n).length = NumberText.decimalWidth n := by
  rw [ofNat_eq_map, List.length_map, NumberText.decimalWidth, Nat.toString_eq_ofList_toDigits,
    String.length_ofList]

/-- The digits of the decimal text of `n` have the value `n`. -/
theorem digitsValue_ofNat (n : Nat) : digitsValue (ofNat n) = n := by
  rw [digitsValue, ofNat_eq_map, List.foldl_map]
  have : (Nat.toDigits 10 n).foldl (fun acc c => 10 * acc + digitValue (UInt8.ofNat c.toNat)) 0 =
      Nat.ofDigitChars 10 (Nat.toDigits 10 n) 0 := by
    rw [Nat.ofDigitChars_eq_foldl]
    refine List.foldl_ext _ _ _ fun a c hc => ?_
    have := toNat_of_mem_toDigits hc
    simp only [digitValue, Utf8.toNat_byte (show c.toNat < 256 by omega)]
    rfl
  rw [this, Nat.ofDigitChars_ten_toDigits]

/-- Reading digits after a value `m` shifts `m` past them. -/
theorem foldl_digits (ds : Bytes) (m : Nat) :
    ds.foldl (fun acc b => 10 * acc + digitValue b) m = 10 ^ ds.length * m + digitsValue ds := by
  induction ds generalizing m with
  | nil => simp [digitsValue]
  | cons b ds ih =>
    have hcons : digitsValue (b :: ds) = 10 ^ ds.length * (10 * 0 + digitValue b) + digitsValue ds := by
      rw [← ih]
      rfl
    rw [List.foldl_cons, ih, hcons, List.length_cons, Nat.pow_succ]
    ring

theorem digitsValue_append (a b : Bytes) :
    digitsValue (a ++ b) = 10 ^ b.length * digitsValue a + digitsValue b := by
  rw [digitsValue, List.foldl_append, ← digitsValue, foldl_digits]

theorem digitsValue_cons (b : UInt8) (ds : Bytes) :
    digitsValue (b :: ds) = 10 ^ ds.length * digitValue b + digitsValue ds := by
  rw [← List.singleton_append, digitsValue_append]
  simp [digitsValue]

theorem digitsValue_zeros (k : Nat) : digitsValue (List.replicate k 48) = 0 := by
  induction k with
  | zero => rfl
  | succ k ih =>
    rw [List.replicate_succ', digitsValue_append, ih]
    rfl

theorem isDigit_of_mem_zeros {k : Nat} {b : UInt8} (hb : b ∈ List.replicate k (48 : UInt8)) :
    isDigit b = true := by
  rw [List.eq_of_mem_replicate hb]
  rfl

/-- The leading digit of a positive number is not zero. -/
theorem head?_toDigits_ne {n : Nat} (hn : 0 < n) : (Nat.toDigits 10 n).head? ≠ some '0' := by
  induction n using Nat.strong_induction_on with
  | _ n ih =>
    rw [Nat.toDigits_eq_if (by decide)]
    split
    next hlt =>
      intro h
      have hc := Nat.toNat_digitChar_of_lt_ten hlt
      simp only [List.head?_cons, Option.some.injEq] at h
      rw [h] at hc
      simp at hc
      omega
    next hge =>
      rw [List.head?_append_of_ne_nil _ Nat.toDigits_ne_nil]
      exact ih (n / 10) (by omega) (by omega)

theorem head?_ofNat_ne {n : Nat} (hn : 0 < n) : (ofNat n).head? ≠ some 48 := by
  rw [ofNat_eq_map, List.head?_map]
  cases hd : (Nat.toDigits 10 n).head? with
  | none => simp
  | some c =>
    have hc := toNat_of_mem_toDigits (List.mem_of_head? hd)
    simp only [Option.map_some, ne_eq, Option.some.injEq]
    intro h
    have h48 : c.toNat = 48 := by
      have := congrArg UInt8.toNat h
      rw [Utf8.toNat_byte (by omega)] at this
      simpa using this
    apply head?_toDigits_ne hn
    rw [hd, ← Char.ofNat_toNat c, h48]

/-- The decimal text of a positive number is a first digit other than `0` and the rest. -/
theorem ofNat_eq_cons {n : Nat} (hn : 0 < n) : ∃ d ds, ofNat n = d :: ds ∧ d ≠ 48 := by
  cases h : ofNat n with
  | nil => exact absurd h (by rw [ofNat_eq_map]; simp)
  | cons d ds =>
    refine ⟨d, ds, rfl, fun h48 => head?_ofNat_ne hn ?_⟩
    rw [h, h48]
    rfl

/-- A positive number has as many decimal digits as its decimal text has bytes. -/
theorem pow_length_ofNat {n : Nat} (hn : 0 < n) :
    10 ^ ((ofNat n).length - 1) ≤ n ∧ n < 10 ^ (ofNat n).length := by
  have hlen : 0 < (ofNat n).length := by
    rw [ofNat_eq_map, List.length_map]
    exact Nat.length_toDigits_pos
  have hiff : ∀ k, 0 < k → ((Nat.toDigits 10 n).length ≤ k ↔ n < 10 ^ k) :=
    fun k hk => Nat.length_toDigits_le_iff (by decide) hk
  rw [ofNat_eq_map, List.length_map] at hlen ⊢
  constructor
  · rcases Nat.lt_or_ge 1 (Nat.toDigits 10 n).length with h1 | h1
    · exact Nat.le_of_not_lt fun h => by
        have := (hiff _ (by omega)).mpr h
        omega
    · rw [show (Nat.toDigits 10 n).length - 1 = 0 by omega]
      exact hn
  · exact (hiff _ hlen).mp (Nat.le_refl _)

theorem ofString_append (s t : String) : ofString (s ++ t) = ofString s ++ ofString t := by
  simp only [ofString_eq, String.toList_append, List.flatMap_append]

/-- The decimal text of an integer: a minus sign before a negative one, then the digits of its
absolute value. -/
theorem ofInt_eq (n : Int) : ofInt n = Binary.signed (decide (n < 0)) (ofNat n.natAbs) := by
  unfold ofInt ofNat
  rw [Int.toString_eq_repr, Int.repr_eq_if, Nat.toString_eq_repr]
  split
  next h =>
    rw [Binary.signed, if_neg (by simp; omega)]
    congr
    omega
  next h =>
    rw [Binary.signed, if_pos (by simp; omega), ofString_append,
      show ofString "-" = [45] by decide +kernel, List.singleton_append]
    congr
    omega

end Bytes

namespace NumberText

/-! ### Digit bytes in a number text -/

theorem isDigit_iff {b : UInt8} : Bytes.isDigit b = true ↔ 48 ≤ b.toNat ∧ b.toNat ≤ 57 := by
  simp [Bytes.isDigit, UInt8.le_iff_toNat_le]

/-- A digit is none of the bytes that a number text gives a meaning of its own. -/
theorem ne_of_isDigit {b c : UInt8} (hb : Bytes.isDigit b = true) (hc : Bytes.isDigit c = false) :
    b ≠ c := by
  rintro rfl
  rw [hb] at hc
  cases hc

theorem lowerAscii_of_isDigit {b : UInt8} (hb : Bytes.isDigit b = true) :
    Bytes.lowerAscii b = b := by
  rw [isDigit_iff] at hb
  rw [Bytes.lowerAscii, if_neg]
  simp only [UInt8.le_iff_toNat_le, not_and]
  simp
  omega

theorem hexValue?_of_isDigit {b : UInt8} (hb : Bytes.isDigit b = true) :
    Bytes.hexValue? b = some (Bytes.digitValue b) := by
  rw [isDigit_iff] at hb
  rw [Bytes.hexValue?, if_pos (by simp only [UInt8.le_iff_toNat_le]; simp; omega)]
  rfl

/-- Reading decimal digits into a mantissa: each digit is appended to the value, and counted
after the point once the point has been read. -/
theorem mantissa_digits_append {ds : Bytes} (hds : ∀ b ∈ ds, Bytes.isDigit b = true)
    (rest : Bytes) (m f : Nat) (dot any u : Bool) :
    mantissa false (ds ++ rest) m f dot any u =
      mantissa false rest (ds.foldl (fun acc b => 10 * acc + Bytes.digitValue b) m)
        (if dot then f + ds.length else f) dot (any || !ds.isEmpty) u := by
  induction ds generalizing m f any with
  | nil => simp
  | cons b ds ih =>
    have hb := hds b List.mem_cons_self
    rw [List.cons_append, mantissa, if_neg (ne_of_isDigit hb rfl), if_neg (ne_of_isDigit hb rfl),
      if_pos (by simp [isBaseDigit, hb]), ih fun c hc => hds c (List.mem_cons_of_mem b hc),
      hexValue?_of_isDigit hb, List.foldl_cons, Option.getD_some, if_neg Bool.false_ne_true,
      Nat.mul_comm m 10]
    cases dot <;> simp [Nat.add_assoc, Nat.add_comm 1]

theorem signSplit_signed (neg : Bool) {d : UInt8} {r : Bytes} (hd : Bytes.isDigit d = true) :
    signSplit (Binary.signed neg (d :: r)) = (neg, d :: r) := by
  cases neg
  · unfold signSplit Binary.signed
    split
    next r' h => cases h; exact absurd hd (by decide)
    next r' h => cases h; exact absurd hd (by decide)
    next => rfl
  · rfl

/-- A text that starts with a digit shares no prefix with a word that starts with a letter. -/
theorem commonPrefixIgnoreCase_digit {d c : UInt8} {r w : Bytes} (hd : Bytes.isDigit d = true)
    (hc : Bytes.lowerAscii c ≠ d) : commonPrefixIgnoreCase (d :: r) (c :: w) = 0 := by
  simp [commonPrefixIgnoreCase, lowerAscii_of_isDigit hd, Ne.symm hc]

/-- A number text that starts with a digit is no special text. -/
theorem special?_of_digit {neg : Bool} {d : UInt8} {r : Bytes} (hd : Bytes.isDigit d = true) :
    special? (Binary.signed neg (d :: r)) = none := by
  have hinf : Bytes.ofString "infinity" = [105, 110, 102, 105, 110, 105, 116, 121] := by
    decide +kernel
  have hnan : Bytes.ofString "nan" = [110, 97, 110] := by decide +kernel
  have hi := commonPrefixIgnoreCase_digit (r := r) (c := 105) (w := [110, 102, 105, 110, 105, 116, 121]) hd
    (ne_of_isDigit hd rfl).symm
  have hn := commonPrefixIgnoreCase_digit (r := r) (c := 110) (w := [97, 110]) hd
    (ne_of_isDigit hd rfl).symm
  unfold special?
  cases neg
  · simp only [Binary.signed, Bool.false_eq_true, if_false]
    split
    next t h => cases h; exact absurd hd (by decide)
    next t h => cases h; exact absurd hd (by decide)
    next => simp [hinf, hnan, hi, hn]
  · simp [Binary.signed, hinf, hi]

/-! ### Number literals -/

/-- The exponent of a number literal: nothing, or `e`, a sign and one to four digits; `e` is its
signed value. -/
inductive Exponent : Bytes → Int → Prop
  | none : Exponent [] 0
  | mk (neg : Bool) {ds : Bytes} (hds : ∀ b ∈ ds, Bytes.isDigit b = true) (hne : ds ≠ [])
      (hlen : ds.length ≤ 4) :
      Exponent (101 :: (if neg then 45 else 43) :: ds)
        (if neg then -(Bytes.digitsValue ds : Int) else Bytes.digitsValue ds)

/-- The point and the digits after it; nothing when there are none. -/
def fraction (frac : Bytes) : Bytes := if frac = [] then [] else 46 :: frac

theorem fraction_of_ne {frac : Bytes} (h : frac ≠ []) : fraction frac = 46 :: frac := if_neg h

/-- A decimal number literal: an optional minus, a whole part that is `0` or starts with another
digit, the digits after the point if any, and an exponent. `mant` is the value of all the
mantissa digits, `frac` the count of those after the point, `exp` the exponent's value. -/
inductive Literal : Bytes → Bool → Nat → Nat → Int → Prop
  | mk (neg : Bool) {whole frac expo : Bytes} {e : Int}
      (hw : ∀ b ∈ whole, Bytes.isDigit b = true) (hw0 : whole = [48] ∨ ∃ d t, whole = d :: t ∧ d ≠ 48)
      (hf : ∀ b ∈ frac, Bytes.isDigit b = true) (he : Exponent expo e) :
      Literal (Binary.signed neg (whole ++ fraction frac ++ expo)) neg
        (Bytes.digitsValue (whole ++ frac)) frac.length e

theorem digitValue_le {b : UInt8} (hb : Bytes.isDigit b = true) : Bytes.digitValue b ≤ 9 := by
  have := isDigit_iff.mp hb
  unfold Bytes.digitValue
  omega

/-- Digits have a value below ten to their count. -/
theorem digitsValue_lt {ds : Bytes} (hds : ∀ b ∈ ds, Bytes.isDigit b = true) :
    Bytes.digitsValue ds < 10 ^ ds.length := by
  induction ds with
  | nil => simp [Bytes.digitsValue]
  | cons b ds ih =>
    have h9 := digitValue_le (hds b List.mem_cons_self)
    have hlt := ih fun c hc => hds c (List.mem_cons_of_mem b hc)
    rw [Bytes.digitsValue_cons, List.length_cons, Nat.pow_succ]
    nlinarith

/-- Exponent digits are read exactly while their value stays below `10^5`: the reader stops
adding digits only once the value has reached `10^4`. -/
theorem expDigits_exact {ds : Bytes} (hds : ∀ b ∈ ds, Bytes.isDigit b = true) (e : Nat)
    (he : 10 ^ ds.length * e + Bytes.digitsValue ds < 100000) :
    expDigits ds e false = (10 ^ ds.length * e + Bytes.digitsValue ds, false, []) := by
  induction ds generalizing e with
  | nil => simp [expDigits, Bytes.digitsValue]
  | cons b ds ih =>
    have hb := hds b List.mem_cons_self
    have hpow : 10 ^ (b :: ds).length = 10 ^ ds.length * 10 := by
      rw [List.length_cons, Nat.pow_succ]
    have h1 : 1 ≤ 10 ^ ds.length := Nat.one_le_pow _ _ (by decide)
    rw [Bytes.digitsValue_cons, hpow] at he
    -- the value so far is below `10^4`, or the digits after it would pass `10^5`
    have hlt : e < 10000 := by nlinarith
    have hstep : 10 ^ ds.length * (e * 10 + Bytes.digitValue b) + Bytes.digitsValue ds < 100000 := by
      nlinarith
    rw [expDigits, if_neg (ne_of_isDigit hb rfl), if_pos hb, if_pos hlt,
      ih (fun c hc => hds c (List.mem_cons_of_mem b hc)) _ hstep, Bytes.digitsValue_cons, hpow]
    ring_nf

namespace Exponent

variable {expo : Bytes} {e : Int}

/-- The mantissa stops where the exponent starts. -/
theorem mantissa (h : Exponent expo e) (m f : Nat) (dot any u : Bool) :
    NumberText.mantissa false expo m f dot any u = (m, f, any, u, expo) := by
  cases h with
  | none => rfl
  | mk => rw [NumberText.mantissa, if_neg (by decide), if_neg (by decide), if_neg (by decide)]

theorem exponent? (h : Exponent expo e) : NumberText.exponent? false expo = some (e, false, []) := by
  cases h with
  | none => rfl
  | @mk neg ds hds hne hlen =>
    obtain ⟨d, t, rfl⟩ := List.exists_cons_of_ne_nil hne
    have hd := hds d List.mem_cons_self
    -- at most four digits stay below `10^4`
    have hsmall : 10 ^ (d :: t).length * 0 + Bytes.digitsValue (d :: t) < 100000 := by
      have h4 : 10 ^ (d :: t).length ≤ 10 ^ 4 := Nat.pow_le_pow_right (by decide) hlen
      have := digitsValue_lt hds
      omega
    have hexp := expDigits_exact hds 0 hsmall
    rw [Nat.mul_zero, Nat.zero_add] at hexp
    cases neg <;> simp [NumberText.exponent?, Bytes.lowerAscii, hd, hexp]

end Exponent

/-- The mantissa of a decimal literal: the whole part, the point and the fraction, up to an
exponent text at which it stops. -/
theorem mantissa_decimal {whole frac expo : Bytes} (hw : ∀ b ∈ whole, Bytes.isDigit b = true)
    (hwne : whole ≠ []) (hf : ∀ b ∈ frac, Bytes.isDigit b = true)
    (hm : ∀ m f dot any u, mantissa false expo m f dot any u = (m, f, any, u, expo)) :
    mantissa false (whole ++ fraction frac ++ expo) 0 0 false false false =
      (Bytes.digitsValue (whole ++ frac), frac.length, true, false, expo) := by
  rw [List.append_assoc, mantissa_digits_append hw]
  unfold fraction
  split
  · next h0 =>
    subst h0
    rw [List.nil_append, hm]
    simp [Bytes.digitsValue, hwne]
  · rw [List.cons_append, NumberText.mantissa, if_neg (by decide), if_pos rfl, if_neg (by decide),
      mantissa_digits_append hf, hm]
    simp [Bytes.digitsValue, List.foldl_append, hwne]

/-- A whole part, `0` or led by another digit, starts with a digit. -/
theorem exists_cons_of_whole {whole : Bytes} (hw : ∀ b ∈ whole, Bytes.isDigit b = true)
    (hw0 : whole = [48] ∨ ∃ d t, whole = d :: t ∧ d ≠ 48) :
    ∃ d w, whole = d :: w ∧ Bytes.isDigit d = true := by
  rcases hw0 with h | ⟨d, w, h, -⟩ <;> exact ⟨_, _, h, hw _ (by simp [h])⟩

/-- The parts of a decimal literal: a whole part that is `0` or starts with another digit, the
digits after the point if any, and an exponent text at which the mantissa stops, which starts
with no `x` and reads as `e` with nothing after it. -/
theorem parts?_decimal (neg : Bool) {whole frac expo : Bytes} {e : Int}
    (hw : ∀ b ∈ whole, Bytes.isDigit b = true) (hw0 : whole = [48] ∨ ∃ d t, whole = d :: t ∧ d ≠ 48)
    (hf : ∀ b ∈ frac, Bytes.isDigit b = true)
    (hm : ∀ m f dot any u, mantissa false expo m f dot any u = (m, f, any, u, expo))
    (hx : ∀ x r, expo = x :: r → Bytes.lowerAscii x ≠ 120)
    (he : exponent? false expo = some (e, false, [])) :
    parts? (Binary.signed neg (whole ++ fraction frac ++ expo)) =
      some ⟨neg, Bytes.digitsValue (whole ++ frac), frac.length, false, e⟩ := by
  obtain ⟨d, w, rfl, hd⟩ := exists_cons_of_whole hw hw0
  have hsign : signSplit (Binary.signed neg (d :: w ++ fraction frac ++ expo)) =
      (neg, d :: w ++ fraction frac ++ expo) := by
    rw [List.cons_append, List.cons_append]
    exact signSplit_signed neg hd
  have hbase : baseSplit (d :: w ++ fraction frac ++ expo) =
      (false, d :: w ++ fraction frac ++ expo) := by
    unfold baseSplit
    split
    next x r _ h =>
      -- a leading zero is the whole part on its own: a point or the exponent follows it
      simp only [List.cons_append, List.cons.injEq] at h
      obtain ⟨rfl, h⟩ := h
      have hw' : w = [] := by rcases hw0 with h0 | ⟨_, _, h0, hne⟩ <;> simp_all
      subst hw'
      unfold fraction at h
      split at h
      · rw [List.nil_append, List.nil_append] at h
        rw [if_neg (hx x _ h)]
      · simp only [List.nil_append, List.cons_append, List.cons.injEq] at h
        rw [← h.1]
        rfl
    next => rfl
  unfold NumberText.parts?
  rw [hsign]
  dsimp only
  rw [hbase]
  dsimp only
  rw [mantissa_decimal hw (List.cons_ne_nil d w) hf hm]
  simp [he]

namespace Literal

variable {t : Bytes} {neg : Bool} {m f : Nat} {e : Int}

theorem parts?_eq (h : Literal t neg m f e) : parts? t = some ⟨neg, m, f, false, e⟩ := by
  rcases h with @⟨neg, whole, frac, expo, e, hw, hw0, hf, he⟩
  -- an exponent starts with `e`, which is no `x`
  have hx : ∀ x r, expo = x :: r → Bytes.lowerAscii x ≠ 120 := by
    intro x r hxr
    cases he with
    | none => simp at hxr
    | mk =>
      simp only [List.cons.injEq] at hxr
      rw [← hxr.1]
      decide
  exact parts?_decimal neg hw hw0 hf he.mantissa hx he.exponent?

theorem special? (h : Literal t neg m f e) : NumberText.special? t = none := by
  rcases h with @⟨neg, whole, frac, expo, e, hw, hw0, hf, he⟩
  obtain ⟨d, w, rfl, hd⟩ := exists_cons_of_whole hw hw0
  rw [List.cons_append, List.cons_append]
  exact special?_of_digit hd

end Literal

/-! ### Point form -/

/-- A number text in point form: an optional minus sign, a whole part of digits that is `0` or
starts with another digit, a point, and at least one more digit. `mant` is the value of all the
digits and `frac` the count of those after the point. -/
inductive PointForm : Bytes → Bool → Nat → Nat → Prop
  | mk {whole frac : Bytes} (neg : Bool) (hw : ∀ b ∈ whole, Bytes.isDigit b = true)
      (hf : ∀ b ∈ frac, Bytes.isDigit b = true)
      (hw0 : whole = [48] ∨ ∃ d t, whole = d :: t ∧ d ≠ 48) (hf0 : frac ≠ []) :
      PointForm (Binary.signed neg (whole ++ 46 :: frac)) neg
        (Bytes.digitsValue (whole ++ frac)) frac.length

/-- A text in point form is a literal without exponent. -/
theorem PointForm.literal {t : Bytes} {neg : Bool} {m f : Nat} (h : PointForm t neg m f) :
    Literal t neg m f 0 := by
  rcases h with @⟨whole, frac, neg, hw, hf, hw0, hf0⟩
  have h := Literal.mk neg hw hw0 hf .none
  rwa [List.append_nil, fraction_of_ne hf0] at h

/-! ### The value of the parts -/

/-- Decimal parts within the reader's size bounds read as the double nearest their exact value
`mant · 10^(exp - fracDigits)`. -/
theorem Parts.value_decimal {neg : Bool} {m f mag : Nat} {e : Int} (hm : m ≠ 0)
    (hsize : -400 ≤ (decimalWidth m : Int) + (e - f) ∧ (decimalWidth m : Int) + (e - f) ≤ 330)
    (hnear : ∀ n d : Nat, 0 < d → (n : ℚ) / d = m * 10 ^ (e - f) → Binary.nearest n d = some mag) :
    Parts.value ⟨neg, m, f, false, e⟩ = .ok (.finite neg mag) := by
  unfold Parts.value
  simp only [if_neg hm, Bool.false_eq_true, if_false]
  rw [if_neg (by omega), if_neg (by omega)]
  by_cases hx : 0 ≤ e - f
  · obtain ⟨k, hk⟩ := Int.eq_ofNat_of_zero_le hx
    simp only [if_pos hx]
    rw [hnear (m * 10 ^ (e - f).toNat) 1 Nat.one_pos (by rw [hk]; simp)]
  · obtain ⟨k, hk⟩ := Decimal.exists_neg_of_lt_zero hx
    simp only [if_neg hx]
    rw [hnear m (10 ^ (-(e - f)).toNat) (by positivity) (by rw [hk]; simp [div_eq_mul_inv])]

theorem two_pow_lt_ten_pow_330 : (2 : ℚ) ^ 1025 < 10 ^ 330 := by
  have h : (2 : ℕ) ^ 1025 < 10 ^ 330 := by decide +kernel
  exact_mod_cast h

theorem ten_pow_inv_lt_two_pow : ((10 : ℚ) ^ 401)⁻¹ < 1 / 2 ^ 1075 := by
  have h : (2 : ℕ) ^ 1075 < 10 ^ 401 := by decide +kernel
  rw [one_div]
  exact inv_strictAnti₀ (by positivity) (by exact_mod_cast h)

/-- A decimal `m · 10^x` at most `2^1025` is within the reader's upper size bound. -/
theorem size_le_330 {m : Nat} {x : Int} (hm : 0 < m) (hhi : (m : ℚ) * 10 ^ x ≤ 2 ^ 1025) :
    (decimalWidth m : Int) + x ≤ 330 := by
  obtain ⟨h1, h2⟩ := Bytes.pow_length_ofNat hm
  rw [Bytes.length_ofNat] at h1 h2
  generalize decimalWidth m = w at h1 h2 ⊢
  have hw : 0 < w := by
    rcases Nat.eq_zero_or_pos w with rfl | hw
    · simp at h2; omega
    · exact hw
  have h1' : (10 : ℚ) ^ ((w : Int) - 1) ≤ m := by
    rw [show (w : Int) - 1 = ((w - 1 : Nat) : Int) by omega, zpow_natCast]
    exact_mod_cast h1
  by_contra hc
  -- the leading digit alone would be at least `10^330`
  have hle : (10 : ℚ) ^ ((w : Int) - 1 + x) ≤ m * 10 ^ x := by
    rw [zpow_add₀ (by norm_num)]
    exact mul_le_mul_of_nonneg_right h1' (by positivity)
  have hle' : (10 : ℚ) ^ ((330 : Nat) : Int) ≤ 10 ^ ((w : Int) - 1 + x) :=
    zpow_le_zpow_right₀ (by norm_num) (by omega)
  rw [zpow_natCast] at hle'
  exact lt_irrefl _ ((hle'.trans (hle.trans hhi)).trans_lt two_pow_lt_ten_pow_330)

/-- A decimal `m · 10^x` past the reader's lower size bound is below `2^-1075`. -/
theorem lt_of_size_lt {m : Nat} {x : Int} (hsize : (decimalWidth m : Int) + x < -400) :
    (m : ℚ) * 10 ^ x < 1 / 2 ^ 1075 := by
  rcases Nat.eq_zero_or_pos m with rfl | hm
  · simp
  obtain ⟨-, h2⟩ := Bytes.pow_length_ofNat hm
  rw [Bytes.length_ofNat] at h2
  generalize decimalWidth m = w at h2 hsize
  have h2' : (m : ℚ) < 10 ^ (w : Int) := by
    rw [zpow_natCast]
    exact_mod_cast h2
  -- below `10^w` digits after `x` more places: below `10^-401`
  have hlt : (m : ℚ) * 10 ^ x < 10 ^ ((w : Int) + x) := by
    rw [zpow_add₀ (by norm_num)]
    exact mul_lt_mul_of_pos_right h2' (by positivity)
  have hle : (10 : ℚ) ^ ((w : Int) + x) ≤ 10 ^ (-((401 : Nat) : Int)) :=
    zpow_le_zpow_right₀ (by norm_num) (by omega)
  rw [zpow_neg, zpow_natCast] at hle
  linarith [ten_pow_inv_lt_two_pow]

/-- A decimal `m · 10^x` between `2^-1075` and `2^1025` is within the reader's size bounds. -/
theorem size_bounds {m : Nat} {x : Int} (hm : 0 < m) (hlo : 1 / (2 : ℚ) ^ 1075 ≤ m * 10 ^ x)
    (hhi : (m : ℚ) * 10 ^ x ≤ 2 ^ 1025) :
    -400 ≤ (decimalWidth m : Int) + x ∧ (decimalWidth m : Int) + x ≤ 330 := by
  refine ⟨?_, size_le_330 hm hhi⟩
  -- past the lower bound the decimal would be below `2^-1075`
  by_contra hc
  have hlt := lt_of_size_lt (not_le.mp hc)
  linarith

/-! ### The wire text -/

/-- A literal whose digits and exponent have the value of the shortest decimal of a double reads
back as the double. -/
theorem Literal.readBinary {t : Bytes} {neg : Bool} {m f : Nat} {e : Int} {mag : Nat}
    (h : Literal t neg m f e)
    (hval : (m : ℚ) * 10 ^ (e - f) = (Binary.decimal mag).value)
    (hrep : Binary.Representable mag) : TelemetryBridge.readBinary t = .ok (.finite neg mag) := by
  unfold TelemetryBridge.readBinary
  rw [h.special?, h.parts?_eq]
  dsimp only
  rcases Nat.eq_zero_or_pos mag with rfl | hpos
  · -- zero: every digit is zero
    have hm : m = 0 := by
      simp [Binary.decimal, Decimal.value] at hval
      rcases hval with h | h
      · exact h
      · exact absurd h (by positivity)
    simp [Parts.value, hm]
  · rw [Binary.decimal, if_neg (by omega)] at hval
    obtain ⟨hlo, hhi⟩ := Decimal.shortest_value_bounds hrep hpos
    rw [← hval] at hlo hhi
    have hm : 0 < m := by
      rcases Nat.eq_zero_or_pos m with rfl | hm
      · have : (0 : ℚ) < 1 / 2 ^ 1075 := one_div_pos.mpr (pow_pos (by norm_num) _)
        simp only [Nat.cast_zero, zero_mul] at hlo
        linarith
      · exact hm
    refine Parts.value_decimal (by omega) (size_bounds hm hlo hhi) fun n d hd hnd => ?_
    exact Decimal.nearest_of_shortest hrep hpos hd (by rw [hnd, ← hval])

/-- A text in point form whose digits have the value of the shortest decimal of a double reads
back as the double. -/
theorem PointForm.readBinary {t : Bytes} {neg : Bool} {m f mag : Nat} (h : PointForm t neg m f)
    (hval : (m : ℚ) * 10 ^ (-(f : Int)) = (Binary.decimal mag).value)
    (hrep : Binary.Representable mag) : readBinary t = .ok (.finite neg mag) :=
  h.literal.readBinary (by rwa [Int.zero_sub]) hrep

/-- The parts of a positional text: a whole part that is `0` or starts with another digit, and
the digits after the point if any, which together have the decimal's value. -/
structure PositionalParts (D : Decimal) (whole frac : Bytes) : Prop where
  whole_digits : ∀ b ∈ whole, Bytes.isDigit b = true
  whole_lead : whole = [48] ∨ ∃ d t, whole = d :: t ∧ d ≠ 48
  frac_digits : ∀ b ∈ frac, Bytes.isDigit b = true
  text : D.positional = whole ++ fraction frac
  value : (Bytes.digitsValue (whole ++ frac) : ℚ) * 10 ^ (-(frac.length : Int)) = D.value

section Layouts

open Decimal

variable {D : Decimal}

/-- Zero is written `0`. -/
theorem PositionalParts.of_zero (hd : D.digits = 0) : PositionalParts D [48] [] := by
  refine ⟨by decide +kernel, .inl rfl, by simp, by rw [positional, if_pos hd]; rfl, ?_⟩
  simp [Decimal.value, hd]
  rfl

/-- Below one: `0.`, as many zeros as the point lies before the digits, then the digits. -/
theorem PositionalParts.of_below_one (hd : D.digits ≠ 0) (h1 : D.pointPos ≤ 0) :
    PositionalParts D [48] (List.replicate (-D.pointPos).toNat 48 ++ D.digitBytes) := by
  obtain ⟨d, ds, hdds, -⟩ := Bytes.ofNat_eq_cons (Nat.pos_of_ne_zero hd)
  have hexp : D.pointPos = (D.digitBytes.length : Int) + D.exp := rfl
  refine ⟨by decide +kernel, .inl rfl, fun b hb => (List.mem_append.mp hb).elim
    Bytes.isDigit_of_mem_zeros Bytes.isDigit_of_mem_ofNat, ?_, ?_⟩
  · rw [positional, if_neg hd]
    dsimp only
    rw [if_pos h1, fraction_of_ne (by simp [digitBytes, hdds])]
    simp [zeroByte]
  · rw [Bytes.digitsValue_append, Bytes.digitsValue_append, Bytes.digitsValue_zeros, digitBytes,
      Bytes.digitsValue_ofNat, List.length_append, List.length_replicate,
      show Bytes.digitsValue [48] = 0 from rfl]
    simp only [Decimal.value, Nat.mul_zero, Nat.zero_add]
    congr 2
    rw [digitBytes] at hexp
    omega

/-- The point falls inside the digits: the digits before it, the point, the digits after it. -/
theorem PositionalParts.of_inside (hd : D.digits ≠ 0) (h1 : ¬D.pointPos ≤ 0)
    (h2 : D.pointPos < (D.digitBytes.length : Int)) :
    PositionalParts D (D.digitBytes.take D.pointPos.toNat) (D.digitBytes.drop D.pointPos.toNat) := by
  obtain ⟨d, ds, hdds, hd48⟩ := Bytes.ofNat_eq_cons (Nat.pos_of_ne_zero hd)
  have hexp : D.pointPos = (D.digitBytes.length : Int) + D.exp := rfl
  obtain ⟨j, hj⟩ : ∃ j, D.pointPos.toNat = j + 1 := ⟨D.pointPos.toNat - 1, by omega⟩
  have hne : D.digitBytes.drop (j + 1) ≠ [] := by simp; omega
  rw [hj]
  refine ⟨fun b hb => Bytes.isDigit_of_mem_ofNat (List.mem_of_mem_take hb),
    .inr ⟨d, ds.take j, by rw [digitBytes, hdds, List.take_succ_cons], hd48⟩,
    fun b hb => Bytes.isDigit_of_mem_ofNat (List.mem_of_mem_drop hb), ?_, ?_⟩
  · rw [positional, if_neg hd]
    dsimp only
    rw [if_neg h1, if_pos h2, hj, List.append_assoc, List.singleton_append, ← fraction_of_ne hne]
  · rw [List.take_append_drop, digitBytes, Bytes.digitsValue_ofNat, List.length_drop]
    simp only [Decimal.value]
    congr 2
    rw [digitBytes] at hexp h2
    omega

/-- A whole number: the digits, then as many zeros as the point lies after them. -/
theorem PositionalParts.of_whole (hd : D.digits ≠ 0) (h1 : ¬D.pointPos ≤ 0)
    (h2 : ¬D.pointPos < (D.digitBytes.length : Int)) :
    PositionalParts D (D.digitBytes ++ List.replicate (D.pointPos.toNat - D.digitBytes.length) 48)
      [] := by
  obtain ⟨d, ds, hdds, hd48⟩ := Bytes.ofNat_eq_cons (Nat.pos_of_ne_zero hd)
  have hexp : D.pointPos = (D.digitBytes.length : Int) + D.exp := rfl
  generalize hk : D.pointPos.toNat - D.digitBytes.length = k
  refine ⟨fun b hb => (List.mem_append.mp hb).elim Bytes.isDigit_of_mem_ofNat
      Bytes.isDigit_of_mem_zeros,
    .inr ⟨d, ds ++ List.replicate k 48, by rw [digitBytes, hdds, List.cons_append], hd48⟩, by simp,
    ?_, ?_⟩
  · rw [positional, if_neg hd]
    dsimp only
    rw [if_neg h1, if_neg h2, hk]
    simp [fraction, zeroByte]
  · rw [List.append_nil, Bytes.digitsValue_append, Bytes.digitsValue_zeros, digitBytes,
      Bytes.digitsValue_ofNat, List.length_replicate]
    simp only [Decimal.value]
    have hx : D.exp = k := by omega
    rw [hx, List.length_nil, zpow_natCast]
    push_cast
    ring

end Layouts

/-- Every decimal has the parts of a positional text, one layout for each place of the point. -/
theorem positional_parts (D : Decimal) : ∃ whole frac, PositionalParts D whole frac := by
  by_cases hd : D.digits = 0
  · exact ⟨_, _, .of_zero hd⟩
  by_cases h1 : D.pointPos ≤ 0
  · exact ⟨_, _, .of_below_one hd h1⟩
  by_cases h2 : D.pointPos < (D.digitBytes.length : Int)
  · exact ⟨_, _, .of_inside hd h1 h2⟩
  · exact ⟨_, _, .of_whole hd h1 h2⟩

/-- The positional text of a decimal is a literal without exponent whose digits have the
decimal's value. -/
theorem positional_literal (D : Decimal) (neg : Bool) :
    ∃ m f, Literal (Binary.signed neg D.positional) neg m f 0 ∧
      (m : ℚ) * 10 ^ ((0 : Int) - f) = D.value := by
  obtain ⟨whole, frac, h⟩ := positional_parts D
  have hl := Literal.mk neg h.whole_digits h.whole_lead h.frac_digits .none
  rw [List.append_nil, ← h.text] at hl
  exact ⟨_, _, hl, by rw [Int.zero_sub]; exact h.value⟩

open Decimal in
/-- The digits after the point of a positional text are as many as the decimal's places. -/
theorem positional_fraction_length {D : Decimal} {whole frac : Bytes}
    (h : D.positional = whole ++ 46 :: frac) :
    (frac.length : Int) = -D.exp := by
  have hpoint : ∀ bs : Bytes, (∀ b ∈ bs, Bytes.isDigit b = true) → 46 ∉ bs :=
    fun bs hbs hm => absurd (hbs 46 hm) (by decide)
  have hds : ∀ b ∈ D.digitBytes, Bytes.isDigit b = true := fun b hb => Bytes.isDigit_of_mem_ofNat hb
  have hzeros : ∀ k, ∀ b ∈ List.replicate k zeroByte, Bytes.isDigit b = true :=
    fun _ _ => Bytes.isDigit_of_mem_zeros
  have hmem : (46 : UInt8) ∈ D.positional := by
    rw [h]
    exact List.mem_append_right _ List.mem_cons_self
  unfold positional at h hmem
  split at h
  next hz =>
    -- zero is written `0`, without a point
    rw [if_pos hz] at hmem
    exact absurd hmem (by decide)
  next hz =>
    dsimp only at h hmem
    rw [if_neg hz] at hmem
    split at h
    next h1 =>
      -- below one: `0.`, zeros, then the digits
      rw [show [zeroByte, 46] ++ List.replicate (-D.pointPos).toNat zeroByte ++ D.digitBytes =
        [zeroByte] ++ 46 :: (List.replicate (-D.pointPos).toNat zeroByte ++ D.digitBytes) by simp] at h
      obtain ⟨-, -, rfl⟩ := (List.append_cons_inj_of_notMem (by decide)
        (hpoint _ fun b hb => (List.mem_append.mp hb).elim (hzeros _ b) (hds b))).1 h
      rw [pointPos] at h1
      rw [List.length_append, List.length_replicate, pointPos]
      omega
    next h1 =>
      split at h
      next h2 =>
        -- the point falls inside the digits
        rw [List.append_assoc, List.singleton_append] at h
        obtain ⟨-, -, rfl⟩ := (List.append_cons_inj_of_notMem
          (hpoint _ fun b hb => hds b (List.mem_of_mem_take hb))
          (hpoint _ fun b hb => hds b (List.mem_of_mem_drop hb))).1 h
        rw [pointPos] at h1 h2
        rw [List.length_drop, pointPos]
        omega
      next h2 =>
        -- a whole number has no point
        rw [if_neg h1, if_neg h2] at hmem
        exact (hpoint _ (fun b hb => (List.mem_append.mp hb).elim (hds b) (hzeros _ b)) hmem).elim

/-- The positional text of a decimal, with `.0` added when it has no point, is in point form,
its digits have the decimal's value, and it has one digit after the point or as many as the
decimal's places. -/
theorem positional_pointForm (D : Decimal) (neg : Bool) :
    ∃ m f, PointForm (let t := Binary.signed neg D.positional
        if t.contains 46 then t else t ++ [46, 48]) neg m f ∧
      (m : ℚ) * 10 ^ (-(f : Int)) = D.value ∧ (f : Int) ≤ max 1 (-D.exp) := by
  obtain ⟨whole, frac, h⟩ := positional_parts D
  dsimp only
  rw [h.text]
  have hpoint : 46 ∉ whole := fun hm => absurd (h.whole_digits 46 hm) (by decide)
  by_cases hfrac : frac = []
  · -- a whole number: `.0` is added
    have hv := h.value
    subst hfrac
    rw [if_neg (by cases neg <;> simp [Binary.signed, fraction, hpoint]),
      show Binary.signed neg (whole ++ fraction []) ++ [46, 48] =
        Binary.signed neg (whole ++ 46 :: [48]) by cases neg <;> simp [Binary.signed, fraction]]
    refine ⟨_, _, PointForm.mk neg h.whole_digits (by decide +kernel) h.whole_lead (by simp), ?_,
      by simp⟩
    rw [← hv, Bytes.digitsValue_append, List.append_nil, show Bytes.digitsValue [48] = 0 from rfl]
    norm_num
    ring
  · -- the point is already there
    have hlen := positional_fraction_length (by rw [h.text, fraction_of_ne hfrac])
    rw [fraction_of_ne hfrac, if_pos (by cases neg <;> simp [Binary.signed])]
    exact ⟨_, _, PointForm.mk neg h.whole_digits h.frac_digits h.whole_lead hfrac, h.value,
      by rw [hlen]; exact le_max_right _ _⟩

/-- The wire text of a finite double reads back as the double. -/
theorem readBinary_wireNumber {x : Float} {neg : Bool} {mag : Nat}
    (hx : Binary.ofFloat x = .finite neg mag) : readBinary (wireNumber x) = .ok (.finite neg mag) := by
  obtain ⟨m, f, hform, hval, -⟩ := positional_pointForm (Binary.decimal mag) neg
  unfold wireNumber
  rw [hx]
  exact hform.readBinary hval (Binary.representable_of_ofFloat hx)

/-! ### Integer texts -/

/-- Digits after an optional minus read as a 64-bit integer when their value is one. -/
theorem readInt64_signed (neg : Bool) {ds : Bytes} (hds : ∀ b ∈ ds, Bytes.isDigit b = true)
    (hne : ds ≠ []) :
    readInt64 (Binary.signed neg ds) =
      let n : Int := if neg then -(Bytes.digitsValue ds : Int) else Bytes.digitsValue ds
      if -(2 ^ 63 : Int) ≤ n ∧ n < 2 ^ 63 then .ok n else .error .range := by
  obtain ⟨d, r, rfl⟩ := List.exists_cons_of_ne_nil hne
  have hall : (d :: r).all Bytes.isDigit = true := List.all_eq_true.mpr hds
  unfold readInt64
  rw [signSplit_signed _ (hds d List.mem_cons_self)]
  dsimp only
  rw [if_neg (by simp [hall])]

/-- A number text with a byte other than a digit after its first digit is no 64-bit integer
text. -/
theorem readInt64_of_not_digit (neg : Bool) {d : UInt8} {r : Bytes} (hd : Bytes.isDigit d = true)
    {b : UInt8} (hb : b ∈ r) (hnb : Bytes.isDigit b = false) :
    readInt64 (Binary.signed neg (d :: r)) = .error .malformed := by
  unfold readInt64
  rw [signSplit_signed _ hd]
  dsimp only
  rw [if_pos]
  simp only [List.isEmpty_cons, Bool.false_or, Bool.not_eq_eq_eq_not, Bool.not_true,
    List.all_eq_false]
  exact ⟨b, List.mem_cons_of_mem d hb, by simp [hnb]⟩

end NumberText

/-- The wire text of a finite double reads back as the same double. -/
theorem readFloat_wireNumber {x : Float} {neg : Bool} {mag : Nat}
    (hx : Binary.ofFloat x = .finite neg mag) : readFloat (wireNumber x) = .ok x := by
  rw [readFloat, NumberText.readBinary_wireNumber hx, Except.map, ← hx,
    Binary.toFloat_ofFloat x (by rw [hx]; simp)]

/-- The decimal text of a 64-bit integer reads back as the integer. -/
theorem readInt64_ofInt {n : Int} (hlo : -(2 ^ 63 : Int) ≤ n) (hhi : n < 2 ^ 63) :
    readInt64 (Bytes.ofInt n) = .ok n := by
  have hds : ∀ b ∈ Bytes.ofNat n.natAbs, Bytes.isDigit b = true :=
    fun b hb => Bytes.isDigit_of_mem_ofNat hb
  have hne : Bytes.ofNat n.natAbs ≠ [] := by rw [Bytes.ofNat_eq_map]; simp
  rw [Bytes.ofInt_eq, NumberText.readInt64_signed _ hds hne, Bytes.digitsValue_ofNat]
  have hval : (if decide (n < 0) = true then -(n.natAbs : Int) else (n.natAbs : Int)) = n := by
    split
    next h => rw [decide_eq_true_eq] at h; omega
    next h => rw [decide_eq_true_eq] at h; omega
  dsimp only
  rw [hval, if_pos ⟨hlo, hhi⟩]

end TelemetryBridge
