import TelemetryBridge.Proofs.MeasurementText
import TelemetryBridge.Telemetry.Document

/-!
# Integer members of a document

An integer member of a controller document is read from its number text in two tries
(`Document.intOf`): as the decimal text of a 64-bit integer, and failing that as a double whose
whole part is kept, the least 64-bit integer standing for a whole part out of range.

The number texts are JSON number literals (`Json.NumberLiteral`): an optional minus, a whole part
without leading zeros, a point and digits if any, and an exponent part, `e` or `E` with an optional
sign. The main statement, `Document.intOf_reads_literal`, says what such a literal reads as:

* without point or exponent, its value, when that is a 64-bit integer;
* with a point or an exponent, the whole part of a double within half a spacing of its value
  (`Binary.nearest`): the value itself up to `2^53`, and past it possibly another integer
  (`Document.intOf_one_past_two_pow_53`);
* a whole value of at most 53 bits, itself, however it is written.

Exponents are taken below `10^5` in magnitude: past that the reader stops adding exponent
digits, and the value it reads is no longer the literal's.
-/

namespace TelemetryBridge

/-! ### Whole numbers as doubles -/

namespace Binary

/-- A whole number of at most 53 bits is a double. -/
theorem representable_of_le {k : Nat} (hk : k ≤ 2 ^ 53) : Representable (k * 2 ^ 1074) := by
  refine ⟨?_, ?_⟩
  · calc k * 2 ^ 1074 ≤ 2 ^ 53 * 2 ^ 1074 := Nat.mul_le_mul_right _ hk
      _ < overflowMag := by
        rw [overflowMag, ← Nat.pow_add]
        exact Nat.pow_lt_pow_right (by decide) (by decide)
  · rcases Nat.eq_zero_or_pos k with rfl | hpos
    · simp
    have hlog : Nat.log2 k ≤ 53 := by
      have : Nat.log2 k < 54 := (Nat.log2_lt hpos.ne').mpr (by omega)
      omega
    unfold spacing
    rw [log2_mul_two_pow hpos]
    rcases Nat.lt_or_ge (Nat.log2 k) 53 with h | h
    · -- below `2^53` the spacing divides `2^1074`
      exact Dvd.dvd.mul_left (Nat.pow_dvd_pow 2 (by omega)) k
    · -- `2^53` itself: the spacing is `2^1075`
      have hk' : k = 2 ^ 53 := le_antisymm hk
        (le_trans (Nat.pow_le_pow_right (by decide) h) (Nat.log2_self_le hpos.ne'))
      have h2 : 2 ^ 1 ∣ k := hk' ▸ Nat.pow_dvd_pow 2 (by decide)
      rw [show Nat.log2 k + 1074 - 52 = 1 + 1074 by omega, Nat.pow_add]
      exact Nat.mul_dvd_mul h2 (dvd_refl _)

/-- A magnitude lies in its own interval, away from both ends. -/
theorem inRounding_self {mag d : Nat} (hpos : 0 < mag) (hd : 0 < d) : InRounding mag (mag * d) d := by
  have h0 : 0 < spacing mag := spacing_pos
  have hgap : 0 < (if tightBelow mag then spacing mag else 2 * spacing mag) * d :=
    Nat.mul_pos (by split <;> omega) hd
  have hs : 0 < 2 * spacing mag * d := Nat.mul_pos (by omega) hd
  refine inRounding_of_bounds hpos ?_ ?_ ?_ <;> rw [Nat.mul_assoc 4]
  · omega
  · omega
  · omega

/-- A ratio that is a double exactly rounds to that double. -/
theorem nearest_exact {n d mag : Nat} (hrep : Representable mag) (hd : 0 < d)
    (h : n * 2 ^ 1074 = mag * d) : nearest n d = some mag := by
  rcases Nat.eq_zero_or_pos mag with rfl | hpos
  · have hn : n = 0 := by
      rw [Nat.zero_mul] at h
      exact (Nat.mul_eq_zero.mp h).resolve_right (Nat.two_pow_pos 1074).ne'
    subst hn
    rw [nearest, if_pos (.inl rfl)]
  have hin := inRounding_self hpos hd
  rw [← h] at hin
  exact nearest_of_inRounding hrep hpos hd hin

/-- A ratio below `2^1023` rounds to a finite double. -/
theorem nearest_isSome {n d : Nat} (hd : 0 < d) (hlt : n < d * 2 ^ 1023) :
    ∃ m, nearest n d = some m := by
  have h : n * 2 ^ 1074 < d * 2 ^ 2097 := by
    rw [show 2097 = 1023 + 1074 from rfl, Nat.pow_add, ← Nat.mul_assoc]
    exact Nat.mul_lt_mul_of_pos_right hlt (Nat.two_pow_pos _)
  unfold nearest
  split
  · exact ⟨0, rfl⟩
  next hnd =>
    dsimp only
    have hn : 0 < n * 2 ^ 1074 := Nat.mul_pos (by omega) (Nat.two_pow_pos _)
    generalize hx : n * 2 ^ 1074 = x at h hn ⊢
    -- the step is at most `2^2044`, and the rounded count at most half a step past the ratio
    have hk : floorLog2 x d ≤ 2096 := floorLog2_le hd hn (by simpa using h)
    generalize floorLog2 x d = k at hk
    have hstep : 2 ^ (k - 52).toNat ≤ 2 ^ 2044 := Nat.pow_le_pow_right (by decide) (by omega)
    generalize hst : 2 ^ (k - 52).toNat = step at hstep
    have hspos : 0 < step := by rw [← hst]; exact Nat.two_pow_pos _
    have hden : 0 < d * step := Nat.mul_pos hd hspos
    have hb := (roundHalfEven_bounds (x / (d * step)) (Nat.mod_lt x hden)).1
    rw [Nat.div_add_mod'] at hb
    generalize roundHalfEven (x / (d * step)) (x % (d * step)) (d * step) = R at hb ⊢
    refine ⟨R * step, if_neg fun hover => ?_⟩
    -- `2^2098` is twice `2^2097`, more than a ratio below `2^2097` plus half a step
    have hQ : overflowMag = 2 * 2 ^ 2097 := by rw [overflowMag, ← Nat.pow_succ']
    have hsQ : step ≤ 2 ^ 2097 := hstep.trans (Nat.pow_le_pow_right (by decide) (by decide))
    rw [hQ] at hover
    generalize 2 ^ 2097 = Q at h hover hsQ
    have h1 : d * (2 * (2 * Q)) ≤ d * step * (2 * R) := by
      rw [show d * step * (2 * R) = d * (2 * (R * step)) by ring]
      exact Nat.mul_le_mul_left d (by omega)
    have h2 : d * step ≤ d * Q := Nat.mul_le_mul_left d hsQ
    nlinarith

/-- A ratio `q` below `2^1023` rounds to a finite double within half a spacing of it. -/
theorem nearest_near {n d : Nat} {q : ℚ} (hd : 0 < d) (hq : (n : ℚ) / d = q)
    (hlt : q < 2 ^ 1023) :
    ∃ mag, nearest n d = some mag ∧ Representable mag ∧
      2 * |(mag : ℚ) - q * 2 ^ 1074| ≤ (spacing mag : ℚ) := by
  have hdq : (0 : ℚ) < d := by exact_mod_cast hd
  have hnq : (n : ℚ) = q * d := by rw [← hq]; field_simp
  have hbound : n < d * 2 ^ 1023 := by
    have : (n : ℚ) < d * 2 ^ 1023 := by rw [hnq, mul_comm]; exact mul_lt_mul_of_pos_left hlt hdq
    exact_mod_cast this
  obtain ⟨mag, hmag⟩ := nearest_isSome hd hbound
  refine ⟨mag, hmag, representable_of_nearest hd hmag, ?_⟩
  obtain ⟨h1, h2⟩ := nearest_error hd hmag
  -- the unit `2^1074` as a plain positive number on both sides of the cast
  have hcast : ((2 ^ 1074 : ℕ) : ℚ) = (2 : ℚ) ^ 1074 := by rw [Nat.cast_pow, Nat.cast_ofNat]
  have hP : 0 < 2 ^ 1074 := Nat.two_pow_pos 1074
  generalize 2 ^ 1074 = P at h1 h2 hcast hP
  generalize (2 : ℚ) ^ 1074 = Pq at hcast ⊢
  subst hcast
  have h1' : 2 * ((n : ℚ) * P) ≤ 2 * mag * d + spacing mag * d := by exact_mod_cast h1
  have h2' : 2 * (mag : ℚ) * d ≤ 2 * (n * P) + spacing mag * d := by exact_mod_cast h2
  rw [hnq] at h1' h2'
  -- divided by `d`, the two bounds say the gap is at most half a spacing either way
  have hlo : 2 * (q * P) ≤ 2 * mag + spacing mag := by
    have : (2 * (q * P)) * d ≤ (2 * mag + spacing mag) * d := by linarith
    exact le_of_mul_le_mul_right this hdq
  have hhi : 2 * (mag : ℚ) ≤ 2 * (q * P) + spacing mag := by
    have : (2 * (mag : ℚ)) * d ≤ (2 * (q * P) + spacing mag) * d := by linarith
    exact le_of_mul_le_mul_right this hdq
  have habs : |(mag : ℚ) - q * P| ≤ spacing mag / 2 := abs_le.mpr ⟨by linarith, by linarith⟩
  linarith

/-- The whole part of a double, from its magnitude. -/
theorem wholeInt64_toFloat {neg : Bool} {mag : Nat} (hrep : Representable mag) :
    wholeInt64 (Binary.finite neg mag).toFloat =
      let q : Int := mag / 2 ^ 1074
      let v := if neg then -q else q
      if -(2 ^ 63 : Int) ≤ v ∧ v < 2 ^ 63 then v else -(2 ^ 63) := by
  unfold wholeInt64
  rw [ofFloat_toFloat (ofBits_toBits_finite neg hrep) (by simp)]

/-- The whole part of a double holding a whole number of at most 53 bits is that number. -/
theorem wholeInt64_whole (neg : Bool) {K : Nat} (hK : K ≤ 2 ^ 53) :
    wholeInt64 (Binary.finite neg (K * 2 ^ 1074)).toFloat = if neg then -(K : Int) else K := by
  rw [wholeInt64_toFloat (representable_of_le hK)]
  have hq : ((K * 2 ^ 1074 : Nat) : Int) / 2 ^ 1074 = K := by
    push_cast
    exact Int.mul_ediv_cancel _ (by positivity)
  have hK' : (K : Int) ≤ 2 ^ 53 := by exact_mod_cast hK
  simp only [hq]
  cases neg
  · rw [if_pos (by simp only [Bool.false_eq_true, if_false]; omega)]
  · rw [if_pos (by simp only [if_true]; omega)]

end Binary

/-! ### The value of decimal parts -/

namespace NumberText

/-- Decimal parts of a value below `2^1023` read as a double within half a spacing of the value:
the double nearest to it, or zero below the reader's size bound. -/
theorem Parts.value_near (neg : Bool) {m f : Nat} {e : Int}
    (hx : (m : ℚ) * 10 ^ (e - f) < 2 ^ 1023) :
    ∃ mag, Parts.value ⟨neg, m, f, false, e⟩ = .ok (.finite neg mag) ∧ Binary.Representable mag ∧
      2 * |(mag : ℚ) - m * 10 ^ (e - f) * 2 ^ 1074| ≤ (Binary.spacing mag : ℚ) := by
  rcases Nat.eq_zero_or_pos m with rfl | hm
  · exact ⟨0, by simp [Parts.value], Binary.representable_zero, by simp [Binary.spacing]⟩
  have h1025 : (2 : ℚ) ^ 1023 ≤ 2 ^ 1025 := pow_le_pow_right₀ (by norm_num) (by norm_num)
  have hsize := size_le_330 hm (hx.le.trans h1025)
  unfold Parts.value
  simp only [if_neg hm.ne', Bool.false_eq_true, if_false]
  rw [if_neg (by omega)]
  split
  · next hsmall =>
    -- below `2^-1075`: zero is within half the smallest spacing
    have hlt := lt_of_size_lt hsmall
    refine ⟨0, rfl, Binary.representable_zero, ?_⟩
    have hhalf : (m : ℚ) * 10 ^ (e - f) * 2 ^ 1074 < 1 / 2 := by
      have h2 : (0 : ℚ) < 2 ^ 1074 := by positivity
      calc (m : ℚ) * 10 ^ (e - f) * 2 ^ 1074 < 1 / 2 ^ 1075 * 2 ^ 1074 :=
            mul_lt_mul_of_pos_right hlt h2
        _ = 1 / 2 := by rw [pow_succ]; field_simp
    have hnn : (0 : ℚ) ≤ m * 10 ^ (e - f) * 2 ^ 1074 := by positivity
    rw [Nat.cast_zero, zero_sub, abs_neg, abs_of_nonneg hnn]
    simp only [Binary.spacing, Nat.log2_zero, Nat.zero_sub, pow_zero, Nat.cast_one]
    linarith
  · by_cases hx0 : 0 ≤ e - f
    · simp only [if_pos hx0]
      obtain ⟨k, hk⟩ := Int.eq_ofNat_of_zero_le hx0
      obtain ⟨mag, hmag, hrep, hb⟩ := Binary.nearest_near (n := m * 10 ^ (e - f).toNat) one_pos
        (by rw [hk]; simp) hx
      rw [hmag]
      exact ⟨mag, rfl, hrep, hb⟩
    · simp only [if_neg hx0]
      obtain ⟨k, hk⟩ := Decimal.exists_neg_of_lt_zero hx0
      obtain ⟨mag, hmag, hrep, hb⟩ := Binary.nearest_near (n := m) (d := 10 ^ (-(e - f)).toNat)
        (by positivity) (by rw [hk]; simp [div_eq_mul_inv]) hx
      rw [hmag]
      exact ⟨mag, rfl, hrep, hb⟩

/-- Decimal parts whose value is a whole number of at most 53 bits read as exactly that number. -/
theorem Parts.value_exact (neg : Bool) {m f K : Nat} {e : Int} (hK : K ≤ 2 ^ 53)
    (hval : (m : ℚ) * 10 ^ (e - f) = K) :
    Parts.value ⟨neg, m, f, false, e⟩ = .ok (.finite neg (K * 2 ^ 1074)) := by
  rcases Nat.eq_zero_or_pos m with rfl | hm
  · have hK0 : K = 0 := by
      have : (K : ℚ) = 0 := by rw [← hval]; simp
      exact_mod_cast this
    subst hK0
    simp [Parts.value]
  have hKpos : (0 : ℚ) < K := by rw [← hval]; positivity
  have hK1 : (1 : ℚ) ≤ K := by exact_mod_cast (show 1 ≤ K by exact_mod_cast hKpos)
  have hlo : 1 / (2 : ℚ) ^ 1075 ≤ m * 10 ^ (e - f) := by
    rw [hval]
    have : 1 / (2 : ℚ) ^ 1075 ≤ 1 := by
      rw [div_le_one (by positivity)]
      exact one_le_pow₀ (by norm_num)
    linarith
  have hhi : (m : ℚ) * 10 ^ (e - f) ≤ 2 ^ 1025 := by
    rw [hval]
    have h53 : (K : ℚ) ≤ 2 ^ 53 := by exact_mod_cast hK
    exact h53.trans (pow_le_pow_right₀ (by norm_num) (by norm_num))
  refine Parts.value_decimal hm.ne' (size_bounds hm hlo hhi) fun n d hd hnd =>
    Binary.nearest_exact (Binary.representable_of_le hK) hd ?_
  -- the ratio is `K` exactly
  have hn : n = K * d := by
    have hdq : (0 : ℚ) < d := by exact_mod_cast hd
    have : (n : ℚ) = K * d := by
      rw [← hval, ← hnd]
      field_simp
    exact_mod_cast this
  rw [hn, Nat.mul_right_comm]

end NumberText

/-! ### JSON number literals -/

namespace Json

/-- The exponent part of a JSON number literal with its value: nothing, or `e` or `E`, an
optional sign and at least one digit. -/
inductive ExponentPart : Bytes → Int → Prop
  | none : ExponentPart [] 0
  | mk {mark : UInt8} (hmark : mark = 101 ∨ mark = 69) (sign : Bytes)
      (hsign : sign = [] ∨ sign = [43] ∨ sign = [45]) {ds : Bytes}
      (hds : ∀ b ∈ ds, Bytes.isDigit b = true) (hne : ds ≠ []) :
      ExponentPart (mark :: sign ++ ds)
        (if sign = [45] then -(Bytes.digitsValue ds : Int) else Bytes.digitsValue ds)

/-- A JSON number literal: an optional minus, a whole part that is `0` or starts with another
digit, a point and at least one digit if any, and an exponent part. `mant` is the value of all
the digits before the exponent, `frac` the count of those after the point and `exp` the
exponent's value, so that the literal stands for `±mant · 10^(exp - frac)`. -/
inductive NumberLiteral : Bytes → Bool → Nat → Nat → Int → Prop
  | mk (neg : Bool) {whole frac expo : Bytes} {e : Int}
      (hw : ∀ b ∈ whole, Bytes.isDigit b = true)
      (hw0 : whole = [48] ∨ ∃ d t, whole = d :: t ∧ d ≠ 48)
      (hf : ∀ b ∈ frac, Bytes.isDigit b = true) (he : ExponentPart expo e) :
      NumberLiteral (Binary.signed neg (whole ++ NumberText.fraction frac ++ expo)) neg
        (Bytes.digitsValue (whole ++ frac)) frac.length e

/-- The exact value `±mant · 10^(exp - frac)` of a number literal. -/
def literalValue (neg : Bool) (mant frac : Nat) (exp : Int) : ℚ :=
  (if neg then -(mant : ℚ) else mant) * 10 ^ (exp - frac)

namespace ExponentPart

variable {expo : Bytes} {e : Int}

/-- The mantissa stops where the exponent starts. -/
theorem mantissa (h : ExponentPart expo e) (m f : Nat) (dot any u : Bool) :
    NumberText.mantissa false expo m f dot any u = (m, f, any, u, expo) := by
  cases h with
  | none => rfl
  | mk hmark =>
    rcases hmark with rfl | rfl <;>
      rw [List.cons_append, NumberText.mantissa, if_neg (by decide), if_neg (by decide),
        if_neg (by decide)]

theorem lowerAscii_ne (h : ExponentPart expo e) :
    ∀ x r, expo = x :: r → Bytes.lowerAscii x ≠ 120 := by
  intro x r hx
  cases h with
  | none => cases hx
  | mk hmark =>
    rw [List.cons_append, List.cons.injEq] at hx
    rw [← hx.1]
    rcases hmark with rfl | rfl <;> decide

/-- An exponent below `10^5` in magnitude reads as its value. -/
theorem exponent? (h : ExponentPart expo e) (he : e.natAbs < 100000) :
    NumberText.exponent? false expo = some (e, false, []) := by
  cases h with
  | none => rfl
  | @mk mark hmark sign hsign ds hds hne =>
    obtain ⟨d, t, rfl⟩ := List.exists_cons_of_ne_nil hne
    have hd := hds d List.mem_cons_self
    have hv : Bytes.digitsValue (d :: t) < 100000 := by split at he <;> omega
    have hexp := NumberText.expDigits_exact hds 0 (by simpa using hv)
    rw [Nat.mul_zero, Nat.zero_add] at hexp
    have hlow : Bytes.lowerAscii mark = 101 := by rcases hmark with rfl | rfl <;> rfl
    rcases hsign with rfl | rfl | rfl
    · -- no sign: the first digit is neither `+` nor `-`
      have h43 : d ≠ 43 := NumberText.ne_of_isDigit hd rfl
      have h45 : d ≠ 45 := NumberText.ne_of_isDigit hd rfl
      simp [NumberText.exponent?, hlow, hd, hexp, h43, h45]
    · simp [NumberText.exponent?, hlow, hd, hexp]
    · simp [NumberText.exponent?, hlow, hd, hexp]

end ExponentPart

theorem mem_signed {neg : Bool} {t : Bytes} {b : UInt8} :
    b ∈ Binary.signed neg t ↔ (neg = true ∧ b = 45) ∨ b ∈ t := by
  cases neg <;> simp [Binary.signed]

/-- A value that is a whole number `k`: its magnitude is that of `k`, and its sign is the
literal's. -/
theorem natAbs_of_literalValue {neg : Bool} {m f : Nat} {e : Int} {k : Int}
    (hk : (k : ℚ) = literalValue neg m f e) :
    (m : ℚ) * 10 ^ (e - f) = k.natAbs ∧ (neg = true → k ≤ 0) ∧ (neg = false → 0 ≤ k) := by
  have hnn : (0 : ℚ) ≤ m * 10 ^ (e - f) := by positivity
  unfold literalValue at hk
  cases neg with
  | false =>
    simp only [Bool.false_eq_true, if_false] at hk
    have hk0 : 0 ≤ k := by exact_mod_cast hk ▸ hnn
    refine ⟨?_, by simp, fun _ => hk0⟩
    rw [← hk, Nat.cast_natAbs, Int.cast_abs, abs_of_nonneg (by exact_mod_cast hk0)]
  | true =>
    simp only [if_true, neg_mul] at hk
    have hk0 : k ≤ 0 := by
      have : (k : ℚ) ≤ 0 := by rw [hk]; linarith
      exact_mod_cast this
    refine ⟨?_, fun _ => hk0, by simp⟩
    rw [Nat.cast_natAbs, Int.cast_abs, abs_of_nonpos (by exact_mod_cast hk0), hk, neg_neg]

namespace NumberLiteral

variable {s : Bytes} {neg : Bool} {m f : Nat} {e : Int}

theorem parts?_eq (h : NumberLiteral s neg m f e) (he : e.natAbs < 100000) :
    NumberText.parts? s = some ⟨neg, m, f, false, e⟩ := by
  rcases h with @⟨neg, whole, frac, expo, e, hw, hw0, hf, hexp⟩
  exact NumberText.parts?_decimal neg hw hw0 hf hexp.mantissa hexp.lowerAscii_ne
    (hexp.exponent? he)

theorem special? (h : NumberLiteral s neg m f e) : NumberText.special? s = none := by
  rcases h with @⟨neg, whole, frac, expo, e, hw, hw0, hf, hexp⟩
  obtain ⟨d, w, rfl, hd⟩ := NumberText.exists_cons_of_whole hw hw0
  rw [List.cons_append, List.cons_append]
  exact NumberText.special?_of_digit hd

/-- A literal reads as the double of its parts. -/
theorem readBinary_eq (h : NumberLiteral s neg m f e) (he : e.natAbs < 100000) :
    readBinary s = NumberText.Parts.value ⟨neg, m, f, false, e⟩ := by
  unfold readBinary
  rw [h.special?, h.parts?_eq he]

/-- A literal without point or exponent is its digits after an optional minus. -/
theorem eq_signed (h : NumberLiteral s neg m f e) (hx : ¬ (46 ∈ s ∨ 101 ∈ s ∨ 69 ∈ s)) :
    ∃ ds, s = Binary.signed neg ds ∧ (∀ b ∈ ds, Bytes.isDigit b = true) ∧ ds ≠ [] ∧
      m = Bytes.digitsValue ds ∧ f = 0 ∧ e = 0 := by
  rcases h with @⟨neg, whole, frac, expo, e, hw, hw0, hf, hexp⟩
  have hwne : whole ≠ [] := by
    obtain ⟨d, w, rfl, -⟩ := NumberText.exists_cons_of_whole hw hw0
    exact List.cons_ne_nil d w
  -- a point or an exponent mark would be a byte of the text
  have hmem : ∀ b ∈ NumberText.fraction frac ++ expo,
      b ∈ Binary.signed neg (whole ++ NumberText.fraction frac ++ expo) := by
    intro b hb
    rw [mem_signed, List.append_assoc, List.mem_append]
    exact .inr (.inr hb)
  have hfrac : frac = [] := by
    by_contra hne
    exact hx (.inl (hmem 46 (by rw [NumberText.fraction_of_ne hne]; simp)))
  subst hfrac
  cases hexp with
  | none => exact ⟨whole, by simp [NumberText.fraction], hw, hwne, by simp, rfl, rfl⟩
  | @mk mark hmark sign hsign ds hds hne =>
    have hm := hmem mark (by simp [NumberText.fraction])
    rcases hmark with rfl | rfl
    · exact absurd (.inr (.inl hm)) hx
    · exact absurd (.inr (.inr hm)) hx

/-- A literal with a point or an exponent is no 64-bit integer text. -/
theorem readInt64_eq_error (h : NumberLiteral s neg m f e) (hx : 46 ∈ s ∨ 101 ∈ s ∨ 69 ∈ s) :
    readInt64 s = .error .malformed := by
  rcases h with @⟨neg, whole, frac, expo, e, hw, hw0, hf, hexp⟩
  obtain ⟨d, w, rfl, hd⟩ := NumberText.exists_cons_of_whole hw hw0
  rw [List.cons_append, List.cons_append] at hx ⊢
  -- the byte found is neither the sign nor the first digit, and no digit
  obtain ⟨b, hb, hnb⟩ : ∃ b ∈ w ++ NumberText.fraction frac ++ expo, Bytes.isDigit b = false := by
    have key : ∀ b, b = 46 ∨ b = 101 ∨ b = 69 →
        b ∈ Binary.signed neg (d :: (w ++ NumberText.fraction frac ++ expo)) →
        b ∈ w ++ NumberText.fraction frac ++ expo ∧ Bytes.isDigit b = false := by
      intro b hb hm
      have hnd : Bytes.isDigit b = false := by rcases hb with rfl | rfl | rfl <;> rfl
      rw [mem_signed, List.mem_cons] at hm
      rcases hm with ⟨-, rfl⟩ | rfl | hm
      · rcases hb with h | h | h <;> exact absurd h (by decide)
      · rw [hd] at hnd
        exact absurd hnd (by decide)
      · exact ⟨hm, hnd⟩
    rcases hx with hx | hx | hx
    · exact ⟨46, key 46 (.inl rfl) hx⟩
    · exact ⟨101, key 101 (.inr (.inl rfl)) hx⟩
    · exact ⟨69, key 69 (.inr (.inr rfl)) hx⟩
  exact NumberText.readInt64_of_not_digit neg hd hb hnb

end NumberLiteral

end Json

/-! ### Integer members -/

namespace Document

variable {s : Bytes} {neg : Bool} {m f : Nat} {e : Int} {base : Int} {name : String}

/-- A literal without point or exponent reads as its value when that is a 64-bit integer. -/
theorem intOf_integer_literal (h : Json.NumberLiteral s neg m f e)
    (hx : ¬ (46 ∈ s ∨ 101 ∈ s ∨ 69 ∈ s)) {k : Int} (hk : (k : ℚ) = Json.literalValue neg m f e)
    (hlo : -(2 ^ 63) ≤ k) (hhi : k < 2 ^ 63) : intOf (some s) base name = .ok k := by
  obtain ⟨ds, rfl, hds, hne, rfl, rfl, rfl⟩ := h.eq_signed hx
  obtain ⟨habs, hneg, hpos⟩ := Json.natAbs_of_literalValue hk
  have hval : (if neg then -(Bytes.digitsValue ds : Int) else Bytes.digitsValue ds) = k := by
    simp only [Nat.cast_zero, sub_zero, zpow_zero, mul_one, Nat.cast_inj] at habs
    cases neg
    · simp only [Bool.false_eq_true, if_false]
      have := hpos rfl
      omega
    · simp only [if_true]
      have := hneg rfl
      omega
  dsimp only [intOf]
  rw [NumberText.readInt64_signed neg hds hne]
  simp only [hval, if_pos (And.intro hlo hhi)]

/-- A text that is no 64-bit integer text but a double reads as the double's whole part. -/
theorem intOf_of_readBinary (hi : readInt64 s = .error .malformed) {v : Binary}
    (hb : readBinary s = .ok v) : intOf (some s) base name = .ok (wholeInt64 v.toFloat) := by
  dsimp only [intOf]
  rw [hi, readFloat, hb]
  rfl

/-- A literal with a point or an exponent, of a value below `2^1023`, reads as the whole part of
a double within half a spacing of its value. -/
theorem intOf_point_literal (h : Json.NumberLiteral s neg m f e) (he : e.natAbs < 100000)
    (hx : 46 ∈ s ∨ 101 ∈ s ∨ 69 ∈ s) (hlt : (m : ℚ) * 10 ^ (e - f) < 2 ^ 1023) :
    ∃ mag : Nat, 2 * |(mag : ℚ) - m * 10 ^ (e - f) * 2 ^ 1074| ≤ (Binary.spacing mag : ℚ) ∧
      intOf (some s) base name = .ok (wholeInt64 (Binary.finite neg mag).toFloat) := by
  obtain ⟨mag, hval, -, hb⟩ := NumberText.Parts.value_near neg hlt
  exact ⟨mag, hb, intOf_of_readBinary (h.readInt64_eq_error hx) (by rw [h.readBinary_eq he, hval])⟩

/-- A literal whose value is a whole number of at most 53 bits reads as that number, however it
is written: without point or exponent as a 64-bit integer, and otherwise through a double that
holds it exactly. -/
theorem intOf_small_integer (h : Json.NumberLiteral s neg m f e) (he : e.natAbs < 100000)
    {k : Int} (hk : (k : ℚ) = Json.literalValue neg m f e) (hsmall : k.natAbs ≤ 2 ^ 53) :
    intOf (some s) base name = .ok k := by
  by_cases hx : 46 ∈ s ∨ 101 ∈ s ∨ 69 ∈ s
  · obtain ⟨habs, hneg, hpos⟩ := Json.natAbs_of_literalValue hk
    have hb : readBinary s = .ok (.finite neg (k.natAbs * 2 ^ 1074)) := by
      rw [h.readBinary_eq he, NumberText.Parts.value_exact neg hsmall habs]
    rw [intOf_of_readBinary (h.readInt64_eq_error hx) hb, Binary.wholeInt64_whole neg hsmall]
    -- the double holds `|k|`, signed as `k`
    cases neg
    · simp [Int.natAbs_of_nonneg (hpos rfl)]
    · simp [Int.ofNat_natAbs_of_nonpos (hneg rfl)]
  · exact intOf_integer_literal h hx hk (by omega) (by omega)

end Document

end TelemetryBridge
