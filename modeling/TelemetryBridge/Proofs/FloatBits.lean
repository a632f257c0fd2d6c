import TelemetryBridge.Decimal.Binary
import Mathlib

/-! # Doubles, their bits and their magnitudes

A `Float` is, in the logic, a 64-bit pattern whose not-a-number is the canonical one, and the
library takes it apart in `Binary.ofFloat` into a sign and a magnitude counted in smallest
subnormals. This file shows that nothing is lost on the way: unpacking a valid pattern and
packing it again gives it back (`FloatBits.pack_unpack`), so reading the bits of a `Float`
gives the `Float` (`Float.ofBits_toBits`); and the bit layout of `Binary` is undone by
`Binary.toBits` for every pattern but a not-a-number (`Binary.toBits_ofBits`). Together they
give `Binary.toFloat_ofFloat`: a double rebuilt from its sign and magnitude is the double.

The magnitudes that occur are the `Binary.Representable` ones: below the overflow, and a whole
number of their spacing. The way back holds too: the bits `Binary.toBits` writes for such a
magnitude, or for an infinity, read back as the double (`Binary.ofBits_toBits_finite`), and every
pattern but a not-a-number is the bits of a `Float` (`Float.toBits_ofBits`), so such a double is
the double of its `Float` (`Binary.ofFloat_toFloat`).
-/

open Float.Model (Format)
open Float.Model.UnpackedFloat

namespace TelemetryBridge

/-! ### Packing and unpacking the model's bit patterns -/

namespace FloatBits

theorem sign_toBitVec_ofBitVec (v : BitVec 1) : (Sign.ofBitVec v).toBitVec = v := by
  revert v
  decide

/-- A bit pattern is its sign, exponent and mantissa fields put back together. -/
theorem packComponents_unpack (b : BitVec Format.binary64.numBits) :
    packComponents Format.binary64 (Sign.ofBitVec (unpackSign b))
      (unpackExponent b) (unpackMantissa b) =
      b := by
  simp only [packComponents, sign_toBitVec_ofBitVec, unpackSign, unpackExponent, unpackMantissa,
    BitVec.cast_eq, BitVec.extractLsb]
  ext i hi
  change i < 64 at hi
  rw [BitVec.getElem_append]
  -- the mantissa holds bits 0 to 51, the exponent bits 52 to 62, the sign bit 63
  by_cases hm : i < 52
  · rw [dif_pos (by omega), BitVec.getElem_extractLsb']
    simpa using BitVec.getLsbD_eq_getElem hi
  · rw [dif_neg (by omega), BitVec.getElem_append]
    by_cases he : i - 52 < 11
    · rw [dif_pos (by omega), BitVec.getElem_extractLsb']
      have : 52 + (i - 52) = i := by omega
      simpa [this] using BitVec.getLsbD_eq_getElem hi
    · rw [dif_neg (by omega), BitVec.getElem_extractLsb']
      have : 63 + (i - 52 - 11) = i := by omega
      simpa [this] using BitVec.getLsbD_eq_getElem hi

theorem toNat_one_append (v : BitVec 52) : (1#1 ++ v).toNat = 2 ^ 52 + v.toNat := by
  rw [BitVec.toNat_append, ← Nat.shiftLeft_add_eq_or_of_lt v.isLt]
  simp [Nat.shiftLeft_eq]

/-- A normal significand, the implicit bit `2^52` over a 52-bit fraction, has its leading bit at
52; scaled by `2^s` it has it at `52 + s`. -/
theorem log2_significand {frac : Nat} (hfrac : frac < 2 ^ 52) (s : Nat) :
    Nat.log2 ((2 ^ 52 + frac) * 2 ^ s) = 52 + s := by
  refine (Nat.log2_eq_iff (Nat.mul_ne_zero (by omega) (Nat.two_pow_pos s).ne')).mpr ⟨?_, ?_⟩
  · rw [Nat.pow_add]
    exact Nat.mul_le_mul_right _ (by omega)
  · rw [show 52 + s + 1 = 53 + s by omega, Nat.pow_add]
    exact Nat.mul_lt_mul_of_pos_right (by omega) (Nat.two_pow_pos s)

/-- Unpacking a valid bit pattern and packing it again gives the pattern back; validity rules
out the only exception, a not-a-number with another payload than the canonical one. -/
theorem pack_unpack (b : BitVec Format.binary64.numBits) (hv : Format.binary64.Valid b) :
    pack Format.binary64 (unpack Format.binary64 b) = b := by
  have hfields := packComponents_unpack b
  have hM : (unpackMantissa b).toNat < 2 ^ 52 := BitVec.isLt _
  have hE : (unpackExponent b).toNat < 2 ^ 11 := BitVec.isLt _
  rw [unpack]
  split
  next hones =>
    split
    next hzero =>
      rw [hones, hzero] at hfields
      exact hfields
    next hnz => exact (hv.eq_packedNaN hones hnz).symm
  next hones =>
    split
    next hexp0 =>
      split
      next hzero =>
        rw [hexp0, hzero] at hfields
        exact hfields
      next hnz =>
        -- a subnormal: the biased exponent comes out as one, and the mantissa stays below the
        -- implicit bit, so packing writes a zero exponent field and the mantissa as it is
        have hE0 : (unpackExponent b).toNat = 0 := by
          rw [hexp0]; rfl
        have hpos : 0 < (unpackMantissa b).toNat := by
          rcases Nat.eq_zero_or_pos (unpackMantissa b).toNat with h | h
          · exact absurd (BitVec.toNat_inj.mp (by simpa using h)) hnz
          · exact h
        have hlog : (unpackMantissa b).toNat.log2 < 52 :=
          (Nat.log2_lt (by omega)).mpr hM
        rw [pack]
        simp only [hE0]
        rw [if_neg (by decide), if_neg (by change ¬_ + 1 = 53; omega)]
        rw [BitVec.ofNat_toNat, BitVec.setWidth_eq, ← hexp0]
        exact hfields
    next hexp0 =>
      -- a normal number: the biased exponent is the stored field, neither zero nor all ones,
      -- and the implicit bit puts the mantissa's leading bit at 52
      have hE1 : (unpackExponent b).toNat ≠ 2047 := fun h =>
        hones (BitVec.toNat_inj.mp (by simpa using h))
      have hE0 : (unpackExponent b).toNat ≠ 0 := fun h =>
        hexp0 (BitVec.toNat_inj.mp (by simpa using h))
      have happ := toNat_one_append (unpackMantissa b)
      have hlog : (1#1 ++ unpackMantissa b).toNat.log2 = 52 := by
        rw [happ]
        simpa using log2_significand hM 0
      rw [pack]
      simp only [hlog]
      rw [if_neg (by change ¬2048 ≤ _; omega),
        if_pos (show 52 + 1 = Format.binary64.mantissaBits from rfl)]
      have hbiased : ((((unpackExponent b).toNat : Int) -
          (1023 + 52) + 1023 + 52).toNat) = (unpackExponent b).toNat := by
        omega
      have hmant : BitVec.ofNat 52 (1#1 ++ unpackMantissa b).toNat =
          unpackMantissa b := by
        rw [← BitVec.toNat_inj, BitVec.toNat_ofNat, happ]
        omega
      change packComponents Format.binary64 _ (BitVec.ofNat 11 ((((unpackExponent
        b).toNat : Int) - (1023 + 52) + 1023 + 52).toNat)) _ = b
      rw [hbiased, BitVec.ofNat_toNat, BitVec.setWidth_eq, hmant]
      exact hfields

end FloatBits

/-! ### The `Float` of its bits and the layout of `Binary` -/

/-- Reading the bits of a `Float` back gives the same `Float`. -/
theorem Float.ofBits_toBits (x : Float) : Float.ofBits x.toBits = x := by
  obtain ⟨⟨bits, hv⟩⟩ := x
  have h := FloatBits.pack_unpack bits.toBitVec hv
  show Float.ofModel (Float.Model.pack (unpack Format.binary64 bits.toBitVec)) =
    Float.ofModel ⟨bits, hv⟩
  simp only [Float.Model.pack, h, UInt64.ofBitVec_toBitVec]

namespace Binary

/-- Writing the bits of a double read from bits gives them back, unless they are a
not-a-number, which is written in one quiet pattern. -/
theorem toBits_ofBits (u : UInt64) (h : ofBits u ≠ .nan) : (ofBits u).toBits = u := by
  have hu : u.toNat < 2 ^ 64 := u.toNat_lt
  -- the pattern is its sign bit, biased exponent and fraction
  have hsplit : u.toNat = u.toNat / 2 ^ 63 * 2 ^ 63 + u.toNat / 2 ^ 52 % 2 ^ 11 * 2 ^ 52 +
      u.toNat % 2 ^ 52 := by omega
  -- the sign bit, written as the numeral the unfolded pattern shows
  have hsign : u.toNat / 9223372036854775808 = 0 ∨ u.toNat / 9223372036854775808 = 1 := by omega
  rw [← UInt64.toNat_inj]
  unfold ofBits at h ⊢
  simp only at h ⊢
  split
  next hinf =>
    split
    next hfrac =>
      rcases hsign with hs | hs <;>
        simp only [toBits, Nat.reducePow, hs, Nat.zero_ne_one, decide_false, decide_true,
          Bool.false_eq_true, ↓reduceIte, UInt64.reduceToNat] <;> omega
    next hfrac => simp only [Nat.reducePow, hinf, ↓reduceIte, hfrac, ne_eq, not_true_eq_false] at h
  next hfin =>
    split
    next hsub =>
      have hlt : u.toNat % 4503599627370496 < 4503599627370496 := Nat.mod_lt _ (by decide)
      rcases hsign with hs | hs <;>
        simp only [toBits, Nat.reducePow, hs, Nat.zero_ne_one, decide_false, decide_true,
          Bool.false_eq_true, ↓reduceIte, hlt, Nat.zero_add, UInt64.ofNat_add, UInt64.reduceOfNat,
          UInt64.toNat_add, UInt64.toNat_ofNat, UInt64.toNat_ofNat', Nat.reduceMod,
          Nat.add_mod_mod] <;> omega
    next hnorm =>
      -- a normal number: the magnitude is the significand with its implicit bit, shifted by the
      -- biased exponent less one, so its leading bit stands at 52 plus that shift
      generalize hb : u.toNat / 2 ^ 52 % 2 ^ 11 = biased at *
      generalize hf : u.toNat % 2 ^ 52 = frac at *
      have hfrac : frac < 2 ^ 52 := hf ▸ Nat.mod_lt _ (by decide)
      have hpow : 0 < 2 ^ (biased - 1) := Nat.two_pow_pos _
      have hlog := FloatBits.log2_significand hfrac (biased - 1)
      have hdiv : (2 ^ 52 + frac) * 2 ^ (biased - 1) / 2 ^ (52 + (biased - 1) - 52) =
          2 ^ 52 + frac := by
        rw [show 52 + (biased - 1) - 52 = biased - 1 by omega, Nat.mul_div_cancel _ hpow]
      have hnotlt : ¬ (2 ^ 52 + frac) * 2 ^ (biased - 1) < 2 ^ 52 := by
        have := Nat.le_mul_of_pos_right (2 ^ 52 + frac) hpow
        omega
      simp only [toBits, hnotlt, if_false, hlog, hdiv]
      rcases hsign with hs | hs <;>
        simp only [Nat.reducePow, hs, Nat.zero_ne_one, decide_false, decide_true,
          Bool.false_eq_true, ↓reduceIte, Nat.add_sub_cancel_left, Nat.zero_add, UInt64.ofNat_add,
          UInt64.ofNat_mul, UInt64.reduceOfNat, UInt64.toNat_add, UInt64.toNat_mul,
          UInt64.toNat_ofNat', UInt64.toNat_ofNat, Nat.reduceMod, Nat.mod_mul_mod, Nat.add_mod_mod,
          Nat.mod_add_mod] <;> omega

/-- The `Float` of the double a `Float` holds is that `Float`, unless it is a not-a-number. -/
theorem toFloat_ofFloat (x : Float) (h : ofFloat x ≠ .nan) : (ofFloat x).toFloat = x := by
  unfold toFloat ofFloat at *
  rw [toBits_ofBits _ h]
  exact Float.ofBits_toBits x

/-- The magnitudes of finite doubles: below the overflow, and a whole number of their spacing
(which is one below `2^53`, so that every smaller magnitude is one). -/
structure Representable (mag : Nat) : Prop where
  lt_overflow : mag < overflowMag
  spacing_dvd : spacing mag ∣ mag

theorem representable_zero : Representable 0 :=
  ⟨by unfold overflowMag; positivity, Nat.dvd_zero _⟩

theorem representable_of_ofBits {u : UInt64} {neg : Bool} {mag : Nat}
    (h : ofBits u = .finite neg mag) : Representable mag := by
  have hu : u.toNat < 2 ^ 64 := u.toNat_lt
  unfold ofBits at h
  simp only at h
  split at h
  next => split at h <;> cases h
  next hfin =>
    split at h
    next hsub =>
      cases h
      have hlt : u.toNat % 2 ^ 52 < 2 ^ 52 := Nat.mod_lt _ (by decide)
      have hlog : Nat.log2 (u.toNat % 2 ^ 52) - 52 = 0 := by
        rcases Nat.eq_zero_or_pos (u.toNat % 2 ^ 52) with h0 | h0
        · rw [h0, Nat.log2_zero]
        · have := (Nat.log2_lt (by omega)).mpr hlt
          omega
      refine ⟨by unfold overflowMag; omega, ?_⟩
      rw [spacing, hlog]
      exact Nat.one_dvd _
    next hnorm =>
      cases h
      generalize hb : u.toNat / 2 ^ 52 % 2 ^ 11 = biased at *
      generalize hf : u.toNat % 2 ^ 52 = frac at *
      have hfrac : frac < 2 ^ 52 := hf ▸ Nat.mod_lt _ (by decide)
      have hbl : biased < 2047 := by omega
      have hpow : 0 < 2 ^ (biased - 1) := Nat.two_pow_pos _
      have hlog := FloatBits.log2_significand hfrac (biased - 1)
      refine ⟨?_, ?_⟩
      · -- the largest exponent field is 2046, so the magnitude stays below `2^53 · 2^2045`
        calc (2 ^ 52 + frac) * 2 ^ (biased - 1)
            < 2 ^ 53 * 2 ^ (biased - 1) := Nat.mul_lt_mul_of_pos_right (by omega) hpow
          _ ≤ 2 ^ 53 * 2 ^ 2045 :=
            Nat.mul_le_mul_left _ (Nat.pow_le_pow_right (by decide) (by omega))
          _ = overflowMag := by rw [overflowMag, ← Nat.pow_add]
      · rw [spacing, hlog, show 52 + (biased - 1) - 52 = biased - 1 by omega]
        exact Nat.dvd_mul_left _ _

theorem representable_of_ofFloat {x : Float} {neg : Bool} {mag : Nat}
    (h : ofFloat x = .finite neg mag) : Representable mag :=
  representable_of_ofBits h

/-! ### Writing a double and reading it back -/

/-- The exponent field of a pattern: its bits 52 to 62. -/
theorem toNat_unpackExponent (u : UInt64) :
    (@unpackExponent Format.binary64 u.toBitVec).toNat = u.toNat / 2 ^ 52 % 2 ^ 11 := by
  simp [unpackExponent, BitVec.extractLsb, Nat.shiftRight_eq_div_pow]

/-- The fraction field of a pattern: its bits 0 to 51. -/
theorem toNat_unpackMantissa (u : UInt64) :
    (@unpackMantissa Format.binary64 u.toBitVec).toNat = u.toNat % 2 ^ 52 := by
  simp [unpackMantissa, BitVec.extractLsb]

/-- A pattern that `ofBits` does not read as not-a-number is the bits of a `Float`. -/
theorem valid_of_ofBits_ne {u : UInt64} (h : ofBits u ≠ .nan) :
    Format.binary64.Valid u.toBitVec := by
  refine ⟨fun hexp hmant => absurd ?_ h⟩
  -- an all-ones exponent field over a nonzero fraction is what `ofBits` reads as not-a-number
  have he : u.toNat / 2 ^ 52 % 2 ^ 11 = 2047 := by
    rw [← toNat_unpackExponent, hexp]; rfl
  have hm : u.toNat % 2 ^ 52 ≠ 0 := by
    rw [← toNat_unpackMantissa]
    intro h0
    exact hmant (BitVec.toNat_inj.mp (by simpa using h0))
  unfold ofBits
  simp only [he, if_true, hm, if_false]

/-- Reading a pattern from its sign bit, exponent field and fraction. -/
theorem ofBits_fields {neg : Bool} {e f : Nat} (he : e < 2047) (hf : f < 2 ^ 52) :
    ofBits (UInt64.ofNat ((if neg then 2 ^ 63 else 0) + (e * 2 ^ 52 + f))) =
      if e = 0 then .finite neg f else .finite neg ((2 ^ 52 + f) * 2 ^ (e - 1)) := by
  generalize hn : (if neg then 2 ^ 63 else 0) + (e * 2 ^ 52 + f) = n
  have hlt : n < 2 ^ 64 := by rw [← hn]; split <;> omega
  have hsign : decide (n / 2 ^ 63 = 1) = neg := by
    rw [← hn]; cases neg <;> simp <;> omega
  have hexp : n / 2 ^ 52 % 2 ^ 11 = e := by rw [← hn]; split <;> omega
  have hfrac : n % 2 ^ 52 = f := by rw [← hn]; split <;> omega
  unfold ofBits
  rw [UInt64.toNat_ofNat', Nat.mod_eq_of_lt hlt]
  simp only [hsign, hexp, hfrac, if_neg (show e ≠ 2047 by omega)]

/-- Writing the bits of a representable double and reading them back gives the double. -/
theorem ofBits_toBits_finite (neg : Bool) {mag : Nat} (h : Representable mag) :
    ofBits (toBits (.finite neg mag)) = .finite neg mag := by
  simp only [toBits]
  by_cases hsub : mag < 2 ^ 52
  · -- a subnormal is its own fraction under a zero exponent field
    rw [if_pos hsub]
    simpa using @ofBits_fields neg 0 mag (by decide) hsub
  · rw [if_neg hsub]
    -- a normal magnitude `2^k ≤ mag < 2^(k+1)` is `mag / 2^(k-52)` spacings of `2^(k-52)`
    have hK : 52 ≤ Nat.log2 mag := (Nat.le_log2 (by omega)).mpr (by omega)
    have hlo : 2 ^ Nat.log2 mag ≤ mag := Nat.log2_self_le (by omega)
    have hhi : mag < 2 ^ (Nat.log2 mag + 1) := Nat.lt_log2_self
    have hmax : Nat.log2 mag < 2098 := by
      have hover := h.lt_overflow
      unfold overflowMag at hover
      exact (Nat.log2_lt (by omega)).mpr hover
    have hs : spacing mag = 2 ^ (Nat.log2 mag - 52) := rfl
    have hmul : mag / spacing mag * spacing mag = mag := Nat.div_mul_cancel h.spacing_dvd
    rw [hs] at hmul
    generalize Nat.log2 mag = k at hK hlo hhi hmax hmul
    have hq : 2 ^ 52 ≤ mag / 2 ^ (k - 52) ∧ mag / 2 ^ (k - 52) < 2 ^ 53 := by
      have e1 : 2 ^ k = 2 ^ 52 * 2 ^ (k - 52) := by rw [← Nat.pow_add]; congr 1; omega
      have e2 : 2 ^ (k + 1) = 2 ^ 53 * 2 ^ (k - 52) := by rw [← Nat.pow_add]; congr 1; omega
      have hp : 0 < 2 ^ (k - 52) := Nat.two_pow_pos _
      constructor
      · exact (Nat.le_div_iff_mul_le hp).mpr (by rw [← e1]; exact hlo)
      · exact (Nat.div_lt_iff_lt_mul hp).mpr (by rw [← e2]; exact hhi)
    rw [ofBits_fields (by omega) (by omega), if_neg (by omega),
      show 2 ^ 52 + (mag / 2 ^ (k - 52) - 2 ^ 52) = mag / 2 ^ (k - 52) by omega,
      show k - 51 - 1 = k - 52 by omega, hmul]

theorem ofBits_toBits_inf (neg : Bool) : ofBits (toBits (.inf neg)) = .inf neg := by
  cases neg <;> decide

end Binary

/-- The bits of the `Float` of a pattern are the pattern, unless it is a not-a-number. -/
theorem Float.toBits_ofBits (u : UInt64) (h : Binary.ofBits u ≠ .nan) :
    (Float.ofBits u).toBits = u := by
  show UInt64.ofBitVec (pack Format.binary64 (unpack Format.binary64 u.toBitVec)) = u
  rw [FloatBits.pack_unpack _ (Binary.valid_of_ofBits_ne h), UInt64.ofBitVec_toBitVec]

namespace Binary

/-- A double whose bits read back as itself is the double of its `Float`. -/
theorem ofFloat_toFloat {b : Binary} (h : ofBits (toBits b) = b) (hb : b ≠ .nan) :
    ofFloat b.toFloat = b := by
  unfold ofFloat toFloat
  rw [Float.toBits_ofBits _ (by rw [h]; exact hb), h]

end Binary

end TelemetryBridge
