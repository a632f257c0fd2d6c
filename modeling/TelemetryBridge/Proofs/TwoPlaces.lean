import TelemetryBridge.Proofs.ShortestDecimal
import TelemetryBridge.Telemetry.Frame

/-! # Rounding to two places settles after one pass

`roundPlaces2` rounds a double to the nearest hundredth of its exact value and reads the
hundredths back as the nearest double. Doing it twice gives the same double, bit for bit
(`roundPlaces2_roundPlaces2`). The two roundings work on different grids, hundredths and doubles,
and the argument depends on how the spacing of the doubles compares with a hundredth:

* below `2^46` the doubles are closer than a hundredth, so the double nearest to `h` hundredths
  lies within half a hundredth of them and has `h` as its own hundredths
  (`Binary.hundredths_of_nearest_below`);
* from `2^46` up the doubles are more than a hundredth apart, so any double lies closer to its
  hundredths than half its spacing and is the double nearest to them
  (`Binary.nearest_hundredths_above`). A double there that is not the image of a rounding can
  still move: between `2^45` and `2^46`, `n + 0.125` is half a hundredth from `n.12` and
  `n.13`, which is more than half its spacing.

Magnitudes are counted in smallest subnormals, so `2^46` is the magnitude `2^1120` and a
hundredth is `2^1074 / 100` of them.

A frame rounds the payload's pressure and current once more, so the frame carries the payload's
values unchanged (`roundPlaces2_settles`).
-/

namespace TelemetryBridge

namespace Binary

/-! ### Hundredths -/

/-- The hundredths of a magnitude lie within half a hundredth of it. -/
theorem hundredths_bounds (mag : Nat) :
    2 ^ 1074 * (2 * hundredths mag) ≤ 2 * (mag * 100) + 2 ^ 1074 ∧
      2 * (mag * 100) ≤ 2 ^ 1074 * (2 * hundredths mag) + 2 ^ 1074 := by
  have hsplit := Nat.div_add_mod (mag * 100) (2 ^ 1074)
  have := roundHalfEven_bounds ((mag * 100) / 2 ^ 1074) (Nat.mod_lt (mag * 100) (Nat.two_pow_pos 1074))
  rw [Nat.mul_comm ((mag * 100) / _), hsplit] at this
  exact this

/-- A magnitude that is a whole number of hundredths is its own hundredths. -/
theorem hundredths_exact {mag : Nat} (h : 2 ^ 1074 ∣ mag * 100) :
    hundredths mag * 2 ^ 1074 = mag * 100 := by
  have hD : 0 < 2 ^ 1074 := Nat.two_pow_pos 1074
  unfold hundredths
  dsimp only
  unfold roundHalfEven
  -- `omega` would expand the power into a numeral of 324 digits
  generalize 2 ^ 1074 = D at h hD ⊢
  rw [Nat.mod_eq_zero_of_dvd h, if_neg (by omega), Nat.div_mul_cancel h]

/-- A ratio strictly inside the rounding interval of a positive magnitude is in it, whether or
not its ends belong to it. -/
theorem inRounding_of_lt {mag x d : Nat} (hpos : 0 < mag)
    (hlo : 4 * mag * d < 4 * x + (if tightBelow mag then spacing mag else 2 * spacing mag) * d)
    (hhi : 4 * x < 4 * mag * d + 2 * spacing mag * d) : InRounding mag x d :=
  -- away from both ends, whether the interval holds them does not matter
  inRounding_of_bounds hpos hlo.le hhi.le fun h => absurd h (by omega)

/-! ### Rounding to hundredths twice -/

/-- Below `2^46` the doubles are closer than a hundredth: the double nearest to `h` hundredths
has `h` as its hundredths. -/
theorem hundredths_of_nearest_below {h m : Nat} (hm : nearest h 100 = some m)
    (hsmall : m < 2 ^ 1120) : hundredths m = h := by
  obtain ⟨herr1, herr2⟩ := nearest_error (by decide) hm
  -- half the spacing is at most `2^-8`, well below half a hundredth
  have hs : spacing m ≤ 2 ^ 1067 := by
    rcases Nat.eq_zero_or_pos m with rfl | hpos
    · exact Nat.le_trans (by decide) Nat.one_le_two_pow
    · have : Nat.log2 m < 1120 := (Nat.log2_lt (by omega)).mpr hsmall
      exact Nat.pow_le_pow_right (by decide) (by omega)
  have e1 : (2 : Nat) ^ 1074 = 128 * 2 ^ 1067 := by rw [show 1074 = 7 + 1067 from rfl, Nat.pow_add]
  unfold hundredths
  dsimp only
  rw [e1] at herr1 herr2 ⊢
  have hU : 0 < (2 : Nat) ^ 1067 := Nat.two_pow_pos 1067
  generalize (2 : Nat) ^ 1067 = U at hs hU herr1 herr2 ⊢
  apply roundHalfEven_eq (by omega)
  · nlinarith
  · nlinarith
  · -- the ratio is strictly within half a hundredth, so no tie arises
    intro htie
    exfalso
    rcases htie with h1 | h1 <;> nlinarith

/-- From `2^46` up the doubles are more than a hundredth apart: a double is the double nearest
to its hundredths. -/
theorem nearest_hundredths_above {m : Nat} (hrep : Representable m) (hbig : 2 ^ 1120 ≤ m) :
    nearest (hundredths m) 100 = some m := by
  have hpos : 0 < m := Nat.lt_of_lt_of_le (Nat.two_pow_pos 1120) hbig
  have hlog : 1120 ≤ Nat.log2 m := (Nat.le_log2 (Nat.pos_iff_ne_zero.mp hpos)).mpr hbig
  clear hbig
  have hs : 2 ^ 1068 ≤ spacing m := Nat.pow_le_pow_right (by decide) (Nat.le_sub_of_add_le hlog)
  obtain ⟨hb1, hb2⟩ := hundredths_bounds m
  have e1 : (2 : Nat) ^ 1074 = 128 * 2 ^ 1067 := by rw [show 1074 = 7 + 1067 from rfl, Nat.pow_add]
  have e2 : (2 : Nat) ^ 1068 = 2 * 2 ^ 1067 := by rw [show 1068 = 1 + 1067 from rfl, Nat.pow_add]
  have hU : 0 < (2 : Nat) ^ 1067 := Nat.two_pow_pos 1067
  refine nearest_of_inRounding hrep hpos (by decide) (inRounding_of_lt hpos ?_ ?_)
  · split
    next htight =>
      -- at a power of two from `2^46` up the double is a whole number of hundredths, and a
      -- quarter spacing below it would not leave room for half a hundredth
      have hm : m = 2 ^ Nat.log2 m := by
        simpa [tightBelow] using ((Bool.and_eq_true _ _).mp htight).1
      have hdvd : 2 ^ 1074 ∣ m * 100 := by
        refine Nat.dvd_trans ?_ (Nat.dvd_mul_right m 100)
        rw [hm]
        exact Nat.pow_dvd_pow 2 (Nat.le_trans (by decide) hlog)
      rw [hundredths_exact hdvd]
      have := Nat.mul_pos (spacing_pos : 0 < spacing m) (show 0 < 100 by decide)
      linarith only [this]
    next =>
      rw [e1] at hb1 hb2 ⊢
      rw [e2] at hs
      generalize (2 : Nat) ^ 1067 = U at hb1 hb2 hs hU ⊢
      linarith only [hb1, hb2, hs, hU]
  · rw [e1] at hb1 hb2 ⊢
    rw [e2] at hs
    generalize (2 : Nat) ^ 1067 = U at hb1 hb2 hs hU ⊢
    linarith only [hb1, hb2, hs, hU]

/-- **The image of the rounding is fixed.** The double nearest to a number of hundredths is the
double nearest to its own hundredths. -/
theorem nearest_hundredths_of_nearest {h m : Nat} (hm : nearest h 100 = some m) :
    nearest (hundredths m) 100 = some m := by
  by_cases hsmall : m < 2 ^ 1120
  · rw [hundredths_of_nearest_below hm hsmall]
    exact hm
  · exact nearest_hundredths_above (representable_of_nearest (by decide) hm) (Nat.le_of_not_lt hsmall)

/-- Rounding a finite double to two places, when the hundredths have a nearest double. -/
theorem roundPlaces2_of_some {neg : Bool} {mag m : Nat} (hm : nearest (hundredths mag) 100 = some m) :
    roundPlaces2 (.finite neg mag) = .finite neg m := by
  -- `dsimp` opens the match on the double; the equation lemmas of `roundPlaces2` would try to
  -- evaluate `2^1074` structurally
  unfold roundPlaces2
  dsimp only
  rw [hm]

/-- Rounding a finite double to two places, when the hundredths are past the largest double. -/
theorem roundPlaces2_of_none {neg : Bool} {mag : Nat} (hm : nearest (hundredths mag) 100 = none) :
    roundPlaces2 (.finite neg mag) = .inf neg := by
  unfold roundPlaces2
  dsimp only
  rw [hm]

/-- Rounding a double to two places twice is rounding it once. -/
theorem roundPlaces2_roundPlaces2 (b : Binary) : roundPlaces2 (roundPlaces2 b) = roundPlaces2 b := by
  cases b with
  | finite neg mag =>
    cases hm : nearest (hundredths mag) 100 with
    | none => rw [roundPlaces2_of_none hm]; rfl
    | some m => rw [roundPlaces2_of_some hm, roundPlaces2_of_some (nearest_hundredths_of_nearest hm)]
  | nan => rfl
  | inf neg => rfl

/-- What rounding a finite double to two places gives is the double of its `Float`. -/
theorem ofFloat_toFloat_roundPlaces2 (neg : Bool) (mag : Nat) :
    ofFloat (roundPlaces2 (.finite neg mag)).toFloat = roundPlaces2 (.finite neg mag) := by
  cases hm : nearest (hundredths mag) 100 with
  | none =>
    rw [roundPlaces2_of_none hm]
    exact ofFloat_toFloat (ofBits_toBits_inf neg) (by simp)
  | some m =>
    rw [roundPlaces2_of_some hm]
    exact ofFloat_toFloat (ofBits_toBits_finite neg (representable_of_nearest (by decide) hm))
      (by simp)

end Binary

/-- Rounding a finite `Float` to two places rounds its double. -/
theorem roundPlaces2_of_finite {x : Float} {neg : Bool} {mag : Nat}
    (hx : Binary.ofFloat x = .finite neg mag) :
    roundPlaces2 x = (Binary.roundPlaces2 (.finite neg mag)).toFloat := by
  unfold roundPlaces2
  rw [hx]

/-- Not-a-number and the infinities pass through the rounding unchanged. -/
theorem roundPlaces2_of_not_finite {x : Float} (hx : ∀ neg mag, Binary.ofFloat x ≠ .finite neg mag) :
    roundPlaces2 x = x := by
  unfold roundPlaces2
  split
  next neg mag h => exact absurd h (hx neg mag)
  next => rfl

/-- **Rounding to two places is idempotent**, bit for bit: a `Float` is its bits
(`Float.ofBits_toBits`). -/
theorem roundPlaces2_idempotent (x : Float) : roundPlaces2 (roundPlaces2 x) = roundPlaces2 x := by
  by_cases hfin : ∃ neg mag, Binary.ofFloat x = .finite neg mag
  · obtain ⟨neg, mag, hx⟩ := hfin
    rw [roundPlaces2_of_finite hx]
    have hc := Binary.ofFloat_toFloat_roundPlaces2 neg mag
    -- the rounded double is finite, or an infinity when the hundredths are past the largest
    cases hm : Binary.nearest (Binary.hundredths mag) 100 with
    | none =>
      rw [Binary.roundPlaces2_of_none hm] at hc ⊢
      exact roundPlaces2_of_not_finite (by intro _ _; rw [hc]; simp)
    | some m =>
      rw [Binary.roundPlaces2_of_some hm] at hc ⊢
      rw [roundPlaces2_of_finite hc,
        Binary.roundPlaces2_of_some (Binary.nearest_hundredths_of_nearest hm)]
  · have h : roundPlaces2 x = x := roundPlaces2_of_not_finite fun neg mag hx => hfin ⟨neg, mag, hx⟩
    rw [h, h]

/-- **A frame keeps the payload's measurements.** Rounding to two places settles after one pass,
so the frame of a built payload rounds its pressure and current to themselves: the frame carries
the payload's values bit for bit, and writes the same number texts for them as the payload
document. -/
theorem roundPlaces2_settles :
    (∀ x : Float, roundPlaces2 (roundPlaces2 x) = roundPlaces2 x) ∧
      ∀ (profile : Bytes) (r : Record),
        (Frame.ofPayload (Payload.ofRecord profile r)).press =
            (Payload.ofRecord profile r).pressure ∧
          (Frame.ofPayload (Payload.ofRecord profile r)).current =
            (Payload.ofRecord profile r).current := by
  refine ⟨roundPlaces2_idempotent, fun profile r => ?_⟩
  simp only [Frame.ofPayload, Payload.ofRecord, roundPlaces2_idempotent, and_self]

end TelemetryBridge
