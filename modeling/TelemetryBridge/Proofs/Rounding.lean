import TelemetryBridge.Proofs.FloatBits
import TelemetryBridge.Decimal.Shortest
import Mathlib.Tactic.Linarith
import Mathlib.Tactic.Ring

/-! # Rounding a ratio to the nearest double

`Binary.nearest n d` rounds the exact ratio `n / d` to a double: it finds the binary exponent of
the ratio (`Binary.floorLog2`), the step of the doubles there (one smallest subnormal up to
`2^53`, then the spacing of the binade), and rounds the ratio to a whole number of steps, a half
going to the even one. This file shows the rounding does what a reader needs of it: every ratio
in the rounding interval of a representable magnitude comes back as that magnitude
(`Binary.nearest_of_inRounding`).

The interval is the one `Decimal.interval` writes down for the shortest-decimal search: half a
spacing on either side, a quarter below a power of two whose lower neighbour is half as far
(`Binary.tightBelow`), the ends belonging to it when the magnitude is an even number of spacings.
Three cases carry the proof: a ratio at or above the magnitude, or below it and not at a tight
power of two, rounds at the magnitude's own spacing (`Binary.roundHalfEven_spacing`); a ratio just
below a tight power of two rounds at half that spacing (`Binary.roundHalfEven_tight`).

Conversely, what `nearest` gives is a double (`Binary.representable_of_nearest`) within half its
spacing of the ratio (`Binary.nearest_error`): the rounding counts whole steps of the ratio's
binade, and the count ends up between `2^52` and `2^53` (`Binary.nearest_spec`).
-/

namespace TelemetryBridge

namespace Binary

/-! ### Rounding half to even and the binary exponent of a ratio -/

/-- Rounding `x / den` half to even gives `m` when `x / den` lies within a half of `m`, an exact
half away only when `m` is even. -/
theorem roundHalfEven_eq {x den m : Nat} (hden : 0 < den)
    (hlo : den * (2 * m) ≤ 2 * x + den) (hhi : 2 * x ≤ den * (2 * m) + den)
    (htie : den * (2 * m) = 2 * x + den ∨ 2 * x = den * (2 * m) + den → m % 2 = 0) :
    roundHalfEven (x / den) (x % den) den = m := by
  have hx := Nat.div_add_mod x den
  have hr := Nat.mod_lt x hden
  generalize x / den = q at hx ⊢
  generalize x % den = r at hx hr ⊢
  unfold roundHalfEven
  by_cases hup : den * m ≤ x
  · -- the quotient is `m` itself, and the remainder at most half of `den`
    have hq : q = m := by
      have h1 : m ≤ q := by
        by_contra hc
        have : den * q + den ≤ den * m := by nlinarith
        omega
      have h2 : q ≤ m := by
        by_contra hc
        have : den * m + den ≤ den * q := by nlinarith
        nlinarith
      omega
    subst hq
    have hr2 : 2 * r ≤ den := by nlinarith
    rw [if_neg]
    rintro (hgt | ⟨heq, hodd⟩)
    · omega
    · have := htie (Or.inr (by nlinarith))
      omega
  · -- the quotient is `m - 1`, and the remainder at least half of `den`
    have hm : 0 < m := by
      rcases Nat.eq_zero_or_pos m with h0 | h0
      · subst h0; omega
      · exact h0
    have hq : q = m - 1 := by
      have h1 : q < m := by
        by_contra hc
        have : den * m ≤ den * q := Nat.mul_le_mul_left _ (by omega)
        omega
      have h2 : m - 1 ≤ q := by
        by_contra hc
        have : den * q + den ≤ den * (m - 1) := by
          have : q + 1 ≤ m - 1 := by omega
          nlinarith
        have e1 : den * m = den * (m - 1) + den := by
          rw [← Nat.mul_succ]; congr 1; omega
        nlinarith
      omega
    subst hq
    have e1 : den * m = den * (m - 1) + den := by
      rw [← Nat.mul_succ]; congr 1; omega
    have hr2 : den ≤ 2 * r := by nlinarith
    rw [if_pos]
    · omega
    by_cases heq : 2 * r = den
    · right
      refine ⟨heq, ?_⟩
      have := htie (Or.inl (by nlinarith))
      omega
    · left
      omega

/-- The binary logarithms of `x` and `d` bound `⌊log₂ (x / d)⌋` up to one. -/
theorem log2_sub_bounds {x d j : Nat} (hd : 0 < d) (hx : 0 < x) :
    (d * 2 ^ j ≤ x → Nat.log2 d + j ≤ Nat.log2 x) ∧
      (x < d * 2 ^ (j + 1) → Nat.log2 x ≤ Nat.log2 d + j + 1) := by
  have hd1 := Nat.log2_self_le (Nat.pos_iff_ne_zero.mp hd)
  have hd2 : d < 2 ^ (Nat.log2 d + 1) := Nat.lt_log2_self
  constructor
  · intro hlo
    refine (Nat.le_log2 (by omega)).mpr ?_
    calc 2 ^ (Nat.log2 d + j) = 2 ^ Nat.log2 d * 2 ^ j := Nat.pow_add _ _ _
      _ ≤ d * 2 ^ j := Nat.mul_le_mul_right _ hd1
      _ ≤ x := hlo
  · intro hhi
    have : Nat.log2 x < Nat.log2 d + j + 2 := by
      refine (Nat.log2_lt (by omega)).mpr ?_
      calc x < d * 2 ^ (j + 1) := hhi
        _ ≤ 2 ^ (Nat.log2 d + 1) * 2 ^ (j + 1) := Nat.mul_le_mul_right _ hd2.le
        _ = 2 ^ (Nat.log2 d + j + 2) := by rw [← Nat.pow_add]; congr 1; omega
    omega

/-- `floorLog2 x d` is the exponent `j` with `2^j ≤ x / d < 2^(j+1)`. -/
theorem floorLog2_eq {x d j : Nat} (hd : 0 < d) (hlo : d * 2 ^ j ≤ x) (hhi : x < d * 2 ^ (j + 1)) :
    floorLog2 x d = j := by
  have hx : 0 < x := Nat.lt_of_lt_of_le (Nat.mul_pos hd (Nat.two_pow_pos j)) hlo
  obtain ⟨h1, h2⟩ := log2_sub_bounds (j := j) hd hx
  have ht1 := h1 hlo
  have ht2 := h2 hhi
  unfold floorLog2
  -- the difference of the logarithms is `j` or `j + 1`, and the test tells the two apart
  rcases Nat.lt_or_ge (Nat.log2 x) (Nat.log2 d + j + 1) with hlt | hge
  · have ht : ((Nat.log2 x : Int) - (Nat.log2 d : Int)) = (j : Int) := by omega
    have hb : ratioBelowPow x d (j : Int) = false := by
      unfold ratioBelowPow
      rw [if_pos (Int.natCast_nonneg _), Int.toNat_natCast]
      exact decide_eq_false (Nat.not_lt.mpr hlo)
    simp only [ht, hb, Bool.false_eq_true, if_false]
  · have ht : ((Nat.log2 x : Int) - (Nat.log2 d : Int)) = ((j + 1 : Nat) : Int) := by omega
    have hb : ratioBelowPow x d ((j + 1 : Nat) : Int) = true := by
      unfold ratioBelowPow
      rw [if_pos (Int.natCast_nonneg _), Int.toNat_natCast]
      exact decide_eq_true hhi
    simp only [ht, hb, if_true]
    omega

/-- Below `2^(j+1)` the ratio has `⌊log₂ (x / d)⌋ ≤ j`. -/
theorem floorLog2_le {x d j : Nat} (hd : 0 < d) (hx : 0 < x) (hhi : x < d * 2 ^ (j + 1)) :
    floorLog2 x d ≤ j := by
  have ht2 := (log2_sub_bounds (j := j) hd hx).2 hhi
  unfold floorLog2
  rcases Nat.lt_or_ge (Nat.log2 x) (Nat.log2 d + j + 1) with hlt | hge
  · dsimp only
    split <;> omega
  · have ht : ((Nat.log2 x : Int) - (Nat.log2 d : Int)) = ((j + 1 : Nat) : Int) := by omega
    have hb : ratioBelowPow x d ((j + 1 : Nat) : Int) = true := by
      unfold ratioBelowPow
      rw [if_pos (Int.natCast_nonneg _), Int.toNat_natCast]
      exact decide_eq_true hhi
    simp only [ht, hb, if_true]
    omega

/-! ### Spacing -/

section Spacing

variable {mag : Nat}

theorem spacing_pos : 0 < spacing mag := Nat.two_pow_pos _

/-- The spacing of a positive magnitude is at most the magnitude. -/
theorem spacing_le (hpos : 0 < mag) : spacing mag ≤ mag :=
  calc spacing mag = 2 ^ (Nat.log2 mag - 52) := rfl
    _ ≤ 2 ^ Nat.log2 mag := Nat.pow_le_pow_right (by decide) (Nat.sub_le _ _)
    _ ≤ mag := Nat.log2_self_le (by omega)

/-- The gap below a magnitude is tight exactly at the powers of two from `2^53` up. -/
theorem tightBelow_iff : tightBelow mag = true ↔ mag = 2 ^ Nat.log2 mag ∧ 53 ≤ Nat.log2 mag := by
  simp only [tightBelow, Bool.and_eq_true, beq_iff_eq, decide_eq_true_eq]

/-- From `2^52` up the binade's first magnitude is `2^52` spacings. -/
theorem two_pow_log2_eq (hK : 52 ≤ Nat.log2 mag) :
    2 ^ Nat.log2 mag = 2 ^ 52 * spacing mag := by
  rw [spacing, ← Nat.pow_add]
  congr 1
  omega

/-- A magnitude holds fewer than `2^53` whole spacings. -/
theorem div_spacing_lt : mag / spacing mag < 2 ^ 53 := by
  have hlt : mag < 2 ^ (Nat.log2 mag + 1) := Nat.lt_log2_self
  rcases Nat.lt_or_ge (Nat.log2 mag) 52 with hK | hK
  · have hs : spacing mag = 1 := by rw [spacing, show Nat.log2 mag - 52 = 0 by omega]
    rw [hs, Nat.div_one]
    calc mag < 2 ^ (Nat.log2 mag + 1) := hlt
      _ ≤ 2 ^ 53 := Nat.pow_le_pow_right (by decide) (by omega)
  · refine (Nat.div_lt_iff_lt_mul spacing_pos).mpr ?_
    calc mag < 2 ^ (Nat.log2 mag + 1) := hlt
      _ = 2 * 2 ^ Nat.log2 mag := by rw [Nat.pow_succ, Nat.mul_comm]
      _ = 2 ^ 53 * spacing mag := by rw [two_pow_log2_eq hK]; ring

/-- The next magnitude up stays within the binade's end. -/
theorem Representable.add_spacing_le (h : Representable mag) :
    mag + spacing mag ≤ 2 ^ (Nat.log2 mag + 1) := by
  have hlt : mag < 2 ^ (Nat.log2 mag + 1) := Nat.lt_log2_self
  rcases Nat.lt_or_ge (Nat.log2 mag) 52 with hK | hK
  · have hs : spacing mag = 1 := by rw [spacing, show Nat.log2 mag - 52 = 0 by omega]
    omega
  · have hm : mag / spacing mag < 2 ^ 53 := div_spacing_lt
    have hmul := Nat.div_mul_cancel h.spacing_dvd
    calc mag + spacing mag = (mag / spacing mag + 1) * spacing mag := by
          rw [Nat.add_mul, hmul, Nat.one_mul]
      _ ≤ 2 ^ 53 * spacing mag := Nat.mul_le_mul_right _ hm
      _ = 2 ^ (Nat.log2 mag + 1) := by rw [Nat.pow_add, two_pow_log2_eq hK]; ring

/-- Above the binade's first magnitude the next magnitude down is still in the binade. -/
theorem Representable.two_pow_add_spacing_le (h : Representable mag)
    (hgt : 2 ^ Nat.log2 mag < mag) : 2 ^ Nat.log2 mag + spacing mag ≤ mag := by
  rcases Nat.lt_or_ge (Nat.log2 mag) 52 with hK | hK
  · have hs : spacing mag = 1 := by rw [spacing, show Nat.log2 mag - 52 = 0 by omega]
    omega
  · -- both are whole numbers of spacings
    rw [two_pow_log2_eq hK] at hgt ⊢
    obtain ⟨m, hm⟩ := h.spacing_dvd
    generalize spacing mag = s at hgt hm ⊢
    subst hm
    have : 2 ^ 52 < m := by
      rw [Nat.mul_comm] at hgt
      exact Nat.lt_of_mul_lt_mul_left hgt
    calc 2 ^ 52 * s + s = (2 ^ 52 + 1) * s := by ring
      _ ≤ m * s := Nat.mul_le_mul_right _ this
      _ = s * m := Nat.mul_comm _ _

end Spacing

/-! ### Rounding a ratio in a rounding interval -/

/-- Whether the ratio `x / d` of smallest subnormals lies in the rounding interval of `mag`,
compared in quarters of the smallest subnormal. -/
def InRounding (mag x d : Nat) : Prop :=
  let iv := Decimal.interval mag
  if iv.closed then iv.lower * d ≤ 4 * x ∧ 4 * x ≤ iv.upper * d
  else iv.lower * d < 4 * x ∧ 4 * x < iv.upper * d

/-- The rounding interval without subtraction: the gap below is one spacing when it is tight
and two otherwise, and an end is reached only when the interval is closed, that is when the
magnitude is an even number of spacings. -/
theorem InRounding.bounds {mag x d : Nat} (h : InRounding mag x d) :
    4 * mag * d ≤ 4 * x + (if tightBelow mag then spacing mag else 2 * spacing mag) * d ∧
      4 * x ≤ 4 * mag * d + 2 * spacing mag * d ∧
      (4 * mag * d = 4 * x + (if tightBelow mag then spacing mag else 2 * spacing mag) * d ∨
        4 * x = 4 * mag * d + 2 * spacing mag * d → mag / spacing mag % 2 = 0) := by
  unfold InRounding Decimal.interval at h
  simp only at h
  generalize (if tightBelow mag then spacing mag else 2 * spacing mag) = δ at h ⊢
  rw [Nat.sub_mul] at h
  split at h
  next hc =>
    obtain ⟨hlo, hhi⟩ := h
    refine ⟨Nat.sub_le_iff_le_add.mp hlo, by rw [Nat.add_mul] at hhi; omega, fun _ => ?_⟩
    simpa using hc
  next hc =>
    obtain ⟨hlo, hhi⟩ := h
    rw [Nat.add_mul] at hhi
    refine ⟨by omega, by omega, ?_⟩
    rintro (h | h) <;> omega

/-- The converse of `InRounding.bounds`: a ratio within the interval's reach, at an end only when
the interval holds its ends, lies in it. -/
theorem inRounding_of_bounds {mag x d : Nat} (hpos : 0 < mag)
    (hlo : 4 * mag * d ≤ 4 * x + (if tightBelow mag then spacing mag else 2 * spacing mag) * d)
    (hhi : 4 * x ≤ 4 * mag * d + 2 * spacing mag * d)
    (hends : 4 * mag * d = 4 * x + (if tightBelow mag then spacing mag else 2 * spacing mag) * d ∨
        4 * x = 4 * mag * d + 2 * spacing mag * d → mag / spacing mag % 2 = 0) :
    InRounding mag x d := by
  -- the gap below is at most twice the spacing, which is at most the magnitude
  have hδ : (if tightBelow mag then spacing mag else 2 * spacing mag) ≤ 4 * mag := by
    have := spacing_le hpos
    split <;> omega
  unfold InRounding Decimal.interval
  simp only
  generalize (if tightBelow mag then spacing mag else 2 * spacing mag) = δ at hlo hends hδ ⊢
  have hδd := Nat.mul_le_mul_right d hδ
  rw [Nat.sub_mul, Nat.add_mul]
  split
  next => constructor <;> omega
  next hc =>
    have hne : ¬ (4 * mag * d = 4 * x + δ * d ∨ 4 * x = 4 * mag * d + 2 * spacing mag * d) :=
      fun h => hc (by simpa using hends h)
    constructor <;> omega

/-- The step of the rounding is the spacing of `mag` when the ratio lies in `mag`'s binade, or
below `2^53` where both are one. -/
theorem floorLog2_sub_toNat {x d mag : Nat} (hd : 0 < d) (hx : 0 < x)
    (hhi : x < d * 2 ^ (Nat.log2 mag + 1)) (hlo : 53 ≤ Nat.log2 mag → d * 2 ^ Nat.log2 mag ≤ x) :
    (floorLog2 x d - 52).toNat = Nat.log2 mag - 52 := by
  by_cases hK : 53 ≤ Nat.log2 mag
  · rw [floorLog2_eq hd (hlo hK) hhi]
    omega
  · have := floorLog2_le hd hx hhi
    omega

/-- Rounding to a multiple of the spacing: a ratio within half a spacing of `mag` rounds to
`mag`, an exact half only when `mag` is an even number of spacings. -/
theorem roundHalfEven_spacing {x d mag : Nat} (hrep : Representable mag) (hd : 0 < d)
    (hlo : 4 * mag * d ≤ 4 * x + 2 * spacing mag * d)
    (hhi : 4 * x ≤ 4 * mag * d + 2 * spacing mag * d)
    (htie : 4 * mag * d = 4 * x + 2 * spacing mag * d ∨ 4 * x = 4 * mag * d + 2 * spacing mag * d →
      mag / spacing mag % 2 = 0) :
    roundHalfEven (x / (d * spacing mag)) (x % (d * spacing mag)) (d * spacing mag) *
      spacing mag = mag := by
  have hms : mag / spacing mag * spacing mag = mag := Nat.div_mul_cancel hrep.spacing_dvd
  have hs : 0 < spacing mag := spacing_pos
  generalize mag / spacing mag = m at hms htie
  generalize spacing mag = s at hms hs hlo hhi htie ⊢
  subst hms
  rw [roundHalfEven_eq (Nat.mul_pos hd hs)]
  · nlinarith
  · nlinarith
  · intro h
    apply htie
    rcases h with h | h
    · left; nlinarith
    · right; nlinarith

/-- Rounding just below a power of two `2^K` whose lower gap is tight: the step there is half a
spacing, `2^(K-53)`, and a ratio within a quarter spacing below `2^K` still rounds to it. -/
theorem roundHalfEven_tight {x d K : Nat} (hd : 0 < d) (hK : 53 ≤ K)
    (hlo : 4 * 2 ^ K * d ≤ 4 * x + 2 ^ (K - 52) * d) (hhi : x < 2 ^ K * d) :
    roundHalfEven (x / (d * 2 ^ (K - 53))) (x % (d * 2 ^ (K - 53))) (d * 2 ^ (K - 53)) *
      2 ^ (K - 53) = 2 ^ K := by
  have hK1 : 2 ^ K = 2 ^ 53 * 2 ^ (K - 53) := by rw [← Nat.pow_add]; congr 1; omega
  have hK2 : 2 ^ (K - 52) = 2 * 2 ^ (K - 53) := by
    rw [show K - 52 = (K - 53) + 1 by omega, Nat.pow_succ, Nat.mul_comm]
  rw [hK1] at hlo hhi ⊢
  rw [hK2] at hlo
  generalize 2 ^ (K - 53) = t at hlo hhi ⊢
  have ht : 0 < t := by
    rcases Nat.eq_zero_or_pos t with h0 | h0
    · subst h0; simp at hhi
    · exact h0
  rw [roundHalfEven_eq (Nat.mul_pos hd ht)]
  · nlinarith
  · nlinarith
  · intro _
    decide

/-- Just below a power of two `2^K` whose lower gap is tight, within a quarter spacing of it, the
ratio lies in the binade below, so the step of the rounding is `2^(K-53)`. -/
theorem floorLog2_tight {x d K : Nat} (hd : 0 < d) (hK : 53 ≤ K)
    (hlo : 4 * 2 ^ K * d ≤ 4 * x + 2 ^ (K - 52) * d) (hhi : x < 2 ^ K * d) :
    (floorLog2 x d - 52).toNat = K - 53 := by
  have hlow : d * 2 ^ (K - 1) ≤ x := by
    have e1 : 2 ^ K = 2 * 2 ^ (K - 1) :=
      calc 2 ^ K = 2 ^ ((K - 1) + 1) := by rw [Nat.sub_add_cancel (by omega)]
        _ = 2 * 2 ^ (K - 1) := Nat.pow_succ'
    have e2 : 2 ^ (K - 52) * d ≤ 2 ^ (K - 1) * d :=
      Nat.mul_le_mul_right _ (Nat.pow_le_pow_right (by decide) (by omega))
    have e3 := Nat.zero_le (2 ^ (K - 1) * d)
    rw [e1] at hlo
    linarith only [hlo, e2, e3]
  rw [floorLog2_eq hd hlow (by rw [show K - 1 + 1 = K by omega, Nat.mul_comm]; exact hhi)]
  omega

/-- Outside the tight case a ratio that the lower gap of `mag` reaches lies in `mag`'s binade:
from `2^53` up a magnitude that is not tight is above the binade's first magnitude by a spacing
or more, and the gap below it is two spacings. -/
theorem binade_le_of_not_tight {x d mag : Nat} (hrep : Representable mag) (hK : 53 ≤ Nat.log2 mag)
    (hbelow : ¬(x < mag * d ∧ tightBelow mag = true))
    (hlo : 4 * mag * d ≤ 4 * x + (if tightBelow mag then spacing mag else 2 * spacing mag) * d) :
    d * 2 ^ Nat.log2 mag ≤ x := by
  have hbin : 2 ^ Nat.log2 mag ≤ mag :=
    Nat.log2_self_le fun h => by rw [h, Nat.log2_zero] at hK; omega
  by_cases hup : mag * d ≤ x
  · exact Nat.le_trans (by rw [Nat.mul_comm]; exact Nat.mul_le_mul_right _ hbin) hup
  · have ht : tightBelow mag = false := by
      cases htb : tightBelow mag
      · rfl
      · exact absurd ⟨Nat.lt_of_not_le hup, htb⟩ hbelow
    have hgt : 2 ^ Nat.log2 mag < mag := by
      rcases Nat.lt_or_eq_of_le hbin with hlt | heq
      · exact hlt
      · have : tightBelow mag = true := tightBelow_iff.mpr ⟨heq.symm, hK⟩
        simp [this] at ht
    have := hrep.two_pow_add_spacing_le hgt
    rw [ht] at hlo
    simp only [Bool.false_eq_true, if_false] at hlo
    nlinarith

/-- **Rounding a ratio in a rounding interval.** A ratio of whole numbers that lies in the
rounding interval of a positive representable magnitude rounds to that magnitude. -/
theorem nearest_of_inRounding {n d mag : Nat} (hrep : Representable mag) (hpos : 0 < mag)
    (hd : 0 < d) (h : InRounding mag (n * 2 ^ 1074) d) : nearest n d = some mag := by
  obtain ⟨hlo, hhi, htie⟩ := h.bounds
  have hs : 0 < spacing mag := spacing_pos
  have hsm : spacing mag ≤ mag := spacing_le hpos
  have hnext := hrep.add_spacing_le
  have hn : 0 < n := by
    rcases Nat.eq_zero_or_pos n with h0 | h0
    · subst h0
      rw [Nat.zero_mul] at hlo
      split at hlo <;> nlinarith
    · exact h0
  generalize hx : n * 2 ^ 1074 = x at hlo hhi htie
  have hx0 : 0 < x := by rw [← hx]; exact Nat.mul_pos hn (Nat.two_pow_pos _)
  -- the ratio is below the end of `mag`'s binade
  have hend : x < d * 2 ^ (Nat.log2 mag + 1) := by
    have : 4 * x < 4 * (d * 2 ^ (Nat.log2 mag + 1)) := by nlinarith
    omega
  unfold nearest
  rw [if_neg (by omega)]
  simp only [hx]
  by_cases hbelow : x < mag * d ∧ tightBelow mag = true
  · -- just below a tight power of two: the step is half a spacing
    obtain ⟨hxb, ht⟩ := hbelow
    obtain ⟨hpow, hK⟩ := tightBelow_iff.mp ht
    rw [if_pos ht] at hlo
    have hsp : spacing mag = 2 ^ (Nat.log2 mag - 52) := rfl
    generalize Nat.log2 mag = K at hpow hK hsp hend
    subst hpow
    rw [hsp] at hlo
    simp only [floorLog2_tight hd hK hlo hxb]
    rw [roundHalfEven_tight hd hK hlo hxb, if_neg (by have := hrep.lt_overflow; omega)]
  · -- elsewhere the step is the spacing
    have hstep : (floorLog2 x d - 52).toNat = Nat.log2 mag - 52 :=
      floorLog2_sub_toNat hd hx0 hend fun hK => binade_le_of_not_tight hrep hK hbelow hlo
    simp only [hstep]
    have hsp : 2 ^ (Nat.log2 mag - 52) = spacing mag := rfl
    rw [hsp]
    have hlo' : 4 * mag * d ≤ 4 * x + 2 * spacing mag * d := by
      split at hlo <;> nlinarith
    rw [roundHalfEven_spacing hrep hd hlo' hhi, if_neg (by have := hrep.lt_overflow; omega)]
    intro htie'
    rcases htie' with h1 | h1
    · -- a tie at the lower end: in the tight case the ratio would be below `mag`
      apply htie
      left
      split
      next ht =>
        exfalso
        have hup : mag * d ≤ x := by
          by_contra hc
          exact hbelow ⟨Nat.lt_of_not_le hc, ht⟩
        nlinarith
      next => exact h1
    · exact htie (Or.inr h1)

/-! ### What `nearest` gives -/

/-- Rounding half to even lands within half a denominator of the ratio. -/
theorem roundHalfEven_bounds (q : Nat) {r den : Nat} (hr : r < den) :
    den * (2 * roundHalfEven q r den) ≤ 2 * (q * den + r) + den ∧
      2 * (q * den + r) ≤ den * (2 * roundHalfEven q r den) + den := by
  unfold roundHalfEven
  split
  next hup =>
    have : den ≤ 2 * r := by omega
    constructor <;> nlinarith
  next hdown =>
    have : 2 * r ≤ den := by omega
    constructor <;> nlinarith

/-- `floorLog2` of a ratio of at least one: the exponent of the binade holding it. -/
theorem floorLog2_spec {x d : Nat} (hd : 0 < d) (hx : d ≤ x) :
    ∃ j : Nat, floorLog2 x d = j ∧ d * 2 ^ j ≤ x ∧ x < d * 2 ^ (j + 1) := by
  have hq : 0 < x / d := Nat.div_pos hx hd
  have hlo : d * 2 ^ Nat.log2 (x / d) ≤ x :=
    calc d * 2 ^ Nat.log2 (x / d) ≤ d * (x / d) := Nat.mul_le_mul_left _ (Nat.log2_self_le (by omega))
      _ ≤ x := Nat.mul_div_le x d
  have hhi : x < d * 2 ^ (Nat.log2 (x / d) + 1) := by
    rw [Nat.mul_comm]
    exact (Nat.div_lt_iff_lt_mul hd).mp Nat.lt_log2_self
  exact ⟨_, floorLog2_eq hd hlo hhi, hlo, hhi⟩

/-- A count of steps rounded from below `2^53` steps is at most `2^53`. -/
theorem le_two_pow_53_of_round {D k x : Nat} (hb : D * (2 * k) ≤ 2 * x + D)
    (hx : x < D * 2 ^ 53) : k ≤ 2 ^ 53 := by
  have : D * (2 * k) < D * (2 * 2 ^ 53 + 1) := by nlinarith
  have := Nat.lt_of_mul_lt_mul_left this
  omega

/-- A count of steps rounded from at least `2^52` steps is at least `2^52`. -/
theorem two_pow_52_le_of_round {D k x : Nat} (hD : 0 < D) (hb : 2 * x ≤ D * (2 * k) + D)
    (hx : D * 2 ^ 52 ≤ x) : 2 ^ 52 ≤ k := by
  have : D * (2 * 2 ^ 52) ≤ D * (2 * k + 1) := by nlinarith
  have := Nat.le_of_mul_le_mul_left this hD
  omega

/-- An exact half is rounded to the even neighbour. -/
theorem roundHalfEven_even_of_tie {q r den : Nat} (hr : r < den)
    (htie : den * (2 * roundHalfEven q r den) = 2 * (q * den + r) + den ∨
      2 * (q * den + r) = den * (2 * roundHalfEven q r den) + den) :
    roundHalfEven q r den % 2 = 0 := by
  unfold roundHalfEven at htie ⊢
  split
  next hup =>
    rw [if_pos hup] at htie
    -- rounded up from a tie: the remainder is half the denominator, so `q` is odd
    have h2r : 2 * r = den := by rcases htie with h | h <;> nlinarith
    omega
  next hdown =>
    rw [if_neg hdown] at htie
    have h2r : 2 * r = den := by rcases htie with h | h <;> nlinarith
    omega

/-- What `nearest` computes for a positive ratio `x / d`, with `x = n · 2^1074`: `k` steps of
`2^e` below the overflow, within half a step of the ratio and an exact half away only when `k`
is even. The step is one while the ratio is below `2^53`; above, the ratio lies in the binade
`[2^52, 2^53)` of steps. -/
theorem nearest_rounds {n d m : Nat} (hd : 0 < d) (hn : 0 < n) (h : nearest n d = some m) :
    ∃ k e, m = k * 2 ^ e ∧ m < overflowMag ∧
      d * 2 ^ e * (2 * k) ≤ 2 * (n * 2 ^ 1074) + d * 2 ^ e ∧
      2 * (n * 2 ^ 1074) ≤ d * 2 ^ e * (2 * k) + d * 2 ^ e ∧
      (d * 2 ^ e * (2 * k) = 2 * (n * 2 ^ 1074) + d * 2 ^ e ∨
        2 * (n * 2 ^ 1074) = d * 2 ^ e * (2 * k) + d * 2 ^ e → k % 2 = 0) ∧
      (e = 0 ∧ n * 2 ^ 1074 < d * 2 ^ 53 ∨
        d * 2 ^ e * 2 ^ 52 ≤ n * 2 ^ 1074 ∧ n * 2 ^ 1074 < d * 2 ^ e * 2 ^ 53) := by
  unfold nearest at h
  rw [if_neg (by omega)] at h
  dsimp only at h
  have hx0 : 0 < n * 2 ^ 1074 := Nat.mul_pos hn (Nat.two_pow_pos 1074)
  generalize n * 2 ^ 1074 = x at h hx0 ⊢
  generalize he : (floorLog2 x d - 52).toNat = e at h
  have hden : 0 < d * 2 ^ e := Nat.mul_pos hd (Nat.two_pow_pos e)
  have hsplit := Nat.div_add_mod x (d * 2 ^ e)
  have hr := Nat.mod_lt x hden
  have htie := fun ht => roundHalfEven_even_of_tie (q := x / (d * 2 ^ e)) hr ht
  obtain ⟨hb1, hb2⟩ := roundHalfEven_bounds (x / (d * 2 ^ e)) hr
  generalize roundHalfEven (x / (d * 2 ^ e)) (x % (d * 2 ^ e)) (d * 2 ^ e) = k at h htie hb1 hb2
  rw [Nat.mul_comm (x / _), hsplit] at hb1 hb2 htie
  split at h
  next => cases h
  next hover =>
    cases h
    refine ⟨k, e, rfl, by omega, hb1, hb2, htie, ?_⟩
    -- the step is one while the ratio is below `2^53`; above, the ratio lies in `[2^j, 2^(j+1))`
    -- with a step of `2^(j-52)`
    by_cases hxd : x < d * 2 ^ 53
    · refine .inl ⟨?_, hxd⟩
      rcases Nat.lt_or_ge x d with hlt | hge
      · have := floorLog2_le (j := 0) hd hx0 (by rw [Nat.zero_add, Nat.pow_one]; omega)
        omega
      · obtain ⟨j, hj, hlo, hhi⟩ := floorLog2_spec hd hge
        have : j < 53 := by
          by_contra hc
          have : d * 2 ^ 53 ≤ d * 2 ^ j := Nat.mul_le_mul_left _ (Nat.pow_le_pow_right (by decide) (by omega))
          omega
        omega
    · obtain ⟨j, hj, hlo, hhi⟩ := floorLog2_spec (x := x) hd (by
        have : d ≤ d * 2 ^ 53 := Nat.le_mul_of_pos_right _ (Nat.two_pow_pos 53)
        omega)
      have hj53 : 53 ≤ j := by
        by_contra hc
        have : d * 2 ^ (j + 1) ≤ d * 2 ^ 53 := Nat.mul_le_mul_left _ (Nat.pow_le_pow_right (by decide) (by omega))
        omega
      have hej : e = j - 52 := by omega
      subst hej
      have e1 : d * 2 ^ (j + 1) = d * 2 ^ (j - 52) * 2 ^ 53 := by
        rw [Nat.mul_assoc, ← Nat.pow_add]; congr 2; omega
      have e2 : d * 2 ^ j = d * 2 ^ (j - 52) * 2 ^ 52 := by
        rw [Nat.mul_assoc, ← Nat.pow_add]; congr 2; omega
      exact .inr ⟨e2 ▸ hlo, e1 ▸ hhi⟩

/-- What `nearest` computes for a positive ratio: `k` steps of `2^e`, within half a step of the
ratio, where the step is one or `k` has the full 53 bits of a significand (and `2^53` when the
ratio rounds up to the next binade). -/
theorem nearest_spec {n d m : Nat} (hd : 0 < d) (hn : 0 < n) (h : nearest n d = some m) :
    ∃ k e, m = k * 2 ^ e ∧ m < overflowMag ∧
      d * 2 ^ e * (2 * k) ≤ 2 * (n * 2 ^ 1074) + d * 2 ^ e ∧
      2 * (n * 2 ^ 1074) ≤ d * 2 ^ e * (2 * k) + d * 2 ^ e ∧
      k ≤ 2 ^ 53 ∧ (e = 0 ∨ 2 ^ 52 ≤ k) := by
  obtain ⟨k, e, hm, hover, hb1, hb2, -, hbin⟩ := nearest_rounds hd hn h
  refine ⟨k, e, hm, hover, hb1, hb2, ?_⟩
  -- the count is rounded from below `2^53` steps, and from at least `2^52` once the step is more
  -- than one
  rcases hbin with ⟨rfl, hx⟩ | ⟨hlo, hhi⟩
  · exact ⟨le_two_pow_53_of_round hb1 (by simpa using hx), .inl rfl⟩
  · exact ⟨le_two_pow_53_of_round hb1 hhi,
      .inr (two_pow_52_le_of_round (Nat.mul_pos hd (Nat.two_pow_pos e)) hb2 hlo)⟩

/-- A step of `2^e` is at most the spacing of `k` steps when `k` has the full 53 bits. -/
theorem two_pow_le_spacing {k e : Nat} (h : e = 0 ∨ 2 ^ 52 ≤ k) : 2 ^ e ≤ spacing (k * 2 ^ e) := by
  rcases h with rfl | hk
  · exact spacing_pos
  · have : 52 + e ≤ Nat.log2 (k * 2 ^ e) := by
      refine (Nat.le_log2 (Nat.mul_ne_zero (by omega) (by positivity))).mpr ?_
      rw [Nat.pow_add]
      exact Nat.mul_le_mul_right _ hk
    exact Nat.pow_le_pow_right (by decide) (by omega)

/-- `k` steps of `2^e`, at most `2^53` of them and the full 53 bits unless the step is one, are a
whole number of their spacing. -/
theorem spacing_dvd_mul {k e : Nat} (hk : k ≤ 2 ^ 53) (h : e = 0 ∨ 2 ^ 52 ≤ k) :
    spacing (k * 2 ^ e) ∣ k * 2 ^ e := by
  rcases Nat.eq_zero_or_pos k with rfl | hpos
  · simp
  have hlog : Nat.log2 (k * 2 ^ e) < 54 + e := by
    refine (Nat.log2_lt (Nat.mul_ne_zero (by omega) (by positivity))).mpr ?_
    rw [Nat.pow_add]
    exact Nat.mul_lt_mul_of_pos_right (by omega) (Nat.two_pow_pos e)
  by_cases htop : Nat.log2 (k * 2 ^ e) = 53 + e
  · -- at the top of the range the count is exactly `2^53`
    have hk53 : k = 2 ^ 53 := by
      have h1 : 2 ^ (53 + e) ≤ k * 2 ^ e := htop ▸ Nat.log2_self_le (Nat.mul_ne_zero (by omega) (by positivity))
      rw [Nat.pow_add] at h1
      have := Nat.le_of_mul_le_mul_right h1 (Nat.two_pow_pos e)
      omega
    rw [spacing, htop, hk53, ← Nat.pow_add]
    exact Nat.pow_dvd_pow 2 (by omega)
  · rw [spacing]
    exact Nat.dvd_trans (Nat.pow_dvd_pow 2 (by omega)) (Nat.dvd_mul_left _ _)

/-- **The rounding error of `nearest`.** The double nearest to a ratio lies within half its
spacing of it. -/
theorem nearest_error {n d m : Nat} (hd : 0 < d) (h : nearest n d = some m) :
    2 * (n * 2 ^ 1074) ≤ 2 * m * d + spacing m * d ∧
      2 * m * d ≤ 2 * (n * 2 ^ 1074) + spacing m * d := by
  rcases Nat.eq_zero_or_pos n with rfl | hn
  · have : m = 0 := by simpa [nearest] using h.symm
    subst this
    simp
  obtain ⟨k, e, rfl, -, hb1, hb2, -, hfull⟩ := nearest_spec hd hn h
  have hs := Nat.mul_le_mul_left d (two_pow_le_spacing hfull)
  constructor
  · calc 2 * (n * 2 ^ 1074) ≤ d * 2 ^ e * (2 * k) + d * 2 ^ e := hb2
      _ ≤ 2 * (k * 2 ^ e) * d + spacing (k * 2 ^ e) * d := by nlinarith
  · calc 2 * (k * 2 ^ e) * d = d * 2 ^ e * (2 * k) := by ring
      _ ≤ 2 * (n * 2 ^ 1074) + d * 2 ^ e := hb1
      _ ≤ 2 * (n * 2 ^ 1074) + spacing (k * 2 ^ e) * d := by nlinarith

/-- The magnitude `nearest` gives is a double's. -/
theorem representable_of_nearest {n d m : Nat} (hd : 0 < d) (h : nearest n d = some m) :
    Representable m := by
  rcases Nat.eq_zero_or_pos n with rfl | hn
  · have : m = 0 := by simpa [nearest] using h.symm
    subst this
    exact representable_zero
  obtain ⟨k, e, rfl, hover, -, -, hk, hfull⟩ := nearest_spec hd hn h
  exact ⟨hover, spacing_dvd_mul hk hfull⟩

end Binary

end TelemetryBridge
