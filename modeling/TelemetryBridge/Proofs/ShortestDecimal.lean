import TelemetryBridge.Proofs.Rounding
import Mathlib.Algebra.Order.Field.Rat
import Mathlib.Algebra.Order.Field.Power
import Mathlib.Tactic.FieldSimp
import Mathlib.Tactic.Positivity
import Mathlib.Tactic.GCongr
import Mathlib.Tactic.Linarith
import Mathlib.Tactic.NormNum
import Mathlib.Tactic.Ring

/-!
# The shortest decimal reads back as its double

The shortest decimal of a positive double lies in the double's rounding interval, so every
correctly rounded reader takes it back to the double. The argument has three parts:

* the exact comparisons of the search (`gridCompare`, `Interval.holds`) are comparisons of
  rationals, and a grid point in the interval is a ratio in `Binary.InRounding`;
* seventeen places below the leading decimal digit the grid is finer than the spacing of the
  double, so the search from one place above the leading digit always hits within its fuel of
  nineteen grids;
* dropping trailing zeros keeps the value.

Main results: `Decimal.shortest_eq_hit` and `Decimal.nearest_of_shortest`.
-/

namespace TelemetryBridge

namespace Decimal

/-- The exact value of a decimal. -/
def value (D : Decimal) : ℚ := D.digits * (10 : ℚ) ^ D.exp

/-- A negative exponent is the negation of a positive whole number. -/
theorem exists_neg_of_lt_zero {p : Int} (hp : ¬ 0 ≤ p) : ∃ k : Nat, p = -(k : Int) :=
  ⟨(-p).toNat, by omega⟩

theorem gridCompare_lt_iff (g : Nat) (p : Int) (b den : Nat) :
    gridCompare g p b den = .lt ↔ (g : ℚ) * 10 ^ p * den < b := by
  unfold gridCompare
  split
  next hp =>
    rw [compare_lt_iff_lt]
    obtain ⟨k, rfl⟩ := Int.eq_ofNat_of_zero_le hp
    simp only [Int.toNat_natCast, zpow_natCast]
    exact_mod_cast Iff.rfl
  next hp =>
    rw [compare_lt_iff_lt]
    obtain ⟨k, rfl⟩ := exists_neg_of_lt_zero hp
    simp only [neg_neg, Int.toNat_natCast, zpow_neg, zpow_natCast]
    have h10 : (0 : ℚ) < 10 ^ k := by positivity
    rw [← mul_lt_mul_iff_of_pos_right h10]
    rw [show (g : ℚ) * (10 ^ k)⁻¹ * den * 10 ^ k = g * den by field_simp]
    exact_mod_cast Iff.rfl

theorem gridCompare_gt_iff (g : Nat) (p : Int) (b den : Nat) :
    gridCompare g p b den = .gt ↔ (b : ℚ) < g * 10 ^ p * den := by
  unfold gridCompare
  split
  next hp =>
    rw [compare_gt_iff_gt]
    obtain ⟨k, rfl⟩ := Int.eq_ofNat_of_zero_le hp
    simp only [Int.toNat_natCast, zpow_natCast]
    exact_mod_cast Iff.rfl
  next hp =>
    rw [compare_gt_iff_gt]
    obtain ⟨k, rfl⟩ := exists_neg_of_lt_zero hp
    simp only [neg_neg, Int.toNat_natCast, zpow_neg, zpow_natCast]
    have h10 : (0 : ℚ) < 10 ^ k := by positivity
    rw [← mul_lt_mul_iff_of_pos_right h10]
    rw [show (g : ℚ) * (10 ^ k)⁻¹ * den * 10 ^ k = g * den by field_simp]
    exact_mod_cast Iff.rfl

/-- A grid point lies in an interval exactly when it does so as a rational number of the
interval's units. -/
theorem Interval.holds_iff (iv : Interval) (g : Nat) (p : Int) :
    iv.holds g p = true ↔
      if iv.closed then (iv.lower : ℚ) ≤ g * 10 ^ p * scale ∧ (g : ℚ) * 10 ^ p * scale ≤ iv.upper
      else (iv.lower : ℚ) < g * 10 ^ p * scale ∧ (g : ℚ) * 10 ^ p * scale < iv.upper := by
  unfold Interval.holds
  have hlo := gridCompare_lt_iff g p iv.lower scale
  have hhi := gridCompare_gt_iff g p iv.upper scale
  have hlo' := gridCompare_gt_iff g p iv.lower scale
  have hhi' := gridCompare_lt_iff g p iv.upper scale
  cases iv.closed
  · simp only [Bool.false_eq_true, if_false, Bool.and_eq_true, beq_iff_eq]
    rw [hlo', hhi']
  · simp only [if_true, Bool.and_eq_true, bne_iff_ne, ne_eq]
    rw [hlo, hhi, not_lt, not_lt]

/-- A ratio `n / d` equal to a grid point lies in the rounding interval of `mag` as the rounding
reads it exactly when the grid point lies in the interval as the search reads it. -/
theorem inRounding_iff_holds {mag n d g : Nat} {p : Int} (hd : 0 < d)
    (hval : (n : ℚ) / d = g * 10 ^ p) :
    Binary.InRounding mag (n * 2 ^ 1074) d ↔ (interval mag).holds g p = true := by
  have hd' : (0 : ℚ) < d := by exact_mod_cast hd
  -- the grid point in the interval's units is the ratio times `2^1076`
  have hv : (g : ℚ) * 10 ^ p * scale * d = 4 * (n * 2 ^ 1074) := by
    rw [← hval, scale]
    field_simp
    push_cast
    rw [show (1076 : Nat) = 1074 + 2 from rfl, pow_add]
    ring
  -- so each end compares with the ratio as it compares with the grid point, scaled by `d`
  have hle (b : Nat) : b * d ≤ 4 * (n * 2 ^ 1074) ↔ (b : ℚ) ≤ g * 10 ^ p * scale := by
    rw [← Nat.cast_le (α := ℚ)]
    push_cast
    rw [← hv, mul_le_mul_iff_of_pos_right hd']
  have hge (b : Nat) : 4 * (n * 2 ^ 1074) ≤ b * d ↔ (g : ℚ) * 10 ^ p * scale ≤ b := by
    rw [← Nat.cast_le (α := ℚ)]
    push_cast
    rw [← hv, mul_le_mul_iff_of_pos_right hd']
  have hlt (b : Nat) : b * d < 4 * (n * 2 ^ 1074) ↔ (b : ℚ) < g * 10 ^ p * scale := by
    rw [← Nat.cast_lt (α := ℚ)]
    push_cast
    rw [← hv, mul_lt_mul_iff_of_pos_right hd']
  have hgt (b : Nat) : 4 * (n * 2 ^ 1074) < b * d ↔ (g : ℚ) * 10 ^ p * scale < b := by
    rw [← Nat.cast_lt (α := ℚ)]
    push_cast
    rw [← hv, mul_lt_mul_iff_of_pos_right hd']
  rw [Interval.holds_iff]
  unfold Binary.InRounding
  simp only [hle, hge, hlt, hgt]

/-- A ratio `n / d` equal to a grid point that lies in the rounding interval of `mag` is in the
rounding interval as the rounding reads it. -/
theorem inRounding_of_holds {mag n d g : Nat} {p : Int} (hd : 0 < d)
    (hval : (n : ℚ) / d = g * 10 ^ p) (h : (interval mag).holds g p = true) :
    Binary.InRounding mag (n * 2 ^ 1074) d :=
  (inRounding_iff_holds hd hval).2 h

/-! ### The search -/

/-- What the search picks on a grid is a positive grid point in the interval. -/
theorem Interval.pick_spec {iv : Interval} {p : Int} {g : Nat} (h : iv.pick p = some g) :
    0 < g ∧ iv.holds g p = true := by
  unfold Interval.pick at h
  generalize gridFloor iv.value scale p = g₀ at h
  by_cases hdown : (decide (g₀ > 0) && iv.holds g₀ p) = true
  · simp only [Bool.and_eq_true, decide_eq_true_eq] at hdown
    obtain ⟨hpos, hg₀⟩ := hdown
    by_cases hup : iv.holds (g₀ + 1) p = true
    · -- both neighbours lie in the interval: either may be picked
      rw [if_pos (by simp only [hpos, hg₀, hup, decide_true, Bool.and_self])] at h
      split at h
      · cases h; exact ⟨hpos, hg₀⟩
      · cases h; exact ⟨by omega, hup⟩
      · cases h
        split
        · exact ⟨hpos, hg₀⟩
        · exact ⟨by omega, hup⟩
    · rw [if_neg (by simp only [hup, Bool.and_false, Bool.false_eq_true, not_false_eq_true]),
        if_pos (by simp only [hpos, hg₀, decide_true, Bool.and_self])] at h
      cases h
      exact ⟨hpos, hg₀⟩
  · rw [if_neg (by simp only [Bool.not_eq_true] at hdown; simp [hdown]), if_neg hdown] at h
    split at h
    · cases h; exact ⟨by omega, by assumption⟩
    · cases h

/-- The pick succeeds as soon as the grid point above the value lies in the interval. -/
theorem Interval.pick_isSome_of_above {iv : Interval} {p : Int}
    (h : iv.holds (gridFloor iv.value scale p + 1) p = true) : (iv.pick p).isSome := by
  unfold Interval.pick
  simp only [h, Bool.and_true]
  repeat' split
  all_goals simp_all

/-- The search ends on a grid where the pick succeeds, once some grid within its fuel has one. -/
theorem Interval.search_spec (iv : Interval) :
    ∀ (fuel : Nat) (p : Int) (j : Nat), j < fuel → (iv.pick (p - j)).isSome →
      ∃ g q, iv.search fuel p = ⟨g, q⟩ ∧ iv.pick q = some g := by
  intro fuel
  induction fuel with
  | zero => intro p j hj; omega
  | succ fuel ih =>
    intro p j hj hsome
    unfold Interval.search
    cases hp : iv.pick p with
    | some g => exact ⟨g, p, rfl, hp⟩
    | none =>
      -- the grid `p` has no hit, so the one with a hit lies further down
      have hj0 : j ≠ 0 := by
        rintro rfl
        simp [hp] at hsome
      obtain ⟨g, q, hs, hq⟩ := ih (p - 1) (j - 1) (by omega)
        (by rw [show p - 1 - ((j - 1 : Nat) : Int) = p - j by omega]; exact hsome)
      exact ⟨g, q, hs, hq⟩

/-! ### Decimal exponents -/

theorem log10_spec (n : Nat) (hn : 0 < n) : 10 ^ log10 n ≤ n ∧ n < 10 ^ (log10 n + 1) := by
  induction n using Nat.strong_induction_on with
  | _ n ih =>
    rw [log10]
    split
    next h => simp; omega
    next h =>
      obtain ⟨h1, h2⟩ := ih (n / 10) (by omega) (by omega)
      constructor
      · rw [Nat.add_comm, Nat.pow_succ]
        omega
      · rw [Nat.add_comm 1, Nat.pow_succ]
        omega

/-- The decimal exponent of a ratio is at most its logarithm. -/
theorem pow_floorLog10_le (n d : Nat) (hn : 0 < n) (hd : 0 < d) :
    (10 : ℚ) ^ floorLog10 n d ≤ n / d := by
  have hd' : (0 : ℚ) < d := by exact_mod_cast hd
  unfold floorLog10
  split
  next hle =>
    have hq := (log10_spec (n / d) (Nat.div_pos hle hd)).1
    rw [zpow_natCast, le_div_iff₀ hd']
    have : 10 ^ log10 (n / d) * d ≤ n :=
      Nat.le_trans (Nat.mul_le_mul_right _ hq) (Nat.div_mul_le_self n d)
    exact_mod_cast this
  next hlt =>
    dsimp only
    split
    next hk =>
      rw [zpow_neg, zpow_natCast, inv_le_iff_one_le_mul₀ (by positivity), div_mul_eq_mul_div,
        one_le_div hd']
      exact_mod_cast hk
    next hk =>
      -- the quotient `d / n` lies below `10^(k+1)`, so `d ≤ n · 10^(k+1)`
      have hq := (log10_spec (d / n) (Nat.div_pos (by omega) hn)).2
      have hle : d ≤ n * 10 ^ (log10 (d / n) + 1) := by
        have := Nat.lt_mul_div_succ d hn
        nlinarith
      rw [zpow_neg, zpow_natCast, inv_le_iff_one_le_mul₀ (by positivity), div_mul_eq_mul_div,
        one_le_div hd']
      exact_mod_cast hle

/-- The grid point below a value, and the one above it. -/
theorem gridFloor_spec (v den : Nat) (p : Int) (hden : 0 < den) :
    (gridFloor v den p : ℚ) * 10 ^ p * den ≤ v ∧ (v : ℚ) < (gridFloor v den p + 1) * 10 ^ p * den := by
  unfold gridFloor
  split
  next hp =>
    obtain ⟨k, rfl⟩ := Int.eq_ofNat_of_zero_le hp
    simp only [Int.toNat_natCast, zpow_natCast]
    have hm : 0 < den * 10 ^ k := Nat.mul_pos hden (by positivity)
    have h1 := Nat.div_mul_le_self v (den * 10 ^ k)
    have h2 := Nat.lt_mul_div_succ v hm
    constructor
    · have : v / (den * 10 ^ k) * 10 ^ k * den ≤ v := by
        calc v / (den * 10 ^ k) * 10 ^ k * den = v / (den * 10 ^ k) * (den * 10 ^ k) := by ring
          _ ≤ v := h1
      exact_mod_cast this
    · have : v < (v / (den * 10 ^ k) + 1) * 10 ^ k * den := by
        calc v < den * 10 ^ k * (v / (den * 10 ^ k) + 1) := h2
          _ = (v / (den * 10 ^ k) + 1) * 10 ^ k * den := by ring
      exact_mod_cast this
  next hp =>
    obtain ⟨k, rfl⟩ := exists_neg_of_lt_zero hp
    simp only [neg_neg, Int.toNat_natCast, zpow_neg, zpow_natCast]
    have h10 : (0 : ℚ) < 10 ^ k := by positivity
    have h1 := Nat.div_mul_le_self (v * 10 ^ k) den
    have h2 := Nat.lt_mul_div_succ (v * 10 ^ k) hden
    constructor
    · rw [← mul_le_mul_iff_of_pos_right h10]
      rw [show ((v * 10 ^ k / den : Nat) : ℚ) * (10 ^ k)⁻¹ * den * 10 ^ k =
        ((v * 10 ^ k / den * den : Nat) : ℚ) by push_cast; field_simp]
      exact_mod_cast h1
    · rw [← mul_lt_mul_iff_of_pos_right h10]
      rw [show (((v * 10 ^ k / den : Nat) : ℚ) + 1) * (10 ^ k)⁻¹ * den * 10 ^ k =
        ((den * (v * 10 ^ k / den + 1) : Nat) : ℚ) by push_cast; field_simp]
      exact_mod_cast h2

/-! ### The fine grid -/

/-- When the grid is finer than the spacing, the grid point just above the value lies in the
interval: it is less than one step above the value, and the interval reaches two spacings up. -/
theorem holds_above_of_step_lt {mag : Nat} {p : Int}
    (hstep : (10 : ℚ) ^ p * scale < Binary.spacing mag) :
    (interval mag).holds (gridFloor (interval mag).value scale p + 1) p = true := by
  obtain ⟨hbelow, habove⟩ :=
    gridFloor_spec (interval mag).value scale p (by unfold scale; positivity)
  generalize gridFloor (interval mag).value scale p = g₀ at hbelow habove
  have hs : (0 : ℚ) < Binary.spacing mag := by exact_mod_cast Binary.spacing_pos
  have hlo : ((interval mag).lower : ℚ) ≤ (interval mag).value := by
    exact_mod_cast Nat.sub_le _ _
  have hup : ((interval mag).upper : ℚ) = (interval mag).value + 2 * Binary.spacing mag := by
    simp [interval]
  have hnext : ((g₀ + 1 : Nat) : ℚ) * 10 ^ p * scale < (interval mag).upper := by
    rw [hup]
    push_cast
    linarith
  rw [Interval.holds_iff]
  split
  · exact ⟨by push_cast at habove ⊢; linarith, hnext.le⟩
  · exact ⟨by push_cast at habove ⊢; linarith, hnext⟩

/-- Seventeen places below the leading decimal digit of a double the grid is finer than the
double's spacing: a double has fewer than `2^53 < 10^17` spacings. -/
theorem fine_step_lt {mag : Nat} (hrep : Binary.Representable mag) (hpos : 0 < mag) :
    (10 : ℚ) ^ (floorLog10 (interval mag).value scale + 1 - 18) * scale <
      Binary.spacing mag := by
  have hv : (interval mag).value = 4 * mag := rfl
  have hsc : (0 : ℚ) < scale := by unfold scale; positivity
  have hlead : (10 : ℚ) ^ floorLog10 (interval mag).value scale * scale ≤ 4 * mag := by
    have := pow_floorLog10_le (interval mag).value scale (by rw [hv]; omega)
      (by unfold scale; positivity)
    rw [le_div_iff₀ hsc, hv] at this
    exact_mod_cast this
  have hmag : (mag : ℚ) < 2 ^ 53 * Binary.spacing mag := by
    have hmul := Nat.div_mul_cancel hrep.spacing_dvd
    have : mag < 2 ^ 53 * Binary.spacing mag := by
      calc mag = mag / Binary.spacing mag * Binary.spacing mag := hmul.symm
        _ < 2 ^ 53 * Binary.spacing mag :=
          Nat.mul_lt_mul_of_pos_right Binary.div_spacing_lt Binary.spacing_pos
    exact_mod_cast this
  generalize floorLog10 (interval mag).value scale = e at hlead ⊢
  rw [show e + 1 - 18 = e + (-17) by ring, zpow_add₀ (by norm_num), zpow_neg]
  calc (10 : ℚ) ^ e * ((10 : ℚ) ^ (17 : Int))⁻¹ * scale = 10 ^ e * scale / 10 ^ 17 := by
        rw [show ((17 : Int)) = ((17 : Nat) : Int) from rfl, zpow_natCast]
        ring
    _ ≤ 4 * mag / 10 ^ 17 := by gcongr
    _ < 4 * (2 ^ 53 * Binary.spacing mag) / 10 ^ 17 := by gcongr
    _ < Binary.spacing mag := by
        rw [div_lt_iff₀ (by positivity)]
        linarith

/-- The search from one above the leading decimal exponent ends on a hit within its fuel. -/
theorem search_hit {mag : Nat} (hrep : Binary.Representable mag) (hpos : 0 < mag) :
    ∃ g q, (interval mag).search 19 (floorLog10 (interval mag).value scale + 1) = ⟨g, q⟩ ∧
      (interval mag).pick q = some g := by
  refine Interval.search_spec _ 19 _ 18 (by omega) ?_
  rw [show floorLog10 (interval mag).value scale + 1 - ((18 : Nat) : Int) =
    floorLog10 (interval mag).value scale + 1 - 18 from rfl]
  exact Interval.pick_isSome_of_above (holds_above_of_step_lt (fine_step_lt hrep hpos))

/-! ### Trailing zeros -/

/-- Dropping trailing zeros keeps the value. -/
theorem value_normalize (D : Decimal) : (normalize D).value = D.value := by
  fun_induction normalize D with
  | case1 D h _ ih =>
    rw [ih]
    obtain ⟨q, hq⟩ := Nat.dvd_of_mod_eq_zero h.2
    unfold value
    rw [hq, Nat.mul_div_cancel_left _ (by decide), zpow_add_one₀ (by norm_num)]
    push_cast
    ring
  | case2 D h => rfl

/-- Dropping trailing zeros keeps a positive number positive. -/
theorem digits_normalize_pos {D : Decimal} (h : 0 < D.digits) : 0 < (normalize D).digits := by
  fun_induction normalize D with
  | case1 D hz _ ih =>
    obtain ⟨hne, _⟩ := hz
    exact ih (show 0 < D.digits / 10 by omega)
  | case2 D _ => exact h

/-! ### The shortest decimal -/

/-- The shortest decimal of a positive double is the value of a hit of the search. -/
theorem shortest_eq_hit {mag : Nat} (hrep : Binary.Representable mag) (hpos : 0 < mag) :
    ∃ g q, 0 < g ∧ (interval mag).holds g q = true ∧ (shortest mag).value = g * 10 ^ q ∧
      0 < (shortest mag).digits := by
  obtain ⟨g, q, hs, hq⟩ := search_hit hrep hpos
  have hshort : shortest mag = normalize ⟨g, q⟩ := by
    unfold shortest
    simp only [hs]
  obtain ⟨hg, hholds⟩ := Interval.pick_spec hq
  exact ⟨g, q, hg, hholds, by rw [hshort, value_normalize]; rfl,
    by rw [hshort]; exact digits_normalize_pos hg⟩

/-- The shortest decimal of a positive double lies between `2^-1075` and `2^1025`: its interval
reaches down to half the magnitude and up to one and a half times it. -/
theorem shortest_value_bounds {mag : Nat} (hrep : Binary.Representable mag) (hpos : 0 < mag) :
    1 / (2 : ℚ) ^ 1075 ≤ (shortest mag).value ∧ (shortest mag).value ≤ 2 ^ 1025 := by
  obtain ⟨g, q, -, hholds, hv, -⟩ := shortest_eq_hit hrep hpos
  rw [Interval.holds_iff] at hholds
  have hends : ((interval mag).lower : ℚ) ≤ g * 10 ^ q * scale ∧
      (g : ℚ) * 10 ^ q * scale ≤ (interval mag).upper := by
    split at hholds
    · exact hholds
    · exact ⟨hholds.1.le, hholds.2.le⟩
  have hs := Binary.spacing_le hpos
  have hover := hrep.lt_overflow
  unfold Binary.overflowMag at hover
  have hlower : 2 ≤ (interval mag).lower := by
    simp only [interval]
    split <;> omega
  have hupper : (interval mag).upper ≤ 2 ^ 2101 := by
    simp only [interval]
    omega
  have hlower' : (2 : ℚ) ≤ (interval mag).lower := by exact_mod_cast hlower
  have hupper' : ((interval mag).upper : ℚ) ≤ 2 ^ 2101 := by exact_mod_cast hupper
  have hsc : (scale : ℚ) = 2 ^ 1076 := by rw [scale, Nat.cast_pow, Nat.cast_ofNat]
  rw [hv]
  rw [hsc] at hends
  constructor
  · rw [div_le_iff₀ (by positivity)]
    calc (1 : ℚ) = 2 / 2 ^ 1076 * 2 ^ 1075 := by rw [pow_succ' 2 1075]; field_simp
      _ ≤ g * 10 ^ q * 2 ^ 1076 / 2 ^ 1076 * 2 ^ 1075 := by gcongr; linarith [hends.1]
      _ = g * 10 ^ q * 2 ^ 1075 := by field_simp
  · have h := hends.2.trans hupper'
    calc (g : ℚ) * 10 ^ q = g * 10 ^ q * 2 ^ 1076 / 2 ^ 1076 := by field_simp
      _ ≤ 2 ^ 2101 / 2 ^ 1076 := by gcongr
      _ = 2 ^ 1025 := by rw [show (2 : ℚ) ^ 2101 = 2 ^ 1025 * 2 ^ 1076 by rw [← pow_add]]; field_simp

/-- Every ratio equal to the shortest decimal of a positive double rounds back to that double. -/
theorem nearest_of_shortest {mag n d : Nat} (hrep : Binary.Representable mag) (hpos : 0 < mag)
    (hd : 0 < d) (hval : (n : ℚ) / d = (shortest mag).value) : Binary.nearest n d = some mag := by
  obtain ⟨g, q, -, hholds, hv, -⟩ := shortest_eq_hit hrep hpos
  exact Binary.nearest_of_inRounding hrep hpos hd (inRounding_of_holds hd (hval.trans hv) hholds)

end Decimal

end TelemetryBridge
