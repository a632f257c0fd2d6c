import TelemetryBridge.Proofs.TwoPlaces
import TelemetryBridge.Proofs.NumberText

/-! # Measurements on the wire

A measurement travels in frames and payloads as its wire text (`wireNumber`): the positional
shortest decimal of the double, `.0` added to a whole number, and `0.0` in place of a
not-a-number or an infinity.

* **`wireNumber_reads_back`** — the wire text of every double is a JSON number literal in point
  form (an optional minus, a whole part without leading zero, a point and at least one digit,
  never an exponent); a finite double reads back from it as itself, the sign of zero included;
  and a double rounded to two places is written with at most two digits after the point.

The last part rests on the rounding interval. The double nearest to a ratio has the ratio in its
rounding interval (`Binary.inRounding_of_nearest`, the converse of
`Binary.nearest_of_inRounding`), so the double nearest to `h` hundredths has a hundredth in its
interval; the search for the shortest decimal, which goes from coarse grids to fine ones and
stops at the first grid with a point in the interval, stops on the grid of hundredths at the
latest (`Decimal.neg_two_le_shortest_exp`). A decimal with at most two places is written
positionally with at most two digits after the point (`Decimal.positional_fraction_length_le`).
-/

namespace TelemetryBridge

namespace Binary

/-! ### The interval around what `nearest` gives -/

/-- `⌊log₂⌋` of `k` steps of `2^e` is that of `k`, raised by `e`. -/
theorem log2_mul_two_pow {k : Nat} (hk : 0 < k) (e : Nat) :
    Nat.log2 (k * 2 ^ e) = Nat.log2 k + e := by
  have h1 : 2 ^ Nat.log2 k ≤ k := Nat.log2_self_le hk.ne'
  have h2 : k < 2 ^ (Nat.log2 k + 1) := Nat.lt_log2_self
  have hne : k * 2 ^ e ≠ 0 := Nat.mul_ne_zero hk.ne' (by positivity)
  apply le_antisymm
  · have : Nat.log2 (k * 2 ^ e) < Nat.log2 k + e + 1 := by
      refine (Nat.log2_lt hne).mpr ?_
      rw [show Nat.log2 k + e + 1 = (Nat.log2 k + 1) + e by omega, Nat.pow_add]
      exact Nat.mul_lt_mul_of_pos_right h2 (Nat.two_pow_pos e)
    omega
  · refine (Nat.le_log2 hne).mpr ?_
    rw [Nat.pow_add]
    exact Nat.mul_le_mul_right _ h1

/-- Fewer than `2^53` steps of `2^e`, with the full 53 bits unless the step is one, are `2^e`
apart. -/
theorem spacing_mul_two_pow {k e : Nat} (hk : 0 < k) (hk53 : k < 2 ^ 53) (h : e = 0 ∨ 2 ^ 52 ≤ k) :
    spacing (k * 2 ^ e) = 2 ^ e := by
  have hlog : Nat.log2 k < 53 := (Nat.log2_lt hk.ne').mpr hk53
  unfold spacing
  rw [log2_mul_two_pow hk]
  rcases h with rfl | h52
  · rw [show Nat.log2 k + 0 - 52 = 0 by omega]
  · have : 52 ≤ Nat.log2 k := (Nat.le_log2 hk.ne').mpr h52
    rw [show Nat.log2 k + e - 52 = e by omega]

/-- Such a count has a gap below as wide as the gap above, unless it is the binade's first. -/
theorem tightBelow_mul_two_pow {k e : Nat} (hk : 0 < k) (hk53 : k < 2 ^ 53)
    (h : e = 0 ∨ 2 ^ 52 < k) : tightBelow (k * 2 ^ e) = false := by
  have hlog : Nat.log2 k < 53 := (Nat.log2_lt hk.ne').mpr hk53
  unfold tightBelow
  rw [log2_mul_two_pow hk]
  rcases h with rfl | h52
  · simp only [Nat.add_zero, Bool.and_eq_false_iff, decide_eq_false_iff_not]
    exact .inr (by omega)
  · have hl : Nat.log2 k = 52 := le_antisymm (by omega) ((Nat.le_log2 hk.ne').mpr h52.le)
    have hne : k * 2 ^ e ≠ 2 ^ (52 + e) := by
      rw [Nat.pow_add]
      intro heq
      have := Nat.eq_of_mul_eq_mul_right (Nat.two_pow_pos e) heq
      omega
    simp [hl, hne]

theorem spacing_two_pow (K : Nat) : spacing (2 ^ K) = 2 ^ (K - 52) := by
  rw [spacing, Nat.log2_two_pow]

theorem tightBelow_two_pow {K : Nat} (hK : 53 ≤ K) : tightBelow (2 ^ K) = true := by
  simp [tightBelow, Nat.log2_two_pow, hK]

-- The three ways `nearest` rounds a positive ratio, as `nearest_rounds` gives them: a count of
-- steps inside a binade (or below the normal range), the first magnitude of a binade, and a
-- count rounded up to `2^53` steps, the next binade's first magnitude. In each, the bounds of
-- the rounding put the ratio in the magnitude's interval.

/-- Inside a binade, or below the normal range, the gap below is as wide as the one above. -/
theorem inRounding_inside {k e x d : Nat} (hk : 0 < k) (hlt : k < 2 ^ 53) (hA : e = 0 ∨ 2 ^ 52 < k)
    (hb1 : d * 2 ^ e * (2 * k) ≤ 2 * x + d * 2 ^ e) (hb2 : 2 * x ≤ d * 2 ^ e * (2 * k) + d * 2 ^ e)
    (htie : d * 2 ^ e * (2 * k) = 2 * x + d * 2 ^ e ∨ 2 * x = d * 2 ^ e * (2 * k) + d * 2 ^ e →
      k % 2 = 0) :
    InRounding (k * 2 ^ e) x d := by
  have hs := spacing_mul_two_pow hk hlt (hA.imp_right le_of_lt)
  have ht := tightBelow_mul_two_pow hk hlt hA
  apply inRounding_of_bounds (Nat.mul_pos hk (Nat.two_pow_pos e))
  · rw [ht, hs, if_neg (by decide)]
    nlinarith
  · rw [hs]
    nlinarith
  · rw [ht, hs, if_neg (by decide), Nat.mul_div_cancel _ (Nat.two_pow_pos e)]
    intro hends
    apply htie
    rcases hends with h | h
    · left; nlinarith
    · right; nlinarith

/-- At a binade's first magnitude `2^(52+e)` the gap below is half the one above, and the ratio
is at least the magnitude. -/
theorem inRounding_binade_start {e x d : Nat} (he : e ≠ 0) (hlo : d * 2 ^ e * 2 ^ 52 ≤ x)
    (hb2 : 2 * x ≤ d * 2 ^ e * (2 * 2 ^ 52) + d * 2 ^ e) :
    InRounding (2 ^ 52 * 2 ^ e) x d := by
  rw [← Nat.pow_add]
  have hs : spacing (2 ^ (52 + e)) = 2 ^ e := by
    rw [spacing_two_pow, show 52 + e - 52 = e by omega]
  apply inRounding_of_bounds (by positivity)
  · rw [tightBelow_two_pow (by omega), if_pos rfl, hs, Nat.pow_add]
    nlinarith
  · rw [hs, Nat.pow_add]
    nlinarith
  · intro _
    rw [hs, Nat.pow_div (by omega) (by decide), show 52 + e - e = 52 by omega]

/-- A count rounded up to `2^53` steps is the next binade's first magnitude, reached from below. -/
theorem inRounding_carry {e x d : Nat} (hx : x < 2 ^ 53 * 2 ^ e * d)
    (hb1 : d * 2 ^ e * (2 * 2 ^ 53) ≤ 2 * x + d * 2 ^ e) :
    InRounding (2 ^ 53 * 2 ^ e) x d := by
  rw [← Nat.pow_add]
  have hs : spacing (2 ^ (53 + e)) = 2 * 2 ^ e := by
    rw [spacing_two_pow, show 53 + e - 52 = e + 1 by omega, Nat.pow_succ, Nat.mul_comm]
  apply inRounding_of_bounds (by positivity)
  · rw [tightBelow_two_pow (by omega), if_pos rfl, hs, Nat.pow_add]
    nlinarith
  · rw [hs, Nat.pow_add]
    nlinarith
  · intro _
    rw [spacing_two_pow, Nat.pow_div (by omega) (by decide), show 53 + e - (53 + e - 52) = 52 by omega]

/-- **The double nearest to a ratio has the ratio in its rounding interval**: the converse of
`nearest_of_inRounding`, so for a positive double `nearest n d = some mag` says exactly that
`n / d` lies in `mag`'s interval. -/
theorem inRounding_of_nearest {n d m : Nat} (hd : 0 < d) (hm : 0 < m) (h : nearest n d = some m) :
    InRounding m (n * 2 ^ 1074) d := by
  have hn : 0 < n := by
    rcases Nat.eq_zero_or_pos n with rfl | hn
    · simp [nearest] at h
      omega
    · exact hn
  obtain ⟨k, e, rfl, -, hb1, hb2, htie, hbin⟩ := nearest_rounds hd hn h
  have hk : 0 < k := Nat.pos_of_mul_pos_right hm
  generalize n * 2 ^ 1074 = x at hb1 hb2 htie hbin
  have hk53 : k ≤ 2 ^ 53 := by
    rcases hbin with ⟨rfl, hx⟩ | ⟨-, hhi⟩
    · exact le_two_pow_53_of_round hb1 (by simpa using hx)
    · exact le_two_pow_53_of_round hb1 hhi
  rcases Nat.lt_or_ge k (2 ^ 53) with hlt | hge
  · by_cases hA : e = 0 ∨ 2 ^ 52 < k
    · exact inRounding_inside hk hlt hA hb1 hb2 htie
    · have he : e ≠ 0 := by omega
      obtain ⟨hlo, -⟩ := hbin.resolve_left (fun h => he h.1)
      have hk52 : k = 2 ^ 52 := by
        have := two_pow_52_le_of_round (Nat.mul_pos hd (Nat.two_pow_pos e)) hb2 hlo
        omega
      subst hk52
      exact inRounding_binade_start he hlo hb2
  · have hk53' : k = 2 ^ 53 := by omega
    subst hk53'
    have hx : x < 2 ^ 53 * 2 ^ e * d := by
      rcases hbin with ⟨rfl, hx⟩ | ⟨-, hx⟩
      · simpa [Nat.mul_comm] using hx
      · nlinarith
    exact inRounding_carry hx hb1

end Binary

namespace Decimal

/-! ### Where the search for the shortest decimal stops -/

/-- The interval of a positive magnitude holds the magnitude strictly inside. -/
theorem interval_value_bounds {mag : Nat} (hpos : 0 < mag) :
    (interval mag).lower < (interval mag).value ∧ (interval mag).value < (interval mag).upper := by
  have hs : 0 < Binary.spacing mag := Binary.spacing_pos
  simp only [interval]
  constructor
  · split <;> omega
  · omega

/-- A grid point between a grid point of the interval and the value lies in the interval: the
interval is convex and holds the value strictly inside. -/
theorem holds_of_between {mag a b : Nat} {p : Int} (hpos : 0 < mag)
    (ha : (interval mag).holds a p = true)
    (hb : (a ≤ b ∧ (b : ℚ) * 10 ^ p * scale ≤ (interval mag).value) ∨
      (((interval mag).value : ℚ) ≤ b * 10 ^ p * scale ∧ b ≤ a)) :
    (interval mag).holds b p = true := by
  obtain ⟨hlo, hhi⟩ := interval_value_bounds hpos
  have hlo' : ((interval mag).lower : ℚ) < (interval mag).value := by exact_mod_cast hlo
  have hhi' : ((interval mag).value : ℚ) < (interval mag).upper := by exact_mod_cast hhi
  have hp : (0 : ℚ) ≤ 10 ^ p * scale := by unfold scale; positivity
  -- the grid point `b` lies between `a` and the value on the rational line
  have hab : (a ≤ b → (a : ℚ) * 10 ^ p * scale ≤ b * 10 ^ p * scale) ∧
      (b ≤ a → (b : ℚ) * 10 ^ p * scale ≤ a * 10 ^ p * scale) := by
    constructor <;> intro h <;> rw [mul_assoc, mul_assoc] <;>
      exact mul_le_mul_of_nonneg_right (by exact_mod_cast h) hp
  rw [Interval.holds_iff] at ha ⊢
  cases hc : (interval mag).closed
  · simp only [hc, Bool.false_eq_true, if_false] at ha ⊢
    rcases hb with ⟨h1, h2⟩ | ⟨h1, h2⟩
    · exact ⟨lt_of_lt_of_le ha.1 (hab.1 h1), lt_of_le_of_lt h2 hhi'⟩
    · exact ⟨lt_of_lt_of_le hlo' h1, lt_of_le_of_lt (hab.2 h2) ha.2⟩
  · simp only [hc, if_true] at ha ⊢
    rcases hb with ⟨h1, h2⟩ | ⟨h1, h2⟩
    · exact ⟨le_trans ha.1 (hab.1 h1), le_trans h2 hhi'.le⟩
    · exact ⟨le_trans hlo'.le h1, le_trans (hab.2 h2) ha.2⟩

/-- The pick succeeds as soon as the positive grid point below the value lies in the interval. -/
theorem Interval.pick_isSome_of_below {iv : Interval} {p : Int}
    (hpos : 0 < gridFloor iv.value scale p) (h : iv.holds (gridFloor iv.value scale p) p = true) :
    (iv.pick p).isSome := by
  unfold Interval.pick
  simp only [h, hpos, decide_true, Bool.true_and]
  repeat' split
  all_goals simp_all

/-- On a grid with a positive point in the interval, the search's pick succeeds: one of the two
grid neighbours of the value lies between that point and the value. -/
theorem pick_isSome_of_holds {mag h : Nat} {p : Int} (hpos : 0 < mag) (hh : 0 < h)
    (hhold : (interval mag).holds h p = true) : ((interval mag).pick p).isSome := by
  obtain ⟨hbelow, habove⟩ :=
    gridFloor_spec (interval mag).value scale p (by unfold scale; positivity)
  rcases Nat.lt_or_ge (gridFloor (interval mag).value scale p) h with hlt | hge
  · -- the neighbour above the value lies between the value and `h`
    apply Interval.pick_isSome_of_above
    refine holds_of_between hpos hhold (.inr ⟨?_, hlt⟩)
    push_cast
    exact habove.le
  · -- the neighbour below lies between `h` and the value
    exact Interval.pick_isSome_of_below (by omega) (holds_of_between hpos hhold (.inl ⟨hge, hbelow⟩))

/-- The search passes only over grids where the pick fails. -/
theorem Interval.pick_eq_none_of_search (iv : Interval) :
    ∀ (fuel : Nat) (p r : Int), (iv.search fuel p).exp < r → r ≤ p → iv.pick r = none := by
  intro fuel
  induction fuel with
  | zero =>
    intro p r h1 h2
    simp only [Interval.search] at h1
    omega
  | succ fuel ih =>
    intro p r h1 h2
    simp only [Interval.search] at h1
    cases hp : iv.pick p with
    | some g =>
      rw [hp] at h1
      exact absurd h1 (by simp only; omega)
    | none =>
      rw [hp] at h1
      by_cases hr : r = p
      · rw [hr, hp]
      · exact ih (p - 1) r h1 (by omega)

/-- Dropping trailing zeros only raises the exponent. -/
theorem exp_le_normalize (D : Decimal) : D.exp ≤ (normalize D).exp := by
  fun_induction normalize D with
  | case1 D _ _ ih =>
    simp only at ih
    omega
  | case2 D _ => exact le_refl _

/-- A ratio of more than a thousandth has a decimal exponent of at least `-3`. -/
theorem neg_three_le_floorLog10 {n d : Nat} (hn : 0 < n) (h : d < 1000 * n) :
    -3 ≤ floorLog10 n d := by
  unfold floorLog10
  split
  next => omega
  next hlt =>
    dsimp only
    have hq : d / n < 1000 := (Nat.div_lt_iff_lt_mul hn).mpr (by linarith)
    have hk : log10 (d / n) ≤ 2 := by
      by_contra hc
      have h1 := (log10_spec (d / n) (Nat.div_pos (by omega) hn)).1
      have : 10 ^ 3 ≤ 10 ^ log10 (d / n) := Nat.pow_le_pow_right (by decide) (by omega)
      omega
    split <;> omega

/-- **The shortest decimal stops on the grid of hundredths at the latest** when the interval of
the double, of more than a thousandth, holds a positive number of hundredths: the search starts
at most one grid above and meets that grid before its fuel runs out. -/
theorem neg_two_le_shortest_exp {mag h : Nat} (hrep : Binary.Representable mag) (hpos : 0 < mag)
    (hh : 0 < h) (hlarge : scale < 1000 * (interval mag).value)
    (hhold : (interval mag).holds h (-2) = true) : -2 ≤ (shortest mag).exp := by
  obtain ⟨g, q, hs, -⟩ := search_hit hrep hpos
  have hstart : -3 ≤ floorLog10 (interval mag).value scale :=
    neg_three_le_floorLog10 (by simp only [interval]; omega) hlarge
  have hq : -2 ≤ q := by
    by_contra hc
    have hnone := Interval.pick_eq_none_of_search (interval mag) 19 _ (-2)
      (by rw [hs]; simp only; omega) (by omega)
    have hsome := pick_isSome_of_holds hpos hh hhold
    rw [hnone] at hsome
    exact absurd hsome (by decide)
  have hshort : shortest mag = normalize ⟨g, q⟩ := by
    unfold shortest
    simp only [hs]
  rw [hshort]
  exact le_trans hq (exp_le_normalize _)

/-- The double nearest to a positive number of hundredths has its shortest decimal on the grid of
hundredths or a coarser one. -/
theorem neg_two_le_shortest_exp_of_nearest {h m : Nat} (hm : Binary.nearest h 100 = some m)
    (hpos : 0 < m) : -2 ≤ (shortest m).exp := by
  have hh : 0 < h := by
    rcases Nat.eq_zero_or_pos h with rfl | hh
    · simp [Binary.nearest] at hm
      omega
    · exact hh
  have hhold : (interval m).holds h (-2) = true :=
    (inRounding_iff_holds (by decide) (by norm_num [zpow_neg, div_eq_mul_inv])).1
      (Binary.inRounding_of_nearest (by decide) hpos hm)
  refine neg_two_le_shortest_exp (Binary.representable_of_nearest (by decide) hm) hpos hh ?_ hhold
  -- the double lies within half its spacing, so within half itself, of `h / 100 ≥ 1 / 100`
  obtain ⟨h1, -⟩ := Binary.nearest_error (by decide) hm
  have hs := Binary.spacing_le hpos
  have hP : 2 ^ 1074 ≤ h * 2 ^ 1074 := Nat.le_mul_of_pos_left _ hh
  rw [show scale = 4 * 2 ^ 1074 by rw [scale, show 1076 = 2 + 1074 from rfl, Nat.pow_add]]
  simp only [interval]
  generalize 2 ^ 1074 = P at h1 hP ⊢
  have : Binary.spacing m * 100 ≤ m * 100 := Nat.mul_le_mul_right _ hs
  omega

end Decimal

/-! ### The wire text -/

/-- A finite double rounded to two places is the double nearest to some number of hundredths. -/
theorem nearest_of_roundPlaces2 {y : Float} {neg : Bool} {m : Nat}
    (h : Binary.ofFloat (roundPlaces2 y) = .finite neg m) : ∃ h, Binary.nearest h 100 = some m := by
  by_cases hfin : ∃ neg' mag, Binary.ofFloat y = .finite neg' mag
  · obtain ⟨neg', mag, hy⟩ := hfin
    rw [roundPlaces2_of_finite hy, Binary.ofFloat_toFloat_roundPlaces2] at h
    cases hm : Binary.nearest (Binary.hundredths mag) 100 with
    | none =>
      rw [Binary.roundPlaces2_of_none hm] at h
      cases h
    | some m' =>
      rw [Binary.roundPlaces2_of_some hm] at h
      cases h
      exact ⟨_, hm⟩
  · -- not finite: the rounding passes it through unchanged
    rw [roundPlaces2_of_not_finite (fun neg' mag hy => hfin ⟨neg', mag, hy⟩)] at h
    exact absurd ⟨neg, m, h⟩ hfin

/-- The text `0.0` that stands in for a double that is not finite is in point form. -/
theorem pointForm_zero : NumberText.PointForm [48, 46, 48] false 0 1 :=
  @NumberText.PointForm.mk [48] [48] false (by decide +kernel) (by decide +kernel) (.inl rfl) (by simp)

/-- **The wire text of a measurement.** For every double, the wire text is a JSON number literal
in point form, with no exponent; a double rounded to two places has at most two digits after
the point. Not-a-number and the infinities are written `0.0`, and a finite double reads back
from its text as itself, bit for bit, so also with the sign of a zero. -/
theorem wireNumber_reads_back (x : Float) :
    (∃ neg m f, NumberText.PointForm (wireNumber x) neg m f ∧
      ((∃ y, x = roundPlaces2 y) → f ≤ 2)) ∧
    (Binary.ofFloat x = .nan ∨ (∃ neg, Binary.ofFloat x = .inf neg) →
      wireNumber x = Bytes.ofString "0.0") ∧
    (∀ neg mag, Binary.ofFloat x = .finite neg mag → readFloat (wireNumber x) = .ok x) := by
  have hzero : Bytes.ofString "0.0" = [48, 46, 48] := by decide +kernel
  refine ⟨?_, ?_, fun neg mag hx => readFloat_wireNumber hx⟩
  · cases hx : Binary.ofFloat x with
    | finite neg mag =>
      obtain ⟨m, f, hform, -, hf⟩ := NumberText.positional_pointForm (Binary.decimal mag) neg
      refine ⟨neg, m, f, by unfold wireNumber; rw [hx]; exact hform, ?_⟩
      rintro ⟨y, rfl⟩
      -- the magnitude is zero, or the double nearest to some hundredths
      obtain ⟨h, hm⟩ := nearest_of_roundPlaces2 hx
      have hexp : -2 ≤ (Binary.decimal mag).exp := by
        unfold Binary.decimal
        split
        next => simp
        next hpos => exact Decimal.neg_two_le_shortest_exp_of_nearest hm (by omega)
      omega
    | nan => exact ⟨false, 0, 1, by unfold wireNumber; rw [hx]; exact pointForm_zero, fun _ => by decide⟩
    | inf neg => exact ⟨false, 0, 1, by unfold wireNumber; rw [hx]; exact pointForm_zero, fun _ => by decide⟩
  · rintro (hx | ⟨neg, hx⟩) <;> unfold wireNumber <;> rw [hx, hzero]

end TelemetryBridge
