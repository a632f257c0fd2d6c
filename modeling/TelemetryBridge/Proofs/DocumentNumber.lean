import TelemetryBridge.Proofs.JsonText

/-!
# Document numbers read back

A document writer writes a finite double as the shortest decimal that reads back as it, in one of
two layouts (`Binary.documentText`):

1. positionally, as the wire text does, from the double nearest `10^-6` up to below `10^21`;
2. otherwise in scientific form: the first digit, a point and the other digits if there are any,
   `e`, the exponent's sign, and the exponent's digits padded to two, the padding zero dropped
   again when the exponent is negative (`e-7`, but `e+07`).

Both layouts are number literals (`NumberText.Literal`) with the value of the shortest decimal,
so what holds of literals holds of them:

* `NumberText.documentText_literal`: the document text of a double is a literal whose digits and
  exponent have the value of the double's shortest decimal;
* `jsonNumber?_reads_back`: the JSON text of a finite double is a number literal of JSON, and a
  reader takes it back to the same double, `-0` included.
-/

namespace TelemetryBridge

namespace NumberText

/-- The exponent digits of the scientific layout: the decimal text of a number below a thousand,
padded to two digits with a leading zero. -/
theorem padded_ofNat {n : Nat} (hn : n < 1000) :
    let xs := if (Bytes.ofNat n).length < 2 then (48 : UInt8) :: Bytes.ofNat n else Bytes.ofNat n
    (∀ b ∈ xs, Bytes.isDigit b = true) ∧ Bytes.digitsValue xs = n ∧ xs.length ≤ 3 ∧
      ((∃ d, xs = [48, d]) ∨ ∃ a r, xs = a :: r ∧ a ≠ 48 ∧ (r.length = 1 ∨ r.length = 2)) := by
  intro xs
  have hds : ∀ b ∈ Bytes.ofNat n, Bytes.isDigit b = true := fun b hb => Bytes.isDigit_of_mem_ofNat hb
  have hval : Bytes.digitsValue (48 :: Bytes.ofNat n) = n := by
    rw [← List.singleton_append, Bytes.digitsValue_append, Bytes.digitsValue_ofNat]
    simp [Bytes.digitsValue, Bytes.digitValue]
  -- the text has one to three digits
  have hlen : 1 ≤ (Bytes.ofNat n).length ∧ (Bytes.ofNat n).length ≤ 3 := by
    rcases Nat.eq_zero_or_pos n with rfl | hpos
    · exact ⟨by decide +kernel, by decide +kernel⟩
    · obtain ⟨h1, h2⟩ := Bytes.pow_length_ofNat hpos
      constructor
      · by_contra h
        have h0 : Bytes.ofNat n = [] := List.eq_nil_of_length_eq_zero (by omega)
        rw [h0, List.length_nil, Nat.pow_zero] at h2
        omega
      · by_contra h
        have : 10 ^ 3 ≤ 10 ^ ((Bytes.ofNat n).length - 1) := Nat.pow_le_pow_right (by decide) (by omega)
        omega
  by_cases hshort : (Bytes.ofNat n).length < 2
  · -- one digit, padded
    obtain ⟨d, hd⟩ : ∃ d, Bytes.ofNat n = [d] := List.length_eq_one_iff.mp (by omega)
    have hx : xs = 48 :: Bytes.ofNat n := if_pos hshort
    refine ⟨?_, by rw [hx, hval], by rw [hx]; simp; omega, .inl ⟨d, by rw [hx, hd]⟩⟩
    rw [hx]
    intro b hb
    rcases List.mem_cons.mp hb with rfl | hb
    · rfl
    · exact hds b hb
  · -- two or three digits, the first not zero
    have hx : xs = Bytes.ofNat n := if_neg hshort
    have hpos : 0 < n := by
      rcases Nat.eq_zero_or_pos n with rfl | hpos
      · exact absurd (show (Bytes.ofNat 0).length < 2 by decide +kernel) hshort
      · exact hpos
    refine ⟨by rw [hx]; exact hds, by rw [hx, Bytes.digitsValue_ofNat], by rw [hx]; exact hlen.2, .inr ?_⟩
    obtain ⟨a, r, har, ha⟩ := Bytes.ofNat_eq_cons hpos
    rw [har] at hshort hlen
    refine ⟨a, r, by rw [hx, har], ha, ?_⟩
    rw [List.length_cons] at hshort hlen
    omega

/-- **The exponent of the scientific layout** (`e`, the sign, the digits padded to two) is an
exponent of the value it is written from. -/
theorem exponent_padded {x : Int} (hx : x.natAbs < 1000) :
    Exponent (101 :: (if x < 0 then 45 else 43) ::
      (if (Bytes.ofNat x.natAbs).length < 2 then 48 :: Bytes.ofNat x.natAbs
        else Bytes.ofNat x.natAbs)) x := by
  obtain ⟨hds, hval, hlen, hshape⟩ := padded_ofNat hx
  have hne : (if (Bytes.ofNat x.natAbs).length < 2 then 48 :: Bytes.ofNat x.natAbs
      else Bytes.ofNat x.natAbs) ≠ [] := by
    rcases hshape with ⟨d, hd⟩ | ⟨a, r, har, -⟩
    · rw [hd]
      simp
    · rw [har]
      simp
  by_cases hneg : x < 0
  · have he := Exponent.mk true hds hne (by omega)
    rw [hval] at he
    simp only [if_pos hneg, if_true] at he ⊢
    rwa [show -(x.natAbs : Int) = x by omega] at he
  · have he := Exponent.mk false hds hne (by omega)
    rw [hval] at he
    simp only [if_neg hneg, Bool.false_eq_true, if_false] at he ⊢
    rwa [show (x.natAbs : Int) = x by omega] at he

/-- Dropping the padding zero of a one-digit negative exponent keeps its value: `e-07` and `e-7`
are the same exponent. -/
theorem Exponent.unpad {d : UInt8} {x : Int} (h : Exponent [101, 45, 48, d] x) :
    Exponent [101, 45, d] x := by
  generalize ht : [101, 45, 48, d] = t at h
  cases h with
  | none => simp at ht
  | mk neg hds hne hlen =>
    cases neg with
    | false => simp at ht
    | true =>
      simp only [if_true, List.cons.injEq, true_and] at ht
      subst ht
      have he := @Exponent.mk true [d] (fun b hb => hds b (by simp_all)) (by simp) (by simp)
      simpa [Bytes.digitsValue, Bytes.digitValue] using he

/-- The only scientific text that the document writer shortens has a negative exponent of one
digit after a padding zero: reading it backwards, the digit, the zero, the minus and the `e`
come first. -/
theorem padded_reverse {pre ds r : Bytes} {sgn d : UInt8}
    (hds : ∀ b ∈ ds, Bytes.isDigit b = true)
    (hshape : (∃ d, ds = [48, d]) ∨ ∃ a t, ds = a :: t ∧ a ≠ 48 ∧ (t.length = 1 ∨ t.length = 2))
    (h : (pre ++ 101 :: sgn :: ds).reverse = d :: 48 :: 45 :: 101 :: r) :
    sgn = 45 ∧ ds = [48, d] ∧ r = pre.reverse := by
  rcases hshape with ⟨dx, rfl⟩ | ⟨a, t, rfl, ha, ht⟩
  · simp at h
    obtain ⟨rfl, rfl, rfl⟩ := h
    exact ⟨rfl, rfl, rfl⟩
  · -- two digits with a nonzero first one, or three digits whose first meets the minus
    exfalso
    rcases ht with ht | ht
    · obtain ⟨b, rfl⟩ := List.length_eq_one_iff.mp ht
      simp at h
      exact ha h.2.1
    · obtain ⟨b1, b2, rfl⟩ := List.length_eq_two.mp ht
      simp at h
      have ha45 := hds a List.mem_cons_self
      rw [h.2.2.1] at ha45
      exact absurd ha45 (by decide)

open Decimal in
/-- The scientific layout of a decimal: its first digit, the point and the other digits if any,
then `e`, the sign and the padded digits of the exponent. -/
theorem scientific_eq (D : Decimal) (hd : D.digits ≠ 0) {c : UInt8} {rest : Bytes}
    (hcr : D.digitBytes = c :: rest) :
    D.scientific = c :: fraction rest ++ 101 :: (if D.pointPos - 1 < 0 then 45 else 43) ::
      (if (Bytes.ofNat (D.pointPos - 1).natAbs).length < 2 then
        48 :: Bytes.ofNat (D.pointPos - 1).natAbs else Bytes.ofNat (D.pointPos - 1).natAbs) := by
  unfold scientific
  simp only [if_neg hd, hcr, zeroByte]
  cases rest <;> simp [fraction]

/-- The mantissa of the scientific layout: a number's first digit (not `0`), then its other
digits after a point, and any exponent after them, make a literal of the number's digits. -/
theorem literal_scientific {n : Nat} {c : UInt8} {rest : Bytes} (hcr : Bytes.ofNat n = c :: rest)
    (hc48 : c ≠ 48) (neg : Bool) {expo : Bytes} {x : Int} (he : Exponent expo x) :
    Literal (Binary.signed neg (c :: fraction rest ++ expo)) neg n rest.length x := by
  have hds : ∀ b ∈ Bytes.ofNat n, Bytes.isDigit b = true := fun b hb => Bytes.isDigit_of_mem_ofNat hb
  have h := @Literal.mk neg [c] rest expo x
    (fun b hb => hds b (by rw [hcr, List.mem_singleton.mp hb]; exact List.mem_cons_self))
    (.inr ⟨c, [], rfl, hc48⟩) (fun b hb => hds b (by rw [hcr]; exact List.mem_cons_of_mem c hb)) he
  have hm : Bytes.digitsValue ([c] ++ rest) = n := by
    rw [List.singleton_append, ← hcr]
    exact Bytes.digitsValue_ofNat _
  rwa [hm, List.singleton_append] at h

/-- **The document text of a double is a literal** whose digits and exponent have the value of the
double's shortest decimal: positional, or scientific with the exponent's padding zero dropped
when it is negative. -/
theorem documentText_literal {mag : Nat} (hrep : Binary.Representable mag) (neg : Bool) :
    ∃ m f e, Literal (Binary.documentText neg mag) neg m f e ∧
      (m : ℚ) * 10 ^ (e - f) = (Binary.decimal mag).value := by
  unfold Binary.documentText
  by_cases h : mag ≠ 0 ∧ (Binary.belowMicro mag ∨ Binary.atLeastZetta mag)
  swap
  · rw [if_neg h]
    obtain ⟨m, f, hl, hv⟩ := positional_literal (Binary.decimal mag) neg
    exact ⟨m, f, 0, hl, hv⟩
  rw [if_pos h]
  dsimp only
  -- the shortest decimal of a nonzero double: digits, and a point position within the doubles
  have hpos : 0 < mag := Nat.pos_of_ne_zero h.1
  have hD : Binary.decimal mag = Decimal.shortest mag := if_neg h.1
  obtain ⟨-, -, -, -, -, hdig⟩ := Decimal.shortest_eq_hit hrep hpos
  obtain ⟨hlo, hhi⟩ := Decimal.shortest_value_bounds hrep hpos
  rw [← hD] at hdig hlo hhi
  generalize Binary.decimal mag = D at hdig hlo hhi ⊢
  have hsize := size_bounds hdig hlo hhi
  have hwidth : (D.digitBytes.length : Int) = decimalWidth D.digits := by
    rw [Decimal.digitBytes, Bytes.length_ofNat]
  have hexp : D.pointPos = (D.digitBytes.length : Int) + D.exp := rfl
  generalize hx : D.pointPos - 1 = x
  have hxb : x.natAbs < 1000 := by omega
  obtain ⟨c, rest, hcr, hc48⟩ : ∃ c rest, D.digitBytes = c :: rest ∧ c ≠ 48 :=
    Bytes.ofNat_eq_cons hdig
  -- the first digit, the others after a point, and any exponent of value `x`
  have hlit : ∀ {expo : Bytes}, Exponent expo x →
      Literal (Binary.signed neg (c :: fraction rest ++ expo)) neg D.digits rest.length x :=
    literal_scientific hcr hc48 neg
  have hval : (D.digits : ℚ) * 10 ^ (x - (rest.length : Int)) = D.value := by
    have hlen : (D.digitBytes.length : Int) = rest.length + 1 := by rw [hcr]; simp
    rw [Decimal.value, show x - (rest.length : Int) = D.exp by omega]
  rw [scientific_eq D (Nat.pos_iff_ne_zero.mp hdig) hcr, hx]
  split
  · next d r heq =>
    -- the padding zero of a one-digit negative exponent is dropped
    obtain ⟨hxds, -, -, hshape⟩ := padded_ofNat hxb
    obtain ⟨hsgn, hds, rfl⟩ := @padded_reverse (c :: fraction rest) _ _ _ _ hxds hshape heq
    have he := exponent_padded hxb
    rw [hsgn, hds] at he
    refine ⟨_, _, _, ?_, hval⟩
    simpa using hlit he.unpad
  · exact ⟨_, _, _, hlit (exponent_padded hxb), hval⟩

end NumberText

/-- The document text of a finite double reads back as the same double. -/
theorem readFloat_documentText {x : Float} {neg : Bool} {mag : Nat}
    (hx : Binary.ofFloat x = .finite neg mag) : readFloat (Binary.documentText neg mag) = .ok x := by
  obtain ⟨m, f, e, hl, hv⟩ := NumberText.documentText_literal (Binary.representable_of_ofFloat hx) neg
  rw [readFloat, hl.readBinary hv (Binary.representable_of_ofFloat hx), Except.map, ← hx,
    Binary.toFloat_ofFloat x (by rw [hx]; simp)]

/-- **The JSON text of a double reads back**: where a double has one (it is finite), the text is
a number literal of JSON and reads as the double. -/
theorem jsonNumber?_reads_back {x : Float} {t : Bytes} (h : jsonNumber? x = some t) :
    Json.Written t (.number t) ∧ readFloat t = .ok x := by
  unfold jsonNumber? at h
  split at h
  · next neg mag hx =>
    cases h
    obtain ⟨m, f, e, hl, -⟩ := NumberText.documentText_literal (Binary.representable_of_ofFloat hx) neg
    exact ⟨hl.written, readFloat_documentText hx⟩
  · cases h

end TelemetryBridge
