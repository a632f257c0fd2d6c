import TelemetryBridge.Proofs.JsonText

/-! # Compacting JSON text keeps its value

`Json.compact` removes the whitespace outside string literals of a valid text. This file shows
that the text it gives is valid again, reads as the same value, and is its own compact form.

* Removing layout (`Json.strip`) is idempotent.
* Every value the reader reads at the front of a text is the text of that value followed by the
  rest (`Json.ValueSpan`). The value's text reads the same before anything that does not continue
  a number, with or without its layout, and with any fuel of at least the length of its compact
  form. The proof is one induction on the fuel over the reader's three mutually recursive
  functions (`Json.spans`), each step taken from one inversion lemma per function
  (`Json.value_cases`, `Json.elements_cases`, `Json.members_cases`) and one lemma per way a text
  is built (`Json.ValueSpan.object`, `Json.ItemsSpan.cons`, `Json.MembersSpan.last`, ...).
* Hence a valid text and its compact form read as the same value (`Json.readWhole_strip`), and
  the compact form of a valid text is valid and compact (`Json.compact_compact`).
-/

namespace TelemetryBridge

namespace Json

/-! ### Layout removal -/

/-- A text with its layout, the whitespace outside string literals, removed. -/
def strip (s : Bytes) : Bytes := dropLayout s false false

/-- Whether a text is made of JSON whitespace only. -/
def Blank (s : Bytes) : Prop := ∀ b ∈ s, isSpace b = true

theorem strip_nil : strip [] = [] := rfl

@[simp] theorem isSpace_quote : isSpace 34 = false := by decide

theorem strip_cons_space {b : UInt8} (hb : isSpace b = true) (s : Bytes) :
    strip (b :: s) = strip s := by
  simp [strip, dropLayout, hb]

theorem strip_cons_plain {b : UInt8} (hb : isSpace b = false) (h34 : b ≠ 34) (s : Bytes) :
    strip (b :: s) = b :: strip s := by
  simp [strip, dropLayout, hb, h34]

theorem strip_blank_append {sp : Bytes} (h : Blank sp) (s : Bytes) : strip (sp ++ s) = strip s := by
  induction sp with
  | nil => rfl
  | cons b sp ih =>
    rw [List.cons_append, strip_cons_space (h b List.mem_cons_self)]
    exact ih fun c hc => h c (List.mem_cons_of_mem b hc)

/-- A string literal around content that can stand in one keeps its bytes. -/
theorem strip_string {c : Bytes} (hc : Content c) (s : Bytes) :
    strip (34 :: (c ++ 34 :: s)) = 34 :: (c ++ 34 :: strip s) := by
  rw [strip, dropLayout, if_neg Bool.false_ne_true, if_neg (by decide), if_pos rfl, hc.layout,
    dropLayout]
  simp [strip]

/-- Outside a string literal the escape flag plays no part. -/
theorem dropLayout_outside (s : Bytes) (esc : Bool) :
    dropLayout s false esc = dropLayout s false false := by
  cases s <;> simp [dropLayout]

/-- Layout removal from any position is idempotent: what it keeps moves through the same
positions, and what it drops is whitespace outside strings, where the position does not move. -/
theorem dropLayout_dropLayout (s : Bytes) (inStr esc : Bool) :
    dropLayout (dropLayout s inStr esc) inStr esc = dropLayout s inStr esc := by
  induction s generalizing inStr esc with
  | nil => rfl
  | cons b s ih =>
    cases inStr
    · by_cases hsp : isSpace b
      · simp only [dropLayout, hsp, if_true, Bool.false_eq_true, if_false]
        rw [dropLayout_outside, ih]
      · by_cases h34 : b = 34 <;> simp [dropLayout, hsp, h34, ih]
    · cases esc
      · by_cases h92 : b = 92
        · simp [dropLayout, h92, ih]
        · by_cases h34 : b = 34 <;> simp [dropLayout, h92, h34, ih]
      · simp [dropLayout, ih]

theorem strip_strip (s : Bytes) : strip (strip s) = strip s := dropLayout_dropLayout s false false

theorem length_dropLayout_le (s : Bytes) (inStr esc : Bool) :
    (dropLayout s inStr esc).length ≤ s.length := by
  induction s generalizing inStr esc with
  | nil => exact Nat.le_refl 0
  | cons b s ih =>
    unfold dropLayout
    split_ifs <;> simp only [List.length_cons] <;> grind

theorem length_strip_le (s : Bytes) : (strip s).length ≤ s.length := length_dropLayout_le s _ _

/-! ### Whitespace -/

theorem blank_nil : Blank [] := fun _ h => absurd h List.not_mem_nil

theorem blank_takeWhile (s : Bytes) : Blank (s.takeWhile isSpace) := fun _ hb =>
  List.mem_takeWhile_imp hb

theorem takeWhile_append_skipSpace (s : Bytes) : s.takeWhile isSpace ++ skipSpace s = s :=
  List.takeWhile_append_dropWhile

theorem skipSpace_blank_append {sp : Bytes} (h : Blank sp) (s : Bytes) :
    skipSpace (sp ++ s) = skipSpace s :=
  List.dropWhile_append_of_pos h

theorem strip_skipSpace (s : Bytes) : strip (skipSpace s) = strip s := by
  conv => rhs; rw [← takeWhile_append_skipSpace s]
  rw [strip_blank_append (blank_takeWhile s)]

/-- What is left after whitespace starts with no whitespace. -/
theorem isSpace_of_skipSpace {s u : Bytes} {b : UInt8} (h : skipSpace s = b :: u) :
    isSpace b = false := by
  have h' : s.dropWhile isSpace = b :: u := h
  simpa [h'] using List.head?_dropWhile_not isSpace s

/-- A text splits into its leading whitespace and a first byte that is none. -/
theorem eq_of_skipSpace {s u : Bytes} {b : UInt8} (h : skipSpace s = b :: u) :
    ∃ sp, Blank sp ∧ s = sp ++ b :: u :=
  ⟨_, blank_takeWhile s, by rw [← h, takeWhile_append_skipSpace]⟩

theorem skipSpace_append {t u : Bytes} {b : UInt8} (h : skipSpace t = b :: u) (y : Bytes) :
    skipSpace (t ++ y) = b :: u ++ y := by
  obtain ⟨sp, hsp, rfl⟩ := eq_of_skipSpace h
  rw [List.append_assoc, skipSpace_blank_append hsp, List.cons_append,
    skipSpace_cons (isSpace_of_skipSpace h)]

theorem skipSpace_blank_cons {sp : Bytes} (h : Blank sp) {b : UInt8} (hb : isSpace b = false)
    (s : Bytes) : skipSpace (sp ++ b :: s) = b :: s := by
  rw [skipSpace_blank_append h, skipSpace_cons hb]

/-- Whitespace, then a byte that is neither whitespace nor a quote: only the byte is kept. -/
theorem strip_blank_plain {sp : Bytes} (hsp : Blank sp) {b : UInt8} (hb : isSpace b = false)
    (h34 : b ≠ 34) (s : Bytes) : strip (sp ++ b :: s) = b :: strip s := by
  rw [strip_blank_append hsp, strip_cons_plain hb h34]

/-- Whitespace, then a byte that is not whitespace: the byte comes first once layout is gone. -/
theorem strip_of_skipSpace {t u : Bytes} {b : UInt8} (h : skipSpace t = b :: u) :
    ∃ u', strip t = b :: u' := by
  rw [← strip_skipSpace, h]
  by_cases h34 : b = 34
  · subst h34
    exact ⟨dropLayout u true false, by simp [strip, dropLayout]⟩
  · exact ⟨_, strip_cons_plain (isSpace_of_skipSpace h) h34 u⟩

/-- Whatever follows a bracket, a comma, a colon or a whitespace byte ends a number. -/
theorem endsNumber_cons {b : UInt8} (hb : Bytes.isDigit b = false ∧ b ≠ 46 ∧ b ≠ 101 ∧ b ≠ 69)
    (s : Bytes) : EndsNumber (b :: s) := by
  intro c hc
  simp only [List.head?_cons, Option.mem_def, Option.some.injEq] at hc
  exact hc ▸ hb

theorem endsNumber_blank_cons {sp : Bytes} (h : Blank sp) {b : UInt8}
    (hb : Bytes.isDigit b = false ∧ b ≠ 46 ∧ b ≠ 101 ∧ b ≠ 69) (s : Bytes) :
    EndsNumber (sp ++ b :: s) := by
  cases sp with
  | nil => exact endsNumber_cons hb s
  | cons c sp =>
    have hc := h c List.mem_cons_self
    refine endsNumber_cons ?_ _
    simp only [isSpace, Bool.or_eq_true, beq_iff_eq] at hc
    rcases hc with ((rfl | rfl) | rfl) | rfl <;> decide

/-! ### String literals read at the front of a text -/

/-- Printable bytes other than the quote and the backslash can stand inside a string literal. -/
theorem content_of_plain {s : Bytes} (h : ∀ b ∈ s, 0x20 ≤ b ∧ b ≠ 34 ∧ b ≠ 92) : Content s := by
  induction s with
  | nil => exact content_nil
  | cons b s ih =>
    obtain ⟨hlo, h34, h92⟩ := h b List.mem_cons_self
    rw [← List.singleton_append]
    exact (content_byte hlo h34 h92).append (ih fun c hc => h c (List.mem_cons_of_mem b hc))

/-- A hexadecimal digit is printable and neither a quote nor a backslash. -/
theorem plain_of_hexValue {b : UInt8} (h : (Bytes.hexValue? b).isSome) :
    0x20 ≤ b ∧ b ≠ 34 ∧ b ≠ 92 := by
  have hb : 48 ≤ b.toNat ∧ b.toNat ≤ 57 ∨ 97 ≤ b.toNat ∧ b.toNat ≤ 102 ∨
      65 ≤ b.toNat ∧ b.toNat ≤ 70 := by
    simp only [Bytes.hexValue?] at h
    split_ifs at h with h1 h2 h3
    · exact .inl (by simpa [UInt8.le_iff_toNat_le] using h1)
    · exact .inr (.inl (by simpa [UInt8.le_iff_toNat_le] using h2))
    · exact .inr (.inr (by simpa [UInt8.le_iff_toNat_le] using h3))
    · simp at h
  refine ⟨?_, fun h34 => ?_, fun h92 => ?_⟩
  · rw [UInt8.le_iff_toNat_le]; simp only [UInt8.toNat_ofNat]; omega
  · rw [h34] at hb; simp at hb
  · rw [h92] at hb; simp at hb

/-- The digits a run of hexadecimal digits is checked on: there are `n` of them, and the run is
accepted whatever follows them. -/
theorem hexRun_take {n : Nat} {s : Bytes} (h : hexRun n s = .ok ()) :
    (s.take n).length = n ∧ (∀ b ∈ s.take n, (Bytes.hexValue? b).isSome) ∧
      ∀ y, hexRun n (s.take n ++ y) = .ok () := by
  induction n generalizing s with
  | zero => exact ⟨rfl, by simp, fun _ => rfl⟩
  | succ n ih =>
    cases s with
    | nil => simp [hexRun] at h
    | cons b s =>
      rw [hexRun] at h
      split_ifs at h with hb
      obtain ⟨hl, hhex, hrun⟩ := ih h
      refine ⟨by simp [hl], ?_, fun y => ?_⟩
      · simpa [List.take_succ_cons, hb] using hhex
      · simp [List.take_succ_cons, hexRun, hb, hrun]

/-- A `\u` escape whose four digits the reader accepts can stand inside a string literal. -/
theorem content_unicode_of {h4 : Bytes} (hl : h4.length = 4)
    (hhex : ∀ b ∈ h4, (Bytes.hexValue? b).isSome) (hrun : ∀ y, hexRun 4 (h4 ++ y) = .ok ()) :
    Content (92 :: 117 :: h4) where
  span rest acc := by
    rw [List.cons_append, stringSpan.eq_def]
    simp only
    rw [if_neg (by decide), if_pos trivial]
    simp only [List.cons_append]
    rw [if_pos trivial, hrun]
    simp only
    rw [List.drop_left' hl, List.take_left' hl]
    simp [List.reverse_cons]
  layout rest := by
    have h := (content_of_plain fun b hb => plain_of_hexValue (hhex b hb)).layout rest
    simp only [List.cons_append, dropLayout, if_true, if_false, Bool.false_eq_true]
    rw [h]
  visible x hx := by
    simp only [List.mem_cons] at hx
    rcases hx with rfl | rfl | hx
    · decide
    · decide
    · exact (plain_of_hexValue (hhex x hx)).1

/-- **The span of a string literal.** What the reader takes as the content of a string literal is
content that can stand in one, and the closing quote follows it. -/
theorem stringSpan_eq {s acc raw rest : Bytes} (h : stringSpan s acc = .ok (raw, rest)) :
    ∃ c, Content c ∧ s = c ++ 34 :: rest ∧ raw = acc.reverse ++ c := by
  -- one case per branch of the span; the three that go on add one unit of content
  fun_induction stringSpan s acc with
  | case2 acc rest' =>
    obtain ⟨rfl, rfl⟩ := Prod.mk.inj (Except.ok.inj h)
    exact ⟨[], content_nil, rfl, by simp⟩
  | case5 acc rest' hrun _ ih =>
    obtain ⟨c, hc, hs, rfl⟩ := ih h
    obtain ⟨hl, hhex, hrun'⟩ := hexRun_take hrun
    refine ⟨(92 :: 117 :: rest'.take 4) ++ c, (content_unicode_of hl hhex hrun').append hc, ?_, ?_⟩
    · conv => lhs; rw [← List.take_append_drop 4 rest', hs]
      simp
    · simp
  | case6 acc e rest' _ he _ ih =>
    obtain ⟨c, hc, rfl, rfl⟩ := ih h
    exact ⟨[92, e] ++ c, (content_escape he).append hc, rfl, by simp⟩
  | case9 acc b rest' h34 h92 hlo ih =>
    obtain ⟨c, hc, rfl, rfl⟩ := ih h
    have hlo : 0x20 ≤ b := by
      rw [UInt8.le_iff_toNat_le]; rw [UInt8.lt_iff_toNat_lt] at hlo; simp at hlo ⊢; omega
    exact ⟨[b] ++ c, (content_byte hlo h34 h92).append hc, rfl, by simp⟩
  | _ => simp at h

/-! ### Literal words and number literals -/

theorem literal_eq {w s r : Bytes} (h : literal w s = .ok r) : s = w ++ r := by
  induction w generalizing s with
  | nil => exact (Except.ok.inj h).symm ▸ rfl
  | cons c w ih =>
    cases s with
    | nil => simp [literal] at h
    | cons b s =>
      rw [literal] at h
      split_ifs at h with hb
      rw [hb, ih h, List.cons_append]

theorem literal_append (w r : Bytes) : literal w (w ++ r) = .ok r := by
  induction w with
  | nil => rfl
  | cons c w ih => simp [literal, ih]

theorem digits1_eq {s ds r : Bytes} (h : digits1 s = .ok (ds, r)) :
    s = ds ++ r ∧ ds ≠ [] ∧ (∀ c ∈ ds, Bytes.isDigit c = true) ∧
      ∀ c ∈ r.head?, Bytes.isDigit c = false := by
  cases s with
  | nil => simp [digits1] at h
  | cons b s =>
    rw [digits1] at h
    split_ifs at h with hb
    obtain ⟨rfl, rfl⟩ := Prod.mk.inj (Except.ok.inj h)
    refine ⟨List.takeWhile_append_dropWhile.symm, by simp [List.takeWhile_cons_of_pos hb],
      fun c hc => List.mem_takeWhile_imp hc, fun c hc => ?_⟩
    have h' := List.head?_dropWhile_not Bytes.isDigit (b :: s)
    rwa [Option.mem_def.mp hc] at h'

/-- The bytes number literals are made of: signs, the point, exponent marks and digits. -/
def numberByte (c : UInt8) : Bool :=
  c == 45 || c == 43 || c == 46 || c == 101 || c == 69 || Bytes.isDigit c

/-- Number literals hold no layout, no quote and no control byte. -/
theorem plain_of_numberByte {c : UInt8} (h : numberByte c = true) :
    isSpace c = false ∧ c ≠ 34 ∧ 0x20 ≤ c := by
  simp only [numberByte, Bool.or_eq_true, beq_iff_eq, NumberText.isDigit_iff, UInt8.ext_iff,
    UInt8.toNat_ofNat] at h
  simp only [isSpace, Bool.or_eq_false_iff, beq_eq_false_iff_ne, ne_eq, UInt8.ext_iff,
    UInt8.le_iff_toNat_le, UInt8.toNat_ofNat]
  omega

/-- The sign of a number literal read at the front of a text: a minus, or nothing before
anything but a minus. -/
theorem numberSign_eq {s sg r : Bytes} (h : numberSign s = (sg, r)) :
    s = sg ++ r ∧ (sg = [45] ∨ sg = [] ∧ ∀ c ∈ r.head?, c ≠ 45) := by
  rcases s with _ | ⟨c, s⟩
  · obtain ⟨rfl, rfl⟩ := Prod.mk.inj h
    exact ⟨rfl, .inr ⟨rfl, by simp⟩⟩
  by_cases h45 : c = 45
  · subst h45
    obtain ⟨rfl, rfl⟩ := Prod.mk.inj h
    exact ⟨rfl, .inl rfl⟩
  · rw [numberSign.eq_2 _ fun r h => h45 (List.cons.inj h).1] at h
    obtain ⟨rfl, rfl⟩ := Prod.mk.inj h
    exact ⟨rfl, .inr ⟨rfl, by simpa using h45⟩⟩

/-- The integer part of a number literal read at the front of a text: `0`, or digits not
starting with `0`. It is read again before anything but a digit (after `0`, before anything). -/
theorem numberWhole_eq {s w r : Bytes} (h : numberWhole s = .ok (w, r)) :
    s = w ++ r ∧ (∀ c ∈ w, Bytes.isDigit c = true) ∧ (∃ d u, w = d :: u) ∧
      ∀ y, (w ≠ [48] → ∀ c ∈ y.head?, Bytes.isDigit c = false) →
        numberWhole (w ++ y) = .ok (w, y) := by
  by_cases h48 : ∃ u, s = 48 :: u
  · obtain ⟨u, rfl⟩ := h48
    obtain ⟨rfl, rfl⟩ := Prod.mk.inj (Except.ok.inj h)
    exact ⟨rfl, by simp; decide, ⟨48, [], rfl⟩, fun y _ => rfl⟩
  · rw [numberWhole.eq_2 _ (fun u hu => h48 ⟨u, hu⟩)] at h
    obtain ⟨rfl, hne, hds, -⟩ := digits1_eq h
    obtain ⟨d, u, rfl⟩ := List.exists_cons_of_ne_nil hne
    have hd : d ≠ 48 := fun hd => h48 ⟨u ++ r, by rw [hd]; rfl⟩
    exact ⟨rfl, hds, ⟨d, u, rfl⟩, fun y hy => numberWhole_append hds (.inr ⟨d, u, rfl, hd⟩) hy⟩

/-- The fraction of a number literal read at the front of a text: nothing, or a point and
digits. It is read again before anything but a point (after digits, anything but a digit). -/
theorem numberFrac_eq {s fr r : Bytes} (h : numberFrac s = .ok (fr, r)) :
    s = fr ++ r ∧ (∀ c ∈ fr, numberByte c = true) ∧ (∀ c ∈ fr.head?, c = 46) ∧
      ∀ y, (fr = [] → ∀ c ∈ y.head?, c ≠ 46) →
        (fr ≠ [] → ∀ c ∈ y.head?, Bytes.isDigit c = false) → numberFrac (fr ++ y) = .ok (fr, y) := by
  by_cases h46 : ∃ u, s = 46 :: u
  · obtain ⟨u, rfl⟩ := h46
    rw [numberFrac] at h
    cases hd : digits1 u with
    | error e => simp [hd, Except.map] at h
    | ok p =>
      obtain ⟨ds, r'⟩ := p
      simp only [hd, Except.map, Except.ok.injEq, Prod.mk.injEq] at h
      obtain ⟨rfl, rfl⟩ := h
      obtain ⟨rfl, hne, hds, -⟩ := digits1_eq hd
      refine ⟨rfl, fun c hc => ?_, by simp, fun y hy0 hy =>
        numberFrac_append (.inr ⟨ds, rfl, hne, hds⟩) hy0 hy⟩
      rcases List.mem_cons.mp hc with rfl | hc
      · rfl
      · simp [numberByte, hds c hc]
  · rw [numberFrac.eq_2 _ (fun u hu => h46 ⟨u, hu⟩)] at h
    obtain ⟨rfl, rfl⟩ := Prod.mk.inj (Except.ok.inj h)
    exact ⟨rfl, by simp, by simp, fun y hy0 hy => numberFrac_append (.inl rfl) hy0 hy⟩

/-- After an exponent mark the reader takes a plus, a minus or no sign, and then digits. -/
theorem numberExpo_mark {e : UInt8} (he : e = 101 ∨ e = 69) (r0 : Bytes) :
    ∃ sg t, (sg = [] ∨ sg = [43] ∨ sg = [45]) ∧ r0 = sg ++ t ∧
      numberExpo (e :: r0) = (digits1 t).map fun x => (e :: sg ++ x.1, x.2) := by
  -- the reader's own three cases of the sign
  rcases r0 with _ | ⟨c, t⟩
  · refine ⟨[], [], .inl rfl, rfl, ?_⟩
    rw [numberExpo.eq_3 _ _ (fun _ h => List.cons_ne_nil _ _ h.symm)
      (fun _ h => List.cons_ne_nil _ _ h.symm), if_pos he]
  by_cases h43 : c = 43
  · subst h43
    refine ⟨[43], t, .inr (.inl rfl), rfl, ?_⟩
    rw [numberExpo.eq_1, if_pos he]
  by_cases h45 : c = 45
  · subst h45
    refine ⟨[45], t, .inr (.inr rfl), rfl, ?_⟩
    rw [numberExpo.eq_2, if_pos he]
  · refine ⟨[], c :: t, .inl rfl, rfl, ?_⟩
    rw [numberExpo.eq_3 _ _ (fun _ h => h43 (List.cons.inj h).1)
      (fun _ h => h45 (List.cons.inj h).1), if_pos he]

/-- The exponent of a number literal read at the front of a text: nothing, or an exponent mark,
an optional sign and digits. It is read again before anything but an exponent mark (after
digits, anything but a digit). -/
theorem numberExpo_eq {s ex r : Bytes} (h : numberExpo s = .ok (ex, r)) :
    s = ex ++ r ∧ (∀ c ∈ ex, numberByte c = true) ∧ (∀ c ∈ ex.head?, c = 101 ∨ c = 69) ∧
      ∀ y, (ex = [] → ∀ c ∈ y.head?, c ≠ 101 ∧ c ≠ 69) →
        (ex ≠ [] → ∀ c ∈ y.head?, Bytes.isDigit c = false) → numberExpo (ex ++ y) = .ok (ex, y) := by
  by_cases hmark : ∃ e r0, s = e :: r0 ∧ (e = 101 ∨ e = 69)
  · -- an exponent: a mark, a sign or none, and the digits after it
    obtain ⟨e, r0, rfl, he⟩ := hmark
    obtain ⟨sg, t, hsg, rfl, hexpo⟩ := numberExpo_mark he r0
    rw [hexpo] at h
    cases hd : digits1 t with
    | error => simp [hd, Except.map] at h
    | ok p =>
      obtain ⟨ds, r'⟩ := p
      simp only [hd, Except.map, Except.ok.injEq, Prod.mk.injEq] at h
      obtain ⟨rfl, rfl⟩ := h
      obtain ⟨rfl, hne, hds, -⟩ := digits1_eq hd
      refine ⟨by simp, fun c hc => ?_, by simpa using he, fun y _ hy =>
        numberExpo_append he hsg hne hds (hy (List.cons_ne_nil _ _))⟩
      simp only [List.cons_append, List.mem_cons, List.mem_append] at hc
      rcases hc with rfl | hc | hc
      · rcases he with rfl | rfl <;> rfl
      · rcases hsg with rfl | rfl | rfl
        · simp at hc
        all_goals rw [List.mem_singleton.mp hc]; rfl
      · simp [numberByte, hds c hc]
  · -- no exponent: nothing is taken
    have hnot : ∀ c ∈ s.head?, c ≠ 101 ∧ c ≠ 69 := by
      intro c hc
      obtain ⟨r0, rfl⟩ : ∃ r0, s = c :: r0 := by
        cases s with
        | nil => simp at hc
        | cons c' r0 => exact ⟨r0, by simp at hc; rw [hc]⟩
      exact not_or.mp fun he => hmark ⟨c, r0, rfl, he⟩
    rw [numberExpo_none hnot] at h
    obtain ⟨rfl, rfl⟩ := Prod.mk.inj (Except.ok.inj h)
    exact ⟨rfl, by simp, by simp, fun y hy _ => numberExpo_none (hy rfl)⟩

theorem mem_head?_append {a b : Bytes} {c : UInt8} (h : c ∈ (a ++ b).head?) :
    c ∈ a.head? ∨ a = [] ∧ c ∈ b.head? := by
  cases a with
  | nil => exact .inr ⟨rfl, h⟩
  | cons d a => exact .inl h

/-- **A number literal read at the front of a text** is the bytes the reader took: signs, points,
exponent marks and digits. It reads again as itself before anything that does not continue a
number. -/
theorem number_eq {s t r : Bytes} (h : number s = .ok (t, r)) :
    s = t ++ r ∧ (∀ c ∈ t, numberByte c = true) ∧ (∃ d u, t = d :: u) ∧
      ∀ y, EndsNumber y → number (t ++ y) = .ok (t, y) := by
  -- the four stages of the literal: sign, integer part, fraction, exponent
  obtain ⟨sg, s1, hsg⟩ : ∃ sg s1, numberSign s = (sg, s1) := ⟨_, _, rfl⟩
  simp only [number, hsg, bind, Except.bind] at h
  cases hw : numberWhole s1 with
  | error => simp [hw] at h
  | ok p =>
  obtain ⟨w, s2⟩ := p
  cases hf : numberFrac s2 with
  | error => simp [hw, hf] at h
  | ok p =>
  obtain ⟨fr, s3⟩ := p
  cases he : numberExpo s3 with
  | error => simp [hw, hf, he] at h
  | ok p =>
  obtain ⟨ex, r'⟩ := p
  simp only [hw, hf, he, pure, Except.pure, Except.ok.injEq, Prod.mk.injEq] at h
  obtain ⟨rfl, rfl⟩ := h
  obtain ⟨rfl, hsgn⟩ := numberSign_eq hsg
  obtain ⟨rfl, hwd, ⟨d, u, rfl⟩, hw'⟩ := numberWhole_eq hw
  obtain ⟨rfl, hfd, hfh, hf'⟩ := numberFrac_eq hf
  obtain ⟨rfl, hed, heh, he'⟩ := numberExpo_eq he
  have hsg45 : sg = [45] ∨ sg = [] := hsgn.imp_right And.left
  refine ⟨by simp, fun c hc => ?_, ?_, fun y hy => ?_⟩
  · simp only [List.mem_append] at hc
    rcases hc with ((hc | hc) | hc) | hc
    · rcases hsg45 with rfl | rfl
      · rw [List.mem_singleton.mp hc]; rfl
      · simp at hc
    · simp [numberByte, hwd c hc]
    · exact hfd c hc
    · exact hed c hc
  · rcases hsg45 with rfl | rfl
    · exact ⟨45, _, rfl⟩
    · exact ⟨d, _, rfl⟩
  -- after the exponent comes what ends the number; after the fraction, an exponent mark or that
  have hex : ∀ c ∈ (ex ++ y).head?, Bytes.isDigit c = false ∧ c ≠ 46 := by
    intro c hc
    rcases mem_head?_append hc with hc | ⟨-, hc⟩
    · rcases heh c hc with rfl | rfl <;> decide
    · exact ⟨(hy c hc).1, (hy c hc).2.1⟩
  have hfr : ∀ c ∈ (fr ++ (ex ++ y)).head?, Bytes.isDigit c = false := by
    intro c hc
    rcases mem_head?_append hc with hc | ⟨-, hc⟩
    · rw [hfh c hc]; decide
    · exact (hex c hc).1
  -- without a minus, the literal starts with a digit, which is no minus
  have hsign : numberSign (sg ++ (d :: u ++ (fr ++ (ex ++ y)))) =
      (sg, d :: u ++ (fr ++ (ex ++ y))) := numberSign_append (hsg45.imp_right fun h =>
    ⟨h, fun c hc h45 => by
      simp only [List.cons_append, List.head?_cons, Option.mem_def, Option.some.injEq] at hc
      have := hwd d List.mem_cons_self
      rw [hc, h45] at this
      exact absurd this (by decide)⟩)
  have hexpo := he' y (fun _ c hc => ⟨(hy c hc).2.2.1, (hy c hc).2.2.2⟩) fun _ c hc => (hy c hc).1
  have hfrac := hf' (ex ++ y) (fun _ c hc => (hex c hc).2) fun _ c hc => (hex c hc).1
  have hwhole := hw' (fr ++ (ex ++ y)) fun _ c hc => hfr c hc
  rw [number, List.append_assoc, List.append_assoc, List.append_assoc, hsign]
  simp only [bind, Except.bind, hwhole, hfrac, hexpo, pure, Except.pure, List.append_assoc]

/-! ### Reading one value: what a step can do -/

/-- The first bytes of the values that are neither arrays nor objects: a string's quote, the
first letters of the literal words, a minus and the digits. -/
def AtomStart (b : UInt8) : Prop :=
  b = 34 ∨ b = 116 ∨ b = 102 ∨ b = 110 ∨ b = 45 ∨ Bytes.isDigit b = true

/-- The first byte of a value other than an array or an object is printable ASCII, and it opens
and closes nothing. -/
theorem AtomStart.bounds {b : UInt8} (h : AtomStart b) :
    33 ≤ b.toNat ∧ b.toNat < 128 ∧ b ≠ 91 ∧ b ≠ 93 ∧ b ≠ 123 ∧ b ≠ 125 := by
  have hn : b.toNat = 34 ∨ b.toNat = 116 ∨ b.toNat = 102 ∨ b.toNat = 110 ∨ b.toNat = 45 ∨
      48 ≤ b.toNat ∧ b.toNat ≤ 57 := by
    rcases h with rfl | rfl | rfl | rfl | rfl | h
    case inr.inr.inr.inr.inr => exact .inr (.inr (.inr (.inr (.inr (NumberText.isDigit_iff.mp h)))))
    -- the quote, the first letters of the words and the minus
    all_goals simp
  simp only [ne_eq, UInt8.ext_iff, UInt8.toNat_ofNat]
  omega

theorem AtomStart.isSpace {b : UInt8} (h : AtomStart b) : isSpace b = false := by
  have := h.bounds
  simp only [Json.isSpace, Bool.or_eq_false_iff, beq_eq_false_iff_ne, ne_eq, UInt8.ext_iff,
    UInt8.toNat_ofNat]
  omega

/-- A literal word whose first byte the reader dispatches on to read the rest of the word. -/
theorem written_word {b : UInt8} {w : Bytes} {v : Value}
    (hplain : ∀ c ∈ b :: w, isSpace c = false ∧ c ≠ 34 ∧ 0x20 ≤ c)
    (hread : ∀ f d x, value (f + 1) d (b :: x) = (literal w x).map fun r => (v, r)) :
    Written (b :: w) v where
  reads f d rest _ := by rw [List.cons_append, hread, literal_append]; rfl
  compact := dropLayout_plain fun c hc => ⟨(hplain c hc).1, (hplain c hc).2.1⟩
  visible c hc := (hplain c hc).2.2

theorem value_true (f d : Nat) (x : Bytes) :
    value (f + 1) d (116 :: x) = (literal (Bytes.ofString "rue") x).map fun r => (.bool true, r) := by
  rw [value.eq_2, skipSpace_cons (by decide)]
  simp

theorem value_false (f d : Nat) (x : Bytes) :
    value (f + 1) d (102 :: x) = (literal (Bytes.ofString "alse") x).map fun r => (.bool false, r) := by
  rw [value.eq_2, skipSpace_cons (by decide)]
  simp

theorem value_null (f d : Nat) (x : Bytes) :
    value (f + 1) d (110 :: x) = (literal (Bytes.ofString "ull") x).map fun r => (.null, r) := by
  rw [value.eq_2, skipSpace_cons (by decide)]
  simp

/-- A literal word read after its first byte: the value is the word's, and the word's text
follows the byte and reads back as it. -/
theorem word_cases {b : UInt8} {w x rest : Bytes} {v v0 : Value} (hb : AtomStart b)
    (hread : ∀ f d x, value (f + 1) d (b :: x) = (literal w x).map fun r => (v0, r))
    (hplain : ∀ c ∈ b :: w, isSpace c = false ∧ c ≠ 34 ∧ 0x20 ≤ c)
    (hobj : ∀ ms, v0 ≠ .object ms)
    (h : (literal w x).map (fun r => (v0, r)) = .ok (v, rest)) :
    AtomStart b ∧ (∀ ms, v ≠ .object ms) ∧ ∃ w', x = w' ++ rest ∧ Written (b :: w') v := by
  cases hl : literal w x with
  | error => simp [hl, Except.map] at h
  | ok r =>
    simp only [hl, Except.map, Except.ok.injEq, Prod.mk.injEq] at h
    obtain ⟨rfl, rfl⟩ := h
    exact ⟨hb, hobj, w, literal_eq hl, written_word hplain hread⟩

/-- **One value read.** A value read with fuel starts, after whitespace, with a brace (an empty
object, or members), a bracket (an empty array, or elements), or the first byte of a value of
another kind, whose text then reads back as it. -/
theorem value_cases {f d : Nat} {s rest : Bytes} {v : Value}
    (h : value (f + 1) d s = .ok (v, rest)) :
    ∃ b x, skipSpace s = b :: x ∧
      ((b = 123 ∧ d < maxDepth ∧
          ((∃ sp r, Blank sp ∧ x = sp ++ 125 :: r ∧ v = .object [] ∧ rest = r) ∨
            members f (d + 1) x [] = .ok (v, rest))) ∨
        (b = 91 ∧ d < maxDepth ∧
          ((∃ sp r, Blank sp ∧ x = sp ++ 93 :: r ∧ v = .array [] ∧ rest = r) ∨
            elements f (d + 1) x [] = .ok (v, rest))) ∨
        (AtomStart b ∧ (∀ ms, v ≠ .object ms) ∧ ∃ w, x = w ++ rest ∧ Written (b :: w) v)) := by
  rw [value.eq_2] at h
  split at h
  · simp at h
  next b x hs =>
  refine ⟨b, x, hs, ?_⟩
  split_ifs at h with h123 hdepth h91 hdepth' h34 h116 h102 h110 hnum
  · -- an object: empty, or members
    refine .inl ⟨h123, by omega, ?_⟩
    split at h
    · next r hr =>
      obtain ⟨rfl, rfl⟩ := Prod.mk.inj (Except.ok.inj h)
      obtain ⟨sp, hsp, rfl⟩ := eq_of_skipSpace hr
      exact .inl ⟨sp, r, hsp, rfl, rfl, rfl⟩
    · exact .inr h
  · -- an array: empty, or elements
    refine .inr (.inl ⟨h91, by omega, ?_⟩)
    split at h
    · next r hr =>
      obtain ⟨rfl, rfl⟩ := Prod.mk.inj (Except.ok.inj h)
      obtain ⟨sp, hsp, rfl⟩ := eq_of_skipSpace hr
      exact .inl ⟨sp, r, hsp, rfl, rfl, rfl⟩
    · exact .inr h
  · -- a string
    split at h
    · next raw r hspan =>
      obtain ⟨rfl, rfl⟩ := Prod.mk.inj (Except.ok.inj h)
      obtain ⟨c, hc, rfl, hraw⟩ := stringSpan_eq hspan
      rw [List.reverse_nil, List.nil_append] at hraw
      subst h34 hraw
      refine .inr (.inr ⟨.inl rfl, fun _ h => Value.noConfusion h, ⟨raw ++ [34], by simp, ?_⟩⟩)
      simpa using written_string hc
    · simp at h
  · subst h116
    exact .inr (.inr (word_cases (.inr (.inl rfl)) value_true (by decide +kernel)
      (fun _ h => Value.noConfusion h) h))
  · subst h102
    exact .inr (.inr (word_cases (.inr (.inr (.inl rfl))) value_false (by decide +kernel)
      (fun _ h => Value.noConfusion h) h))
  · subst h110
    exact .inr (.inr (word_cases (.inr (.inr (.inr (.inl rfl)))) value_null (by decide +kernel)
      (fun _ h => Value.noConfusion h) h))
  · -- a number literal: its text is what the number grammar took
    cases hn : number (b :: x) with
    | error => simp [hn, Except.map] at h
    | ok p =>
      obtain ⟨t, r⟩ := p
      simp only [hn, Except.map, Except.ok.injEq, Prod.mk.injEq] at h
      obtain ⟨rfl, rfl⟩ := h
      obtain ⟨hbx, hbytes, ⟨b', u, rfl⟩, hagain⟩ := number_eq hn
      obtain ⟨rfl, rfl⟩ := List.cons.inj hbx
      exact .inr (.inr ⟨.inr (.inr (.inr (.inr hnum))), fun _ h => Value.noConfusion h,
        ⟨u, rfl, written_of_number rfl hnum (fun c hc => plain_of_numberByte (hbytes c hc))
          hagain⟩⟩)

/-- **One element read.** The elements of an array read with fuel are a value, whitespace, and a
comma and the other elements, or the closing bracket. -/
theorem elements_cases {f d : Nat} {s rest : Bytes} {acc : List Value} {v : Value}
    (h : elements (f + 1) d s acc = .ok (v, rest)) :
    ∃ v1 x1 sp x2, value f d s = .ok (v1, x1) ∧ Blank sp ∧
      ((x1 = sp ++ 44 :: x2 ∧ elements f d x2 (v1 :: acc) = .ok (v, rest)) ∨
        (x1 = sp ++ 93 :: x2 ∧ v = .array (v1 :: acc).reverse ∧ rest = x2)) := by
  rw [elements.eq_2] at h
  split at h
  · simp at h
  next v1 x1 hv =>
  split at h
  · simp at h
  · next x2 hx =>
    obtain ⟨sp, hsp, rfl⟩ := eq_of_skipSpace hx
    exact ⟨v1, _, sp, x2, hv, hsp, .inl ⟨rfl, h⟩⟩
  · next x2 hx =>
    obtain ⟨sp, hsp, rfl⟩ := eq_of_skipSpace hx
    obtain ⟨rfl, rfl⟩ := Prod.mk.inj (Except.ok.inj h)
    exact ⟨v1, _, sp, x2, hv, hsp, .inr ⟨rfl, rfl, rfl⟩⟩
  · simp at h

/-- **One member read.** The members of an object read with fuel are whitespace, a string
literal's content between quotes, whitespace, a colon, a value, whitespace, and a comma and the
other members, or the closing brace. -/
theorem members_cases {f d : Nat} {s rest : Bytes} {acc : List (Bytes × Value)} {v : Value}
    (h : members (f + 1) d s acc = .ok (v, rest)) :
    ∃ sp1 c sp2 x2 v1 x3 sp3 x4, Blank sp1 ∧ Content c ∧ Blank sp2 ∧ Blank sp3 ∧
      s = sp1 ++ 34 :: c ++ 34 :: sp2 ++ 58 :: x2 ∧ value f d x2 = .ok (v1, x3) ∧
      ((x3 = sp3 ++ 44 :: x4 ∧ members f d x4 ((unquote c, v1) :: acc) = .ok (v, rest)) ∨
        (x3 = sp3 ++ 125 :: x4 ∧ v = .object ((unquote c, v1) :: acc).reverse ∧ rest = x4)) := by
  rw [members.eq_2] at h
  -- the stages of a member, in order; every other branch of the reader is a failure
  split at h
  case h_1 | h_3 => simp at h
  next x hx =>
  obtain ⟨sp1, hsp1, rfl⟩ := eq_of_skipSpace hx
  split at h
  · simp at h
  next raw x1 hspan =>
  obtain ⟨c, hc, rfl, hraw⟩ := stringSpan_eq hspan
  rw [List.reverse_nil, List.nil_append] at hraw
  subst hraw
  split at h
  case h_1 | h_3 => simp at h
  next x2 hx1 =>
  obtain ⟨sp2, hsp2, rfl⟩ := eq_of_skipSpace hx1
  split at h
  · simp at h
  next v1 x3 hv =>
  split at h
  case h_1 | h_4 => simp at h
  · next x4 hx3 =>
    obtain ⟨sp3, hsp3, rfl⟩ := eq_of_skipSpace hx3
    exact ⟨sp1, raw, sp2, x2, v1, _, sp3, x4, hsp1, hc, hsp2, hsp3, by simp, hv, .inl ⟨rfl, h⟩⟩
  · next x4 hx3 =>
    obtain ⟨sp3, hsp3, rfl⟩ := eq_of_skipSpace hx3
    obtain ⟨rfl, rfl⟩ := Prod.mk.inj (Except.ok.inj h)
    exact ⟨sp1, raw, sp2, x2, v1, _, sp3, x4, hsp1, hc, hsp2, hsp3, by simp, hv,
      .inr ⟨rfl, rfl, rfl⟩⟩

/-! ### Reading a value's text again -/

theorem value_blank_append {sp : Bytes} (hsp : Blank sp) (g d : Nat) (s : Bytes) :
    value (g + 1) d (sp ++ s) = value (g + 1) d s := by
  rw [value.eq_2, value.eq_2, skipSpace_blank_append hsp]

theorem value_empty_object {g d : Nat} (hd : d < maxDepth) {x r : Bytes}
    (hx : skipSpace x = 125 :: r) : value (g + 1) d (123 :: x) = .ok (.object [], r) := by
  rw [value.eq_2, skipSpace_cons (by decide)]
  simp only
  rw [if_pos trivial, if_neg (by omega), hx]
  rfl

theorem value_object {g d : Nat} (hd : d < maxDepth) {x u : Bytes} (hx : skipSpace x = 34 :: u) :
    value (g + 1) d (123 :: x) = members g (d + 1) x [] := by
  rw [value.eq_2, skipSpace_cons (by decide)]
  simp only
  rw [if_pos trivial, if_neg (by omega), hx]
  rfl

theorem value_empty_array {g d : Nat} (hd : d < maxDepth) {x r : Bytes}
    (hx : skipSpace x = 93 :: r) : value (g + 1) d (91 :: x) = .ok (.array [], r) := by
  rw [value.eq_2, skipSpace_cons (by decide)]
  simp only
  rw [if_neg (by decide), if_pos trivial, if_neg (by omega), hx]
  rfl

theorem value_array {g d : Nat} (hd : d < maxDepth) {x u : Bytes} {b : UInt8}
    (hx : skipSpace x = b :: u) (hb : b ≠ 93) :
    value (g + 1) d (91 :: x) = elements g (d + 1) x [] := by
  rw [value.eq_2, skipSpace_cons (by decide)]
  simp only
  rw [if_neg (by decide), if_pos trivial, if_neg (by omega), hx]
  split
  · next r h => exact absurd (List.cons.inj h).1 hb
  · rfl

theorem elements_comma {g d : Nat} {x z y : Bytes} {acc : List Value} {v : Value}
    (hu : value g d x = .ok (v, z)) (hz : skipSpace z = 44 :: y) :
    elements (g + 1) d x acc = elements g d y (v :: acc) := by
  rw [elements.eq_2, hu]
  simp only
  rw [hz]
  rfl

theorem elements_close {g d : Nat} {x z y : Bytes} {acc : List Value} {v : Value}
    (hu : value g d x = .ok (v, z)) (hz : skipSpace z = 93 :: y) :
    elements (g + 1) d x acc = .ok (.array (v :: acc).reverse, y) := by
  rw [elements.eq_2, hu]
  simp only
  rw [hz]
  rfl

/-- A member up to its value: the reader goes through the key and the colon to the value. -/
theorem members_key {g d : Nat} {s c z x : Bytes} {acc : List (Bytes × Value)} (hc : Content c)
    (hs : skipSpace s = 34 :: (c ++ 34 :: z)) (hz : skipSpace z = 58 :: x) :
    members (g + 1) d s acc =
      match value g d x with
      | .error f => .error f
      | .ok (v, rest) =>
        match skipSpace rest with
        | [] => .error .truncated
        | 44 :: rest' => members g d rest' ((unquote c, v) :: acc)
        | 125 :: rest' => .ok (.object ((unquote c, v) :: acc).reverse, rest')
        | _ => .error .invalid := by
  rw [members.eq_2, hs]
  simp only
  rw [hc.span, stringSpan_quote, List.append_nil, List.reverse_reverse]
  simp only
  rw [hz]
  rfl

theorem members_comma {g d : Nat} {s c z x z' y : Bytes} {acc : List (Bytes × Value)}
    {v : Value} (hc : Content c) (hs : skipSpace s = 34 :: (c ++ 34 :: z))
    (hz : skipSpace z = 58 :: x) (hu : value g d x = .ok (v, z')) (hz' : skipSpace z' = 44 :: y) :
    members (g + 1) d s acc = members g d y ((unquote c, v) :: acc) := by
  rw [members_key hc hs hz]
  -- the statement's match and the definition's are two matchers here, equal by unfolding
  rewrite [hu]
  simp only
  rw [hz']
  rfl

theorem members_close {g d : Nat} {s c z x z' y : Bytes} {acc : List (Bytes × Value)}
    {v : Value} (hc : Content c) (hs : skipSpace s = 34 :: (c ++ 34 :: z))
    (hz : skipSpace z = 58 :: x) (hu : value g d x = .ok (v, z')) (hz' : skipSpace z' = 125 :: y) :
    members (g + 1) d s acc = .ok (.object ((unquote c, v) :: acc).reverse, y) := by
  rw [members_key hc hs hz]
  rewrite [hu]
  simp only
  rw [hz']
  rfl

/-! ### The text of a value read at the front of a text -/

/-- The text of a value the reader read at depth `depth` as `v`. Its layout does not depend on
what follows it (`settles`); after whitespace it starts with a byte that closes no array
(`lead`); an object's text is braces around its members (`closes`); and it reads as `v` before
anything that does not continue a number, with or without its layout, with any fuel of at least
the length of its compact form (`reads`). -/
structure ValueSpan (depth : Nat) (v : Value) (t : Bytes) : Prop where
  settles : ∀ y, strip (t ++ y) = strip t ++ strip y
  lead : ∃ b u, skipSpace t = b :: u ∧ b ≠ 93
  closes : ∀ ms, v = .object ms → ∃ m, skipSpace t = 123 :: (m ++ [125])
  reads : ∀ g, (strip t).length ≤ g → ∀ y, EndsNumber y →
    value g depth (t ++ y) = .ok (v, y) ∧ value g depth (strip t ++ y) = .ok (v, y)

/-- The text of the elements of an array after its opening bracket, through the closing
bracket, that the reader read at depth `depth` after the elements `acc` as the array `v`. -/
structure ItemsSpan (depth : Nat) (acc : List Value) (v : Value) (t : Bytes) : Prop where
  settles : ∀ y, strip (t ++ y) = strip t ++ strip y
  lead : ∃ b u, skipSpace t = b :: u ∧ b ≠ 93
  array : ∃ vs, v = .array vs
  reads : ∀ g, (strip t).length ≤ g → ∀ y,
    elements g depth (t ++ y) acc = .ok (v, y) ∧ elements g depth (strip t ++ y) acc = .ok (v, y)

/-- The text of the members of an object after its opening brace, through the closing brace,
that the reader read at depth `depth` after the members `acc` as the object `v`. -/
structure MembersSpan (depth : Nat) (acc : List (Bytes × Value)) (v : Value) (t : Bytes) :
    Prop where
  settles : ∀ y, strip (t ++ y) = strip t ++ strip y
  lead : ∃ u, skipSpace t = 34 :: u
  closes : ∃ m, t = m ++ [125]
  object : ∃ ms, v = .object ms
  reads : ∀ g, (strip t).length ≤ g → ∀ y,
    members g depth (t ++ y) acc = .ok (v, y) ∧ members g depth (strip t ++ y) acc = .ok (v, y)

variable {d : Nat} {v : Value}

theorem Written.strip_append {t : Bytes} (h : Written t v) (y : Bytes) :
    strip (t ++ y) = t ++ strip y := h.compact y

theorem Written.strip_self {t : Bytes} (h : Written t v) : strip t = t := by
  simpa [strip_nil] using h.strip_append []

/-- A string, a literal word or a number literal after whitespace. -/
theorem ValueSpan.atom {sp w : Bytes} {b : UInt8} (hsp : Blank sp) (hb : AtomStart b)
    (hv : Written (b :: w) v) (hobj : ∀ ms, v ≠ .object ms) : ValueSpan d v (sp ++ b :: w) where
  settles y := by
    rw [List.append_assoc, strip_blank_append hsp, strip_blank_append hsp, hv.strip_append,
      hv.strip_self]
  lead := ⟨b, w, skipSpace_blank_cons hsp hb.isSpace w, hb.bounds.2.2.2.1⟩
  closes ms h := absurd h (hobj ms)
  reads g hg y hy := by
    rw [strip_blank_append hsp, hv.strip_self] at hg ⊢
    obtain ⟨g, rfl⟩ : ∃ g', g = g' + 1 := ⟨g - 1, by simp at hg; omega⟩
    rw [List.append_assoc, value_blank_append hsp]
    exact ⟨hv.reads g d y hy, hv.reads g d y hy⟩

/-- An empty object or array after whitespace: an opening byte, whitespace and the closing
byte, read as the empty value. -/
theorem ValueSpan.empty {sp sp' : Bytes} {o c : UInt8} (hsp : Blank sp) (hsp' : Blank sp')
    (ho : isSpace o = false ∧ o ≠ 34 ∧ o ≠ 93) (hc : isSpace c = false ∧ c ≠ 34)
    (hread : ∀ g x r, skipSpace x = c :: r → value (g + 1) d (o :: x) = .ok (v, r))
    (hobj : ∀ ms, v = .object ms → o = 123 ∧ c = 125) : ValueSpan d v (sp ++ o :: (sp' ++ [c])) where
  settles y := by
    simp only [List.append_assoc, List.cons_append, List.nil_append]
    rw [strip_blank_plain hsp ho.1 ho.2.1, strip_blank_plain hsp ho.1 ho.2.1,
      strip_blank_plain hsp' hc.1 hc.2, strip_blank_plain hsp' hc.1 hc.2, strip_nil]
    rfl
  lead := ⟨o, _, skipSpace_blank_cons hsp ho.1 _, ho.2.2⟩
  closes ms h := by
    obtain ⟨rfl, rfl⟩ := hobj ms h
    exact ⟨sp', skipSpace_blank_cons hsp ho.1 _⟩
  reads g hg y _ := by
    rw [strip_blank_plain hsp ho.1 ho.2.1, strip_blank_plain hsp' hc.1 hc.2] at hg ⊢
    obtain ⟨g, rfl⟩ : ∃ g', g = g' + 1 := ⟨g - 1, by simp at hg; omega⟩
    simp only [List.append_assoc, List.cons_append, List.nil_append]
    rw [value_blank_append hsp, hread g _ _ (skipSpace_blank_cons hsp' hc.1 _),
      hread g _ _ (skipSpace_cons hc.1 _)]
    exact ⟨rfl, rfl⟩

/-- An object with members after whitespace. -/
theorem ValueSpan.object {sp mt : Bytes} (hd : d < maxDepth) (hsp : Blank sp)
    (hm : MembersSpan (d + 1) [] v mt) : ValueSpan d v (sp ++ 123 :: mt) where
  settles y := by
    rw [List.append_assoc, List.cons_append, strip_blank_plain hsp (by decide) (by decide),
      strip_blank_plain hsp (by decide) (by decide), hm.settles, List.cons_append]
  lead := ⟨123, mt, skipSpace_blank_cons hsp (by decide) mt, by decide⟩
  closes _ _ := by
    obtain ⟨m, rfl⟩ := hm.closes
    exact ⟨m, skipSpace_blank_cons hsp (by decide) _⟩
  reads g hg y _ := by
    rw [strip_blank_plain hsp (by decide) (by decide)] at hg ⊢
    obtain ⟨g, rfl⟩ : ∃ g', g = g' + 1 := ⟨g - 1, by simp at hg; omega⟩
    -- the members start with a quote, with or without their layout, so they are read
    obtain ⟨u, hu⟩ := hm.lead
    obtain ⟨u', hu'⟩ := strip_of_skipSpace hu
    rw [List.append_assoc, value_blank_append hsp, List.cons_append, List.cons_append,
      value_object hd (skipSpace_append hu y),
      value_object hd (by rw [hu', List.cons_append, skipSpace_cons (by decide)])]
    exact hm.reads g (by simp at hg; omega) y

/-- An array with elements after whitespace. -/
theorem ValueSpan.array {sp et : Bytes} (hd : d < maxDepth) (hsp : Blank sp)
    (he : ItemsSpan (d + 1) [] v et) : ValueSpan d v (sp ++ 91 :: et) where
  settles y := by
    rw [List.append_assoc, List.cons_append, strip_blank_plain hsp (by decide) (by decide),
      strip_blank_plain hsp (by decide) (by decide), he.settles, List.cons_append]
  lead := ⟨91, et, skipSpace_blank_cons hsp (by decide) et, by decide⟩
  closes ms h := by
    obtain ⟨vs, rfl⟩ := he.array
    exact Value.noConfusion h
  reads g hg y _ := by
    rw [strip_blank_plain hsp (by decide) (by decide)] at hg ⊢
    obtain ⟨g, rfl⟩ : ∃ g', g = g' + 1 := ⟨g - 1, by simp at hg; omega⟩
    -- the first element closes no array, with or without its layout, so the elements are read
    obtain ⟨b, u, hu, hb⟩ := he.lead
    obtain ⟨u', hu'⟩ := strip_of_skipSpace hu
    rw [List.append_assoc, value_blank_append hsp, List.cons_append, List.cons_append,
      value_array hd (skipSpace_append hu y) hb,
      value_array hd (by rw [hu', List.cons_append, skipSpace_cons (isSpace_of_skipSpace hu)]) hb]
    exact he.reads g (by simp at hg; omega) y

/-- The last element of an array: a value, whitespace and the closing bracket. -/
theorem ItemsSpan.last {vt sp : Bytes} {acc : List Value} (hv : ValueSpan d v vt)
    (hsp : Blank sp) : ItemsSpan d acc (.array (v :: acc).reverse) (vt ++ (sp ++ [93])) where
  settles y := by
    have k93 := strip_blank_plain hsp (show isSpace 93 = false by decide) (by decide)
    simp only [List.append_assoc, List.cons_append, List.nil_append, hv.settles, k93, strip_nil]
  lead := by
    obtain ⟨b, u, hu, hb⟩ := hv.lead
    exact ⟨b, _, skipSpace_append hu _, hb⟩
  array := ⟨_, rfl⟩
  reads g hg y := by
    have hs : strip (vt ++ (sp ++ [93])) = strip vt ++ [93] := by
      rw [hv.settles, strip_blank_plain hsp (by decide) (by decide), strip_nil]
    rw [hs] at hg ⊢
    obtain ⟨g, rfl⟩ : ∃ g', g = g' + 1 := ⟨g - 1, by simp at hg; omega⟩
    have hg' : (strip vt).length ≤ g := by simp at hg; omega
    simp only [List.append_assoc, List.cons_append, List.nil_append]
    exact ⟨elements_close (hv.reads g hg' _ (endsNumber_blank_cons hsp (by decide) y)).1
        (skipSpace_blank_cons hsp (by decide) y),
      elements_close (hv.reads g hg' _ (endsNumber_cons (by decide) y)).2
        (skipSpace_cons (by decide) y)⟩

/-- An element followed by more: a value, whitespace, a comma and the other elements. -/
theorem ItemsSpan.cons {vt sp et : Bytes} {acc : List Value} {w : Value} (hv : ValueSpan d v vt)
    (hsp : Blank sp) (he : ItemsSpan d (v :: acc) w et) :
    ItemsSpan d acc w (vt ++ (sp ++ 44 :: et)) where
  settles y := by
    have k44 := strip_blank_plain hsp (show isSpace 44 = false by decide) (by decide)
    simp only [List.append_assoc, List.cons_append, hv.settles, k44, he.settles]
  lead := by
    obtain ⟨b, u, hu, hb⟩ := hv.lead
    exact ⟨b, _, skipSpace_append hu _, hb⟩
  array := he.array
  reads g hg y := by
    have hs : strip (vt ++ (sp ++ 44 :: et)) = strip vt ++ 44 :: strip et := by
      rw [hv.settles, strip_blank_plain hsp (by decide) (by decide)]
    rw [hs] at hg ⊢
    obtain ⟨g, rfl⟩ : ∃ g', g = g' + 1 := ⟨g - 1, by simp at hg; omega⟩
    have hgv : (strip vt).length ≤ g := by simp at hg; omega
    have hge : (strip et).length ≤ g := by simp at hg; omega
    simp only [List.append_assoc, List.cons_append]
    rw [elements_comma (hv.reads g hgv _ (endsNumber_blank_cons hsp (by decide) _)).1
        (skipSpace_blank_cons hsp (by decide) _),
      elements_comma (hv.reads g hgv _ (endsNumber_cons (by decide) _)).2
        (skipSpace_cons (by decide) _)]
    exact he.reads g hge y

/-- The last member of an object: whitespace, a key, whitespace, a colon, a value, whitespace and
the closing brace. -/
theorem MembersSpan.last {c sp1 sp2 vt sp3 : Bytes} {acc : List (Bytes × Value)} (hc : Content c)
    (h1 : Blank sp1) (h2 : Blank sp2) (h3 : Blank sp3) (hv : ValueSpan d v vt) :
    MembersSpan d acc (.object ((unquote c, v) :: acc).reverse)
      (sp1 ++ 34 :: (c ++ 34 :: (sp2 ++ 58 :: (vt ++ (sp3 ++ [125]))))) where
  settles y := by
    have k58 := strip_blank_plain h2 (show isSpace 58 = false by decide) (by decide)
    have k125 := strip_blank_plain h3 (show isSpace 125 = false by decide) (by decide)
    simp only [List.append_assoc, List.cons_append, List.nil_append, strip_blank_append h1,
      strip_string hc, k58, hv.settles, k125, strip_nil]
  lead := ⟨_, skipSpace_blank_cons h1 (by decide) _⟩
  closes := ⟨sp1 ++ 34 :: (c ++ 34 :: (sp2 ++ 58 :: (vt ++ sp3))), by simp⟩
  object := ⟨_, rfl⟩
  reads g hg y := by
    have hs : strip (sp1 ++ 34 :: (c ++ 34 :: (sp2 ++ 58 :: (vt ++ (sp3 ++ [125]))))) =
        34 :: (c ++ 34 :: 58 :: (strip vt ++ [125])) := by
      rw [strip_blank_append h1, strip_string hc, strip_blank_plain h2 (by decide) (by decide),
        hv.settles, strip_blank_plain h3 (by decide) (by decide), strip_nil]
    rw [hs] at hg ⊢
    obtain ⟨g, rfl⟩ : ∃ g', g = g' + 1 := ⟨g - 1, by simp at hg; omega⟩
    have hg' : (strip vt).length ≤ g := by simp at hg; omega
    simp only [List.append_assoc, List.cons_append, List.nil_append]
    exact ⟨members_close hc (skipSpace_blank_cons h1 (by decide) _)
        (skipSpace_blank_cons h2 (by decide) _)
        (hv.reads g hg' _ (endsNumber_blank_cons h3 (by decide) y)).1
        (skipSpace_blank_cons h3 (by decide) y),
      members_close hc (skipSpace_cons (by decide) _) (skipSpace_cons (by decide) _)
        (hv.reads g hg' _ (endsNumber_cons (by decide) y)).2 (skipSpace_cons (by decide) y)⟩

/-- A member followed by more: whitespace, a key, whitespace, a colon, a value, whitespace, a
comma and the other members. -/
theorem MembersSpan.cons {c sp1 sp2 vt sp3 mt : Bytes} {acc : List (Bytes × Value)} {w : Value}
    (hc : Content c) (h1 : Blank sp1) (h2 : Blank sp2) (h3 : Blank sp3) (hv : ValueSpan d v vt)
    (hm : MembersSpan d ((unquote c, v) :: acc) w mt) :
    MembersSpan d acc w (sp1 ++ 34 :: (c ++ 34 :: (sp2 ++ 58 :: (vt ++ (sp3 ++ 44 :: mt))))) where
  settles y := by
    have k58 := strip_blank_plain h2 (show isSpace 58 = false by decide) (by decide)
    have k44 := strip_blank_plain h3 (show isSpace 44 = false by decide) (by decide)
    simp only [List.append_assoc, List.cons_append, strip_blank_append h1, strip_string hc, k58,
      hv.settles, k44, hm.settles]
  lead := ⟨_, skipSpace_blank_cons h1 (by decide) _⟩
  closes := by
    obtain ⟨m, rfl⟩ := hm.closes
    exact ⟨sp1 ++ 34 :: (c ++ 34 :: (sp2 ++ 58 :: (vt ++ (sp3 ++ 44 :: m)))), by simp⟩
  object := hm.object
  reads g hg y := by
    have hs : strip (sp1 ++ 34 :: (c ++ 34 :: (sp2 ++ 58 :: (vt ++ (sp3 ++ 44 :: mt))))) =
        34 :: (c ++ 34 :: 58 :: (strip vt ++ 44 :: strip mt)) := by
      rw [strip_blank_append h1, strip_string hc, strip_blank_plain h2 (by decide) (by decide),
        hv.settles, strip_blank_plain h3 (by decide) (by decide)]
    rw [hs] at hg ⊢
    obtain ⟨g, rfl⟩ : ∃ g', g = g' + 1 := ⟨g - 1, by simp at hg; omega⟩
    have hgv : (strip vt).length ≤ g := by simp at hg; omega
    have hgm : (strip mt).length ≤ g := by simp at hg; omega
    simp only [List.append_assoc, List.cons_append]
    rw [members_comma hc (skipSpace_blank_cons h1 (by decide) _)
        (skipSpace_blank_cons h2 (by decide) _)
        (hv.reads g hgv _ (endsNumber_blank_cons h3 (by decide) _)).1
        (skipSpace_blank_cons h3 (by decide) _),
      members_comma hc (skipSpace_cons (by decide) _) (skipSpace_cons (by decide) _)
        (hv.reads g hgv _ (endsNumber_cons (by decide) _)).2 (skipSpace_cons (by decide) _)]
    exact hm.reads g hgm y

/-! ### Every value read is the text of that value -/

/-- **What the reader reads is a value's text.** Whatever the reader reads with some fuel at the
front of a text, a value, the elements of an array or the members of an object, the text is the
text it read followed by the rest, and that text reads back alike with its layout or without. -/
theorem spans : ∀ f : Nat,
    (∀ {d s v rest}, value f d s = .ok (v, rest) → ∃ t, s = t ++ rest ∧ ValueSpan d v t) ∧
      (∀ {d s acc v rest}, elements f d s acc = .ok (v, rest) →
        ∃ t, s = t ++ rest ∧ ItemsSpan d acc v t) ∧
      (∀ {d s acc v rest}, members f d s acc = .ok (v, rest) →
        ∃ t, s = t ++ rest ∧ MembersSpan d acc v t)
  | 0 => ⟨fun h => by simp [value] at h, fun h => by simp [elements] at h,
      fun h => by simp [members] at h⟩
  | f + 1 => by
    -- induction on the fuel: each function reads its parts with one unit less, and each way a
    -- part can be built gives its text by one lemma
    obtain ⟨ihv, ihe, ihm⟩ := spans f
    refine ⟨fun h => ?_, fun h => ?_, fun h => ?_⟩
    · obtain ⟨b, x, hs, hcase⟩ := value_cases h
      obtain ⟨sp, hsp, rfl⟩ := eq_of_skipSpace hs
      rcases hcase with ⟨rfl, hd, ⟨sp', r, hsp', rfl, rfl, rfl⟩ | hm⟩ |
          ⟨rfl, hd, ⟨sp', r, hsp', rfl, rfl, rfl⟩ | he⟩ | ⟨hb, hobj, w, rfl, hw⟩
      · exact ⟨_, by simp, ValueSpan.empty hsp hsp' (by decide) (by decide)
          (fun _ _ _ hx => value_empty_object hd hx) fun _ _ => ⟨rfl, rfl⟩⟩
      · obtain ⟨mt, rfl, hmt⟩ := ihm hm
        exact ⟨_, by simp, ValueSpan.object hd hsp hmt⟩
      · exact ⟨_, by simp, ValueSpan.empty hsp hsp' (by decide) (by decide)
          (fun _ _ _ hx => value_empty_array hd hx) fun _ h => Value.noConfusion h⟩
      · obtain ⟨et, rfl, het⟩ := ihe he
        exact ⟨_, by simp, ValueSpan.array hd hsp het⟩
      · exact ⟨_, by simp, ValueSpan.atom hsp hb hw hobj⟩
    · obtain ⟨v1, x1, sp, x2, hv, hsp, ⟨rfl, he⟩ | ⟨rfl, rfl, rfl⟩⟩ := elements_cases h
      · obtain ⟨vt, rfl, hvt⟩ := ihv hv
        obtain ⟨et, rfl, het⟩ := ihe he
        exact ⟨_, by simp, ItemsSpan.cons hvt hsp het⟩
      · obtain ⟨vt, rfl, hvt⟩ := ihv hv
        exact ⟨_, by simp, ItemsSpan.last hvt hsp⟩
    · obtain ⟨sp1, c, sp2, x2, v1, x3, sp3, x4, h1, hc, h2, h3, rfl, hv, ⟨rfl, hm⟩ | ⟨rfl, rfl, rfl⟩⟩ :=
        members_cases h
      · obtain ⟨vt, rfl, hvt⟩ := ihv hv
        obtain ⟨mt, rfl, hmt⟩ := ihm hm
        exact ⟨_, by simp, MembersSpan.cons hc h1 h2 h3 hvt hmt⟩
      · obtain ⟨vt, rfl, hvt⟩ := ihv hv
        exact ⟨_, by simp, MembersSpan.last hc h1 h2 h3 hvt⟩

/-! ### Whole texts -/

theorem strip_blank {sp : Bytes} (h : Blank sp) : strip sp = [] := by
  simpa [strip_nil] using strip_blank_append h []

theorem isValid_iff {s : Bytes} : isValid s = true ↔ ∃ v, readWhole s = .ok v := by
  unfold isValid
  cases readWhole s <;> simp [Except.toBool]

/-- A whole text is the text of its value with whitespace after it. -/
theorem readWhole_eq {s : Bytes} {v : Value} (h : readWhole s = .ok v) :
    ∃ t rest, s = t ++ rest ∧ Blank rest ∧ ValueSpan 0 v t := by
  unfold readWhole readValue at h
  split at h
  · simp at h
  next v' rest hv =>
  split_ifs at h with hrest
  obtain rfl := Except.ok.inj h
  obtain ⟨t, rfl, ht⟩ := (spans _).1 hv
  exact ⟨t, rest, rfl, List.dropWhile_eq_nil_iff.mp (List.isEmpty_iff.mp hrest), ht⟩

/-- A value's text with no layout is read whole with the fuel its length gives. -/
theorem ValueSpan.readWhole_strip {t : Bytes} (ht : ValueSpan 0 v t) :
    readWhole (strip t) = .ok v := by
  have hread := (ht.reads (fuelFor (strip t)) (by unfold fuelFor; omega) []
    (by simp [EndsNumber])).2
  rw [List.append_nil] at hread
  unfold readWhole readValue
  rw [hread]
  rfl

/-- **A valid text and its compact form read as the same value.** -/
theorem readWhole_strip {s : Bytes} {v : Value} (h : readWhole s = .ok v) :
    readWhole (strip s) = .ok v := by
  obtain ⟨t, rest, rfl, hrest, ht⟩ := readWhole_eq h
  rw [ht.settles, strip_blank hrest, List.append_nil]
  exact ht.readWhole_strip

/-- **Compaction is idempotent.** The compact form of a valid text is valid, and it is its own
compact form. -/
theorem compact_compact {s c : Bytes} (h : compact s = some c) : compact c = some c := by
  unfold compact at h ⊢
  split_ifs at h with hs
  obtain rfl := Option.some.inj h
  obtain ⟨v, hv⟩ := isValid_iff.mp hs
  change (if isValid (strip s) then some (strip (strip s)) else none) = some (strip s)
  rw [if_pos (isValid_iff.mpr ⟨v, readWhole_strip hv⟩), strip_strip]

/-- **The first byte decides objects.** A valid text starts, after whitespace, with printable
ASCII, and it is an object exactly when that byte is a brace. -/
theorem readWhole_lead {s : Bytes} {v : Value} (h : readWhole s = .ok v) :
    ∃ b x, skipSpace s = b :: x ∧ 33 ≤ b.toNat ∧ b.toNat < 128 ∧
      (b = 123 ↔ ∃ ms, v = .object ms) := by
  unfold readWhole readValue at h
  split at h
  · simp at h
  next v' rest hv =>
  split_ifs at h
  obtain rfl := Except.ok.inj h
  obtain ⟨b, x, hs, hcase⟩ := value_cases (show value (2 * s.length + 1 + 1) 0 s = _ from hv)
  refine ⟨b, x, hs, ?_⟩
  rcases hcase with ⟨rfl, -, ⟨-, -, -, -, rfl, -⟩ | hm⟩ | ⟨rfl, -, ⟨-, -, -, -, rfl, -⟩ | he⟩ |
      ⟨hb, hobj, -⟩
  · exact ⟨by decide, by decide, iff_of_true rfl ⟨[], rfl⟩⟩
  · obtain ⟨mt, -, hmt⟩ := (spans _).2.2 hm
    exact ⟨by decide, by decide, iff_of_true rfl hmt.object⟩
  · exact ⟨by decide, by decide, iff_of_false (by decide) fun ⟨_, h⟩ => Value.noConfusion h⟩
  · obtain ⟨et, -, het⟩ := (spans _).2.1 he
    obtain ⟨vs, rfl⟩ := het.array
    exact ⟨by decide, by decide, iff_of_false (by decide) fun ⟨_, h⟩ => Value.noConfusion h⟩
  · obtain ⟨h33, h128, -, -, h123, -⟩ := hb.bounds
    exact ⟨h33, h128, iff_of_false h123 fun ⟨ms, h⟩ => hobj ms h⟩

/-- **A whole object's text.** A text that reads whole as an object is braces around members with
whitespace around them, and the braces and what is between them read whole as the object. -/
theorem readWhole_object {s : Bytes} {ms : List (Bytes × Value)}
    (h : readWhole s = .ok (.object ms)) :
    ∃ sp m rest, Blank sp ∧ Blank rest ∧ s = sp ++ 123 :: (m ++ [125]) ++ rest ∧
      readWhole (123 :: (m ++ [125])) = .ok (.object ms) := by
  obtain ⟨t, rest, rfl, hrest, ht⟩ := readWhole_eq h
  obtain ⟨m, hm⟩ := ht.closes ms rfl
  obtain ⟨sp, hsp, rfl⟩ := eq_of_skipSpace hm
  refine ⟨sp, m, rest, hsp, hrest, rfl, ?_⟩
  -- the braces read alone with their own fuel, which covers the compact form of the whole text
  have hfuel : (strip (sp ++ 123 :: (m ++ [125]))).length ≤ fuelFor (123 :: (m ++ [125])) := by
    have := length_strip_le (123 :: (m ++ [125]))
    rw [strip_blank_append hsp]
    unfold fuelFor
    omega
  have hread := (ht.reads _ hfuel [] (by simp [EndsNumber])).1
  rw [List.append_nil, fuelFor, value_blank_append hsp] at hread
  unfold readWhole readValue fuelFor
  rw [hread]
  rfl

end Json

end TelemetryBridge
