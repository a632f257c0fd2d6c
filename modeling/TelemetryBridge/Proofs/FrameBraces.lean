import TelemetryBridge.Proofs.FrameText

/-!
# Frames delimited by braces

A receiver that reads frames off the serial line can find where each one ends by counting
braces: the depth goes up at `{` and down at `}`, and a frame ends at the byte that brings it
back to zero (`splitBraces`). For that to split a stream exactly into its frames, each frame
must be brace-delimited (`BraceDelimited`): positive depth after every proper non-empty prefix,
zero after the whole.

The writer leaves `{` and `}` inside a string literal as they are, so the identifier's braces
count. Every other byte between a frame's outer braces is no brace: keys, numbers, quotes,
colons, commas, and the escapes of the literal and of ASCII-only text. Read as UTF-8, a byte
string's braces are those of its units, since every byte of a longer sequence or a stray byte
is from `0x80` up (`filter_isBrace_eq_units`). So the braces of a frame text are an opening
brace, the identifier's braces in order, and a closing brace (`Frame.text_braces`).

Main statement: `Payload.frames_split_at_ends`. A frame text is brace-delimited exactly when
its identifier is balanced (`Balanced`: no prefix closes more braces than it opens, and the
whole closes all it opens), and the receiver splits a stream of frames of such payloads into
exactly those frames. An identifier that is one `}` already breaks the law.
-/

namespace TelemetryBridge

/-! ### Brace depth -/

/-- Whether a byte is a brace, `{` or `}`. -/
def isBrace (b : UInt8) : Bool := b == 123 || b == 125

/-- The change a byte makes to the brace depth: up at `{`, down at `}`. -/
def braceStep (b : UInt8) : Int := if b = 123 then 1 else if b = 125 then -1 else 0

/-- The **brace depth** of a byte string: its opening braces less its closing ones. -/
def braceDepth (bs : Bytes) : Int := (bs.map braceStep).sum

@[simp] theorem braceDepth_nil : braceDepth [] = 0 := rfl

@[simp] theorem braceDepth_cons (b : UInt8) (bs : Bytes) :
    braceDepth (b :: bs) = braceStep b + braceDepth bs := by
  simp [braceDepth]

@[simp] theorem braceDepth_append (a b : Bytes) :
    braceDepth (a ++ b) = braceDepth a + braceDepth b := by
  simp [braceDepth]

@[simp] theorem braceStep_open : braceStep 123 = 1 := rfl

@[simp] theorem braceStep_close : braceStep 125 = -1 := rfl

theorem isBrace_iff (b : UInt8) : isBrace b = true ↔ b.toNat = 123 ∨ b.toNat = 125 := by
  simp [isBrace, ← UInt8.toNat_inj]

theorem isBrace_of_high {b : UInt8} (h : 0x80 ≤ b) : isBrace b = false := by
  rw [UInt8.le_iff_toNat_le] at h
  exact Bool.eq_false_iff.mpr fun hx => by rw [isBrace_iff] at hx; simp at h; omega

theorem braceStep_of_not_isBrace {b : UInt8} (h : isBrace b = false) : braceStep b = 0 := by
  simp only [isBrace, Bool.or_eq_false_iff, beq_eq_false_iff_ne] at h
  simp [braceStep, h.1, h.2]

theorem filter_isBrace_eq_nil {bs : Bytes} (h : ∀ b ∈ bs, isBrace b = false) :
    bs.filter isBrace = [] :=
  List.filter_eq_nil_iff.mpr fun b hb => by simp [h b hb]

/-- Only braces count: dropping every other byte keeps the depth. -/
@[simp] theorem braceDepth_filter (bs : Bytes) :
    braceDepth (bs.filter isBrace) = braceDepth bs := by
  induction bs with
  | nil => rfl
  | cons b bs ih =>
    cases hb : isBrace b
    · rw [List.filter_cons_of_neg (by simp [hb]), ih, braceDepth_cons,
        braceStep_of_not_isBrace hb, zero_add]
    · rw [List.filter_cons_of_pos hb, braceDepth_cons, braceDepth_cons, ih]

/-- **Balanced** text: no prefix closes more braces than it has opened, and the whole closes
every brace it opens. -/
structure Balanced (bs : Bytes) : Prop where
  nonneg : ∀ q, q <+: bs → 0 ≤ braceDepth q
  closed : braceDepth bs = 0

/-- Balance read off the prefixes by their lengths, which makes it decidable. -/
theorem balanced_iff_take (bs : Bytes) :
    Balanced bs ↔ (∀ k ≤ bs.length, 0 ≤ braceDepth (bs.take k)) ∧ braceDepth bs = 0 := by
  constructor
  · rintro ⟨hn, hc⟩
    exact ⟨fun k _ => hn _ (List.take_prefix k bs), hc⟩
  · rintro ⟨hn, hc⟩
    refine ⟨fun q hq => ?_, hc⟩
    rw [List.prefix_iff_eq_take.mp hq]
    exact hn _ hq.length_le

instance : DecidablePred Balanced := fun bs => decidable_of_iff _ (balanced_iff_take bs).symm

/-- Balance is a property of the braces alone. -/
theorem balanced_filter_iff (bs : Bytes) : Balanced (bs.filter isBrace) ↔ Balanced bs := by
  constructor
  · rintro ⟨hn, hc⟩
    refine ⟨fun q hq => ?_, by rwa [braceDepth_filter] at hc⟩
    rw [← braceDepth_filter]
    exact hn _ (hq.filter isBrace)
  · rintro ⟨hn, hc⟩
    refine ⟨fun q hq => ?_, by rwa [braceDepth_filter]⟩
    obtain ⟨p, hp, rfl⟩ := List.prefix_filter_iff.mp hq
    rw [braceDepth_filter]
    exact hn p hp

/-- A **brace-delimited** message: its brace depth is positive after every proper non-empty
prefix and zero after the whole, so the message ends where its depth first comes back to
zero. -/
structure BraceDelimited (bs : Bytes) : Prop where
  inside : ∀ q, q <+: bs → q ≠ [] → q ≠ bs → 0 < braceDepth q
  closed : braceDepth bs = 0

/-- Text between an opening and a closing brace is brace-delimited exactly when it is
balanced: the outer pair lifts every inner depth by one. -/
theorem braceDelimited_wrap_iff (body : Bytes) :
    BraceDelimited (123 :: body ++ [125]) ↔ Balanced body := by
  constructor
  · rintro ⟨hin, hc⟩
    refine ⟨fun q hq => ?_, by simp at hc; omega⟩
    have hpre : 123 :: q <+: 123 :: body ++ [125] :=
      (List.prefix_cons_inj 123).mpr (hq.trans (List.prefix_append body [125]))
    have hne : 123 :: q ≠ 123 :: body ++ [125] := by
      intro h
      have := congrArg List.length h
      simp only [List.length_cons, List.cons_append, List.length_append] at this
      have := hq.length_le
      omega
    have := hin _ hpre (List.cons_ne_nil _ _) hne
    simp at this
    omega
  · rintro ⟨hn, hc⟩
    refine ⟨fun q hq hne hall => ?_, by simp [hc]⟩
    rcases List.prefix_cons_iff.mp hq with rfl | ⟨t, rfl, ht⟩
    · exact absurd rfl hne
    · rcases List.prefix_concat_iff.mp ht with rfl | ht
      · exact absurd rfl hall
      · have := hn t ht
        simp
        omega

/-! ### The balanced-brace receiver -/

/-- The **balanced-brace receiver**: it reads a byte stream from brace depth `depth`, with the
bytes `cur` of the message under way, and ends a message at each byte that brings the depth
back to zero. Bytes after the last such byte make no message. -/
def splitBraces (depth : Int) (cur : Bytes) : Bytes → List Bytes
  | [] => []
  | b :: rest =>
    if depth + braceStep b = 0 then (cur ++ [b]) :: splitBraces 0 [] rest
    else splitBraces (depth + braceStep b) (cur ++ [b]) rest

/-- Bytes that never bring the depth to zero join the message under way. -/
theorem splitBraces_append {xs : Bytes} {depth : Int} (cur rest : Bytes)
    (h : ∀ q, q <+: xs → q ≠ [] → depth + braceDepth q ≠ 0) :
    splitBraces depth cur (xs ++ rest) = splitBraces (depth + braceDepth xs) (cur ++ xs) rest := by
  induction xs generalizing depth cur with
  | nil => simp
  | cons x xs ih =>
    have hx : depth + braceStep x ≠ 0 := by
      simpa using h [x] ((List.prefix_cons_inj x).mpr List.nil_prefix) (List.cons_ne_nil _ _)
    rw [List.cons_append, splitBraces, if_neg hx, ih]
    · simp [add_assoc]
    · intro q hq hne
      have := h (x :: q) ((List.prefix_cons_inj x).mpr hq) (List.cons_ne_nil _ _)
      simpa [add_assoc] using this

/-- A brace-delimited message is read whole, and reading starts afresh after it. -/
theorem splitBraces_delimited {m : Bytes} (hm : BraceDelimited m) (hne : m ≠ []) (rest : Bytes) :
    splitBraces 0 [] (m ++ rest) = m :: splitBraces 0 [] rest := by
  obtain ⟨xs, y, rfl⟩ : ∃ xs y, m = xs ++ [y] :=
    ⟨m.dropLast, m.getLast hne, (List.dropLast_append_getLast hne).symm⟩
  -- no proper prefix brings the depth to zero, and the last byte does
  have hin : ∀ q, q <+: xs → q ≠ [] → 0 + braceDepth q ≠ 0 := by
    intro q hq hq0
    have hlt : q.length < (xs ++ [y]).length := by
      simp only [List.length_append, List.length_singleton]
      have := hq.length_le
      omega
    have := hm.inside q (hq.trans (List.prefix_append xs [y])) hq0
      (fun h => by rw [h] at hlt; omega)
    omega
  have hc := hm.closed
  rw [braceDepth_append] at hc
  rw [List.append_assoc, List.singleton_append, splitBraces_append [] (y :: rest) hin, splitBraces,
    if_pos (by simpa using hc)]
  simp

/-- A stream of brace-delimited messages is split exactly into them. -/
theorem splitBraces_flatten {ms : List Bytes} (h : ∀ m ∈ ms, BraceDelimited m ∧ m ≠ []) :
    splitBraces 0 [] ms.flatten = ms := by
  induction ms with
  | nil => rfl
  | cons m ms ih =>
    obtain ⟨hm, hne⟩ := h m List.mem_cons_self
    rw [List.flatten_cons, splitBraces_delimited hm hne,
      ih fun m' hm' => h m' (List.mem_cons_of_mem m hm')]

/-! ### Braces of text read as UTF-8 -/

/-- The braces a unit stands for: its own byte for `{` and `}`, nothing for any other unit. -/
def unitBraces : Utf8.Unit → Bytes
  | .char c _ => if c.toNat = 123 ∨ c.toNat = 125 then [c.toNat.toUInt8] else []
  | .stray _ => []

/-- A unit that is no ASCII character other than `NUL` stands for no brace. -/
theorem unitBraces_of_high {u : Utf8.Unit}
    (h : ∀ c w, u = .char c w → c.toNat = 0 ∨ 0x80 ≤ c.toNat) : unitBraces u = [] := by
  cases u with
  | stray => rfl
  | char c w =>
    have := h c w rfl
    rw [unitBraces, if_neg (by omega)]

/-- An ASCII character's byte is a brace exactly when the character is one. -/
theorem filter_ascii_char {c : Char} (hc : c.toNat < 0x80) (w : Nat) :
    [c.toNat.toUInt8].filter isBrace = unitBraces (.char c w) := by
  have hb : (c.toNat.toUInt8).toNat = c.toNat := by
    rw [Nat.toUInt8_eq, Utf8.toNat_byte (by omega)]
  rw [unitBraces, List.filter_singleton]
  by_cases h : c.toNat = 123 ∨ c.toNat = 125
  · rw [(isBrace_iff _).mpr (by rw [hb]; exact h), cond_true, if_pos h]
  · have hf : isBrace c.toNat.toUInt8 = false :=
      Bool.eq_false_iff.mpr fun hx => h (hb ▸ (isBrace_iff _).mp hx)
    rw [hf, cond_false, if_neg h]

/-- The braces of a byte string are those of its units, in order: a byte below `0x80` is its
own unit, and every byte a longer unit or a stray byte takes is from `0x80` up. -/
theorem filter_isBrace_eq_units (s : Bytes) :
    s.filter isBrace = (Utf8.units s).flatMap unitBraces := by
  fun_induction Utf8.units s with
  | case1 bs h =>
    cases bs with
    | nil => rfl
    | cons => simp [Utf8.next?] at h
  | case2 bs u rest h _ ih =>
    cases bs with
    | nil => simp [Utf8.next?] at h
    | cons b0 tl =>
      simp only [Utf8.next?, Option.some.injEq, Prod.mk.injEq] at h
      obtain ⟨rfl, rfl⟩ := h
      rw [List.flatMap_cons, ← ih]
      by_cases hb : b0 < 0x80
      · -- an ASCII lead is its own unit and takes nothing after it
        have hn : b0.toNat < 0x80 := by rw [UInt8.lt_iff_toNat_lt] at hb; simpa using hb
        have hc : (Utf8.charOf b0.toNat).toNat = b0.toNat := Utf8.toNat_charOf (by omega)
        rw [Utf8.lead_ascii hb, ← filter_ascii_char (by omega), hc, Nat.toUInt8_eq, UInt8.ofNat_toNat,
          List.drop_zero, ← List.filter_append, List.singleton_append]
      · -- a lead from `0x80` up, and what it takes after it, are no braces
        have hhigh : ∀ b ∈ b0 :: tl.take (Utf8.lead b0 tl).2, isBrace b = false := by
          intro b hm
          refine isBrace_of_high ?_
          rcases List.mem_cons.mp hm with rfl | hm
          · exact UInt8.not_lt.mp hb
          · exact Utf8.le_of_mem_take_lead hb hm
        have hu : unitBraces (Utf8.lead b0 tl).1 = [] :=
          unitBraces_of_high fun c w hcw => Utf8.char_of_lead_high hb hcw
        conv_lhs => rw [← List.take_append_drop (Utf8.lead b0 tl).2 tl, ← List.cons_append]
        rw [List.filter_append, filter_isBrace_eq_nil hhigh, hu, List.nil_append]

/-! ### Braces on the wire -/

theorem isBrace_of_mem_unitEscape {u : Nat} {b : UInt8} (hb : b ∈ unitEscape u) :
    isBrace b = false := by
  have h : ∀ n, n < 16 → isBrace (Bytes.hexDigit n) = false := by decide
  rw [unitEscape_eq] at hb
  simp only [Json.unitDigits, List.mem_cons, List.not_mem_nil, or_false] at hb
  rcases hb with rfl | rfl | rfl | rfl | rfl | rfl
  · rfl
  · rfl
  all_goals exact h _ (Nat.mod_lt _ (by decide))

theorem isBrace_of_plainNumber {t : Bytes} (h : Json.PlainNumber t) {b : UInt8} (hb : b ∈ t) :
    isBrace b = false := by
  cases h with
  | mk neg hw _ hf =>
    have := Json.mem_number hw hf b hb
    exact Bool.eq_false_iff.mpr fun hx => by rw [isBrace_iff] at hx; omega

/-- The braces of a unit in ASCII-only text are the unit's own. -/
theorem filter_asciiUnit (u : Utf8.Unit) : (asciiUnit u).filter isBrace = unitBraces u := by
  cases u with
  | stray => exact filter_isBrace_eq_nil fun b hb => isBrace_of_mem_unitEscape hb
  | char c w =>
    by_cases hc : c.toNat < 0x80
    · simp only [asciiUnit, if_pos hc]
      exact filter_ascii_char hc w
    · rw [unitBraces_of_high fun c' w' h => by cases h; omega]
      refine filter_isBrace_eq_nil fun b hb => ?_
      simp only [asciiUnit, if_neg hc] at hb
      split at hb
      · exact isBrace_of_mem_unitEscape hb
      · rcases List.mem_append.mp hb with hb | hb <;> exact isBrace_of_mem_unitEscape hb

/-- The braces of a unit in a string literal are the unit's own: the writer leaves `{` and `}`
as they are, and no escape it writes holds a brace. -/
theorem filter_quoteUnit (u : Utf8.Unit) :
    (Json.quoteUnit false u).filter isBrace = unitBraces u := by
  cases u with
  | stray =>
    -- U+FFFD in UTF-8: three bytes from `0x80` up
    exact filter_isBrace_eq_nil fun b hb => isBrace_of_high (Utf8.le_of_mem_encode (by decide) hb)
  | char c w =>
    simp only [Json.quoteUnit]
    by_cases hc : c.toNat < 0x80
    · rw [if_pos hc]
      split
      · exact filter_ascii_char hc w
      · next hp =>
        -- an escaped byte is a quote, a backslash or a control byte, never a brace
        have hnb : ¬ (c.toNat = 123 ∨ c.toNat = 125) := by
          rintro (h | h) <;> simp [h] at hp <;> exact absurd hp (by decide)
        rw [unitBraces, if_neg hnb]
        refine filter_isBrace_eq_nil fun b hb => ?_
        rcases Json.escapeAscii_cases c.toNat.toUInt8 with ⟨e, he, -, -, hset⟩ | hu
        · rw [he] at hb
          rcases List.mem_cons.mp hb with rfl | hb
          · decide
          rw [List.mem_singleton.mp hb]
          rcases hset with rfl | rfl | rfl | rfl | rfl | rfl | rfl | rfl <;> decide
        · rw [hu, ← unitEscape_eq] at hb
          exact isBrace_of_mem_unitEscape hb
    · rw [if_neg hc, unitBraces_of_high fun c' w' h => by cases h; omega]
      refine filter_isBrace_eq_nil fun b hb => ?_
      split at hb
      · rw [show Bytes.ofString "\\u2028" = unitEscape 0x2028 by decide +kernel] at hb
        exact isBrace_of_mem_unitEscape hb
      split at hb
      · rw [show Bytes.ofString "\\u2029" = unitEscape 0x2029 by decide +kernel] at hb
        exact isBrace_of_mem_unitEscape hb
      · exact isBrace_of_high (Utf8.le_of_mem_encode (by omega) hb)

/-- Making text ASCII keeps its braces, in order. -/
theorem filter_asciiOnly (s : Bytes) : (asciiOnly s).filter isBrace = s.filter isBrace := by
  rw [asciiOnly, List.filter_flatMap, filter_isBrace_eq_units]
  simp only [filter_asciiUnit]

/-- Writing text as a string literal keeps its braces, in order. -/
theorem filter_quote (s : Bytes) : (Json.quote false s).filter isBrace = s.filter isBrace := by
  rw [Json.quote, List.filter_append, List.filter_cons_of_neg (by decide), List.filter_flatMap,
    filter_isBrace_eq_units s]
  simp [filter_quoteUnit, isBrace]

namespace Frame

/-- A frame text is an opening brace, a body whose braces are those of the identifier, in
order, and a closing brace. -/
theorem text_braces (f : Frame) :
    ∃ body, f.text = 123 :: body ++ [125] ∧ body.filter isBrace = f.gmid.filter isBrace := by
  have hpre : Bytes.ofString "\x7b\"type\":\"data\",\"gmid\":" =
      123 :: Bytes.ofString "\"type\":\"data\",\"gmid\":" := by decide +kernel
  have hkeys : ∀ b ∈ Bytes.ofString "\"type\":\"data\",\"gmid\":", isBrace b = false := by
    decide +kernel
  have hreal := fun (key : String) (x : Float) (hk : ∀ b ∈ Bytes.ofString key, isBrace b = false) =>
    forall_mem_member (P := fun b => isBrace b = false) (by decide) hk
      fun b hb => isBrace_of_plainNumber (plainNumber_wireNumber x) hb
  have hint := fun (key : String) (n : Int) (hk : ∀ b ∈ Bytes.ofString key, isBrace b = false) =>
    forall_mem_member (P := fun b => isBrace b = false) (by decide) hk
      fun b hb => isBrace_of_plainNumber (plainNumber_ofInt n) hb
  have hmembers : ∀ b ∈ Payload.member "press" (wireNumber f.press) ++
      (Payload.member "mode" (Bytes.ofInt f.mode) ++ (Payload.member "current" (wireNumber f.current) ++
        (Payload.member "fault" (Bytes.ofInt f.fault) ++
          Payload.member "cycles" (Bytes.ofInt f.cycles)))), isBrace b = false :=
    List.forall_mem_append.mpr ⟨hreal "press" _ (by decide +kernel),
      List.forall_mem_append.mpr ⟨hint "mode" _ (by decide +kernel),
        List.forall_mem_append.mpr ⟨hreal "current" _ (by decide +kernel),
          List.forall_mem_append.mpr ⟨hint "fault" _ (by decide +kernel),
            hint "cycles" _ (by decide +kernel)⟩⟩⟩⟩
  refine ⟨Bytes.ofString "\"type\":\"data\",\"gmid\":" ++ (asciiOnly (Json.quote false f.gmid) ++
    (Payload.member "press" (wireNumber f.press) ++
      (Payload.member "mode" (Bytes.ofInt f.mode) ++ (Payload.member "current" (wireNumber f.current) ++
        (Payload.member "fault" (Bytes.ofInt f.fault) ++
          Payload.member "cycles" (Bytes.ofInt f.cycles)))))), ?_, ?_⟩
  · rw [text_eq, hpre]
    simp only [List.cons_append, List.append_assoc]
  · rw [List.filter_append, List.filter_append, filter_asciiOnly, filter_quote,
      filter_isBrace_eq_nil hkeys, filter_isBrace_eq_nil hmembers, List.nil_append,
      List.append_nil]

end Frame

/-- A payload's frame text is brace-delimited exactly when the payload's identifier is
balanced. -/
theorem Payload.braceDelimited_frameText_iff (p : Payload) :
    BraceDelimited p.frameText ↔ Balanced p.id := by
  obtain ⟨body, htext, hbody⟩ := (Frame.ofPayload p).text_braces
  rw [Payload.frameText, htext, braceDelimited_wrap_iff, ← balanced_filter_iff, hbody,
    balanced_filter_iff]
  rfl

theorem Payload.frameText_ne_nil (p : Payload) : p.frameText ≠ [] := by
  obtain ⟨body, htext, -⟩ := (Frame.ofPayload p).text_braces
  rw [Payload.frameText, htext]
  simp

end TelemetryBridge
