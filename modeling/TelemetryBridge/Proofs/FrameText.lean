import TelemetryBridge.Proofs.AsciiEscape
import TelemetryBridge.Json.Decode

/-!
# Frames read back

A frame on the serial line is a JSON object made ASCII: `asciiOnly` writes each character from
U+0080 up as the `\u` escape of its code, or of its two surrogate halves. A receiver decodes the
text as a JSON decoder does into a record with the frame's fields (`Received.ofText`): keys name
fields up to case, strings decode with ill-formed UTF-8 repaired to U+FFFD, measurements are read
as doubles and counts as 64-bit integers.

Main statement: `Payload.frameText_reads_back`. The frame text of every payload whose counts are
64-bit integers is printable ASCII with no layout outside its strings, one object with the
frame's keys in order, and it decodes as the payload's frame, with the identifier repaired and a
measurement that is not finite read as the zero the wire carries in its place.

The frame text is the identifier's literal made ASCII between text that is ASCII already
(`Frame.text_eq`); each unit of the literal, escaped, reads back as its character
(`escapes_asciiQuoteUnit`); so the text is an object of written members
(`Frame.text_membersText`), and what holds of those holds of the frame.
-/

namespace TelemetryBridge

/-! ### ASCII-only text -/

theorem asciiOnly_append {a : Bytes} (ha : Utf8.Whole a) (b : Bytes) :
    asciiOnly (a ++ b) = asciiOnly a ++ asciiOnly b := by
  rw [asciiOnly, ha, List.flatMap_append]
  rfl

theorem asciiOnly_encode (c : Char) :
    asciiOnly (Utf8.encode c) = asciiUnit (.char c (Utf8.encode c).length) := by
  rw [asciiOnly, ← List.append_nil (Utf8.encode c), Utf8.units_encode_append, Utf8.units_nil,
    List.append_nil]
  simp

theorem asciiOnly_flatMap {α : Type} {f : α → Bytes} {xs : List α}
    (h : ∀ x ∈ xs, Utf8.Whole (f x)) : asciiOnly (xs.flatMap f) = xs.flatMap (asciiOnly ∘ f) := by
  rw [asciiOnly, Utf8.units_flatMap h, List.flatMap_assoc]
  rfl

/-! ### The identifier's string literal -/

/-- A character beyond ASCII becomes the `\u` escape of its code, or of its two surrogate halves,
and that reads back as the character. -/
theorem escapes_asciiUnit {c : Char} (hc : 0x80 ≤ c.toNat) (w : Nat) :
    Json.Escapes (asciiUnit (.char c w)) (Utf8.encode c) := by
  by_cases h : c.toNat < 0x10000
  · rw [asciiUnit_of_bmp w hc h, unitEscape_eq]
    exact Json.escapes_unicode h
  · rw [asciiUnit_of_astral w (by omega), unitEscape_eq, unitEscape_eq]
    exact ⟨(Json.content_unicode _).append (Json.content_unicode _),
      Json.decodes_surrogates (by omega)⟩

/-- The writer's literal text of an ASCII character, or of a line or paragraph separator, is
ASCII. -/
theorem lt_of_mem_quoteUnit {c : Char} (h : c.toNat < 0x80 ∨ c.toNat = 0x2028 ∨ c.toNat = 0x2029)
    (w : Nat) {b : UInt8} (hb : b ∈ Json.quoteUnit false (.char c w)) : b < 0x80 := by
  simp only [Json.quoteUnit] at hb
  split at hb
  · next hlt =>
    split at hb
    · rw [List.mem_singleton.mp hb, UInt8.lt_iff_toNat_lt, Nat.toUInt8_eq,
        Utf8.toNat_byte (by omega)]
      simpa using hlt
    · rcases Json.escapeAscii_cases c.toNat.toUInt8 with ⟨e, he, -, -, hset⟩ | hu
      · rw [he] at hb
        rcases List.mem_cons.mp hb with rfl | hb
        · decide
        rw [List.mem_singleton.mp hb]
        rcases hset with rfl | rfl | rfl | rfl | rfl | rfl | rfl | rfl <;> decide
      · rw [hu, ← unitEscape_eq] at hb
        exact lt_of_mem_unitEscape hb
  split at hb
  · rw [show Bytes.ofString "\\u2028" = unitEscape 0x2028 by decide +kernel] at hb
    exact lt_of_mem_unitEscape hb
  split at hb
  · rw [show Bytes.ofString "\\u2029" = unitEscape 0x2029 by decide +kernel] at hb
    exact lt_of_mem_unitEscape hb
  · omega

/-- The literal text the writer gives a unit ends on a unit boundary. -/
theorem whole_quoteUnit (u : Utf8.Unit) : Utf8.Whole (Json.quoteUnit false u) := by
  cases u with
  | stray => exact Utf8.whole_encode _
  | char c w =>
    by_cases h : c.toNat < 0x80 ∨ c.toNat = 0x2028 ∨ c.toNat = 0x2029
    · exact Utf8.whole_of_ascii fun b hb => lt_of_mem_quoteUnit h w hb
    · have hq : Json.quoteUnit false (.char c w) = Utf8.encode c := by
        simp only [Json.quoteUnit]
        rw [if_neg (by omega), if_neg (by omega), if_neg (by omega)]
      rw [hq]
      exact Utf8.whole_encode c

/-- Each unit of the identifier, written in a literal and then made ASCII, reads back as its
character. -/
theorem escapes_asciiQuoteUnit (u : Utf8.Unit) :
    Json.Escapes (asciiOnly (Json.quoteUnit false u)) (Utf8.encode u.toChar) := by
  cases u with
  | stray =>
    rw [Json.quoteUnit, asciiOnly_encode]
    exact escapes_asciiUnit (by decide) _
  | char c w =>
    by_cases h : c.toNat < 0x80 ∨ c.toNat = 0x2028 ∨ c.toNat = 0x2029
    · rw [asciiOnly_of_ascii fun b hb => lt_of_mem_quoteUnit h w hb]
      exact Json.quoteUnit_escapes false _
    · have hq : Json.quoteUnit false (.char c w) = Utf8.encode c := by
        simp only [Json.quoteUnit]
        rw [if_neg (by omega), if_neg (by omega), if_neg (by omega)]
      rw [hq, asciiOnly_encode]
      exact escapes_asciiUnit (by omega) _

/-- The identifier's literal in ASCII-only text: its content reads back as the identifier's UTF-8
repair. -/
theorem asciiOnly_quote (s : Bytes) :
    asciiOnly (Json.quote false s) =
      34 :: (Utf8.units s).flatMap (asciiOnly ∘ Json.quoteUnit false) ++ [34] := by
  have hq : Utf8.Whole [34] := Utf8.whole_of_ascii (by decide +kernel)
  rw [Json.quote, ← List.singleton_append, List.append_assoc,
    asciiOnly_append hq, asciiOnly_append (Utf8.whole_flatMap fun u _ => whole_quoteUnit u),
    asciiOnly_flatMap fun u _ => whole_quoteUnit u,
    asciiOnly_of_ascii fun b hb => by rw [List.mem_singleton.mp hb]; decide]
  rfl

/-! ### Numbers on the wire -/

theorem NumberText.PointForm.plainNumber {t : Bytes} {neg : Bool} {m f : Nat}
    (h : NumberText.PointForm t neg m f) : Json.PlainNumber t := by
  cases h with
  | mk neg hw hf hw0 hf0 => exact .mk neg hw hw0 (.inr ⟨_, rfl, hf0, hf⟩)

/-- The wire text of a measurement is a plain number literal. -/
theorem plainNumber_wireNumber (x : Float) : Json.PlainNumber (wireNumber x) := by
  unfold wireNumber
  split
  · next neg mag _ =>
    obtain ⟨m, f, hform, -, -⟩ := NumberText.positional_pointForm (Binary.decimal mag) neg
    exact hform.plainNumber
  · -- not finite: the wire carries `0.0`
    exact @Json.PlainNumber.mk false [48] [46, 48] (by decide +kernel) (.inl rfl)
      (.inr ⟨[48], rfl, List.cons_ne_nil _ _, by decide +kernel⟩)

/-- The decimal text of an integer is a plain number literal. -/
theorem plainNumber_ofInt (n : Int) : Json.PlainNumber (Bytes.ofInt n) := by
  rw [Bytes.ofInt_eq, ← List.append_nil (Bytes.ofNat n.natAbs)]
  refine .mk _ (fun b hb => Bytes.isDigit_of_mem_ofNat hb) ?_ (.inl rfl)
  by_cases h0 : n.natAbs = 0
  · rw [h0]
    exact .inl (by decide +kernel)
  · -- a nonzero magnitude has no leading zero
    exact .inr (Bytes.ofNat_eq_cons (Nat.pos_of_ne_zero h0))

/-- What a receiver reads for a measurement: the measurement when it is finite, and otherwise
zero, which the wire carries in its place. -/
def wireValue (x : Float) : Float :=
  match Binary.ofFloat x with
  | .finite _ _ => x
  | _ => 0

theorem readFloat_wireNumber_eq (x : Float) : readFloat (wireNumber x) = .ok (wireValue x) := by
  unfold wireValue
  split
  · next neg mag hx => exact readFloat_wireNumber hx
  · next hx =>
    have hw : wireNumber x = [48, 46, 48] := by
      unfold wireNumber
      split
      · next neg mag h => exact absurd h (hx neg mag)
      · rfl
    rw [hw]
    decide +kernel

/-! ### How a receiver decodes a frame -/

/-- What a receiver decodes from a frame text: the `type` member, and the frame. -/
structure Received where
  kind : Bytes
  frame : Frame

namespace Received

/-- Where a receiver starts: every field empty or zero. -/
def empty : Received := ⟨[], ⟨[], 0, 0, 0, 0, 0⟩⟩

/-- A string member over the field's value: `null` keeps the value. -/
def text (old : Bytes) : Json.Value → Option Bytes
  | .null => some old
  | .string s => some s
  | _ => none

/-- A measurement member: a number read as a double; `null` keeps the value. -/
def measurement (old : Float) : Json.Value → Option Float
  | .null => some old
  | .number t => (readFloat t).toOption
  | _ => none

/-- A count member: a number read as a 64-bit integer; `null` keeps the value. -/
def count (old : Int) : Json.Value → Option Int
  | .null => some old
  | .number t => (readInt64 t).toOption
  | _ => none

/-- Sets the field a key names up to case. A key that names no field is ignored; a value of the
wrong kind, or a number its field cannot hold, fails the decoding. -/
def set (r : Received) (key : Bytes) (v : Json.Value) : Option Received :=
  let f := r.frame
  if Json.keyMatches key "type" then (text r.kind v).map fun s => { r with kind := s }
  else if Json.keyMatches key "gmid" then
    (text f.gmid v).map fun s => { r with frame := { f with gmid := s } }
  else if Json.keyMatches key "press" then
    (measurement f.press v).map fun x => { r with frame := { f with press := x } }
  else if Json.keyMatches key "mode" then
    (count f.mode v).map fun n => { r with frame := { f with mode := n } }
  else if Json.keyMatches key "current" then
    (measurement f.current v).map fun x => { r with frame := { f with current := x } }
  else if Json.keyMatches key "fault" then
    (count f.fault v).map fun n => { r with frame := { f with fault := n } }
  else if Json.keyMatches key "cycles" then
    (count f.cycles v).map fun n => { r with frame := { f with cycles := n } }
  else some r

/-- Decodes a text that is one JSON value: an object's members laid in order over the empty
frame; `null` is the empty frame. -/
def ofText (s : Bytes) : Option Received :=
  match Json.readWhole s with
  | .ok (.object ms) => ms.foldlM (fun r (k, v) => r.set k v) empty
  | .ok .null => some empty
  | _ => none

section Keys

variable (r : Received) (v : Json.Value)

theorem set_type : r.set (Bytes.ofString "type") v = (text r.kind v).map fun s => { r with kind := s } := by
  rw [set, if_pos (by decide +kernel)]

theorem set_gmid : r.set (Bytes.ofString "gmid") v =
    (text r.frame.gmid v).map fun s => { r with frame := { r.frame with gmid := s } } := by
  rw [set, if_neg (by decide +kernel), if_pos (by decide +kernel)]

theorem set_press : r.set (Bytes.ofString "press") v =
    (measurement r.frame.press v).map fun x => { r with frame := { r.frame with press := x } } := by
  rw [set, if_neg (by decide +kernel), if_neg (by decide +kernel), if_pos (by decide +kernel)]

theorem set_mode : r.set (Bytes.ofString "mode") v =
    (count r.frame.mode v).map fun n => { r with frame := { r.frame with mode := n } } := by
  rw [set, if_neg (by decide +kernel), if_neg (by decide +kernel), if_neg (by decide +kernel),
    if_pos (by decide +kernel)]

theorem set_current : r.set (Bytes.ofString "current") v =
    (measurement r.frame.current v).map fun x => { r with frame := { r.frame with current := x } } := by
  rw [set, if_neg (by decide +kernel), if_neg (by decide +kernel), if_neg (by decide +kernel),
    if_neg (by decide +kernel), if_pos (by decide +kernel)]

theorem set_fault : r.set (Bytes.ofString "fault") v =
    (count r.frame.fault v).map fun n => { r with frame := { r.frame with fault := n } } := by
  rw [set, if_neg (by decide +kernel), if_neg (by decide +kernel), if_neg (by decide +kernel),
    if_neg (by decide +kernel), if_neg (by decide +kernel), if_pos (by decide +kernel)]

theorem set_cycles : r.set (Bytes.ofString "cycles") v =
    (count r.frame.cycles v).map fun n => { r with frame := { r.frame with cycles := n } } := by
  rw [set, if_neg (by decide +kernel), if_neg (by decide +kernel), if_neg (by decide +kernel),
    if_neg (by decide +kernel), if_neg (by decide +kernel), if_neg (by decide +kernel),
    if_pos (by decide +kernel)]

end Keys

end Received

/-! ### The frame text -/

namespace Frame

theorem member_eq (key : String) (v : Bytes) :
    Payload.member key v = 44 :: 34 :: (Bytes.ofString key ++ 34 :: 58 :: v) := by
  rw [Payload.member, Bytes.ofString_append, Bytes.ofString_append,
    show Bytes.ofString ",\"" = [44, 34] by decide +kernel,
    show Bytes.ofString "\":" = [34, 58] by decide +kernel]
  simp

/-- A property of bytes that the comma, the quote and the colon have holds of every byte of a
member whose key and value have it. -/
theorem forall_mem_member {P : UInt8 → Prop} (hp : P 44 ∧ P 34 ∧ P 58) {key : String}
    {v : Bytes} (hk : ∀ b ∈ Bytes.ofString key, P b) (hv : ∀ b ∈ v, P b) :
    ∀ b ∈ Payload.member key v, P b := by
  rw [member_eq]
  intro b hb
  simp only [List.mem_cons, List.mem_append] at hb
  rcases hb with rfl | rfl | hb | rfl | rfl | hb
  exacts [hp.1, hp.2.1, hk b hb, hp.2.1, hp.2.2, hv b hb]

theorem lt_of_mem_member {key : String} {v : Bytes} (hk : ∀ b ∈ Bytes.ofString key, b < 0x80)
    (hv : ∀ b ∈ v, b < 0x80) : ∀ b ∈ Payload.member key v, b < 0x80 :=
  forall_mem_member (by decide) hk hv

/-- The frame text: the identifier's literal made ASCII between text that is ASCII already. -/
theorem text_eq (f : Frame) :
    f.text = Bytes.ofString "\x7b\"type\":\"data\",\"gmid\":" ++
      (asciiOnly (Json.quote false f.gmid) ++ (Payload.member "press" (wireNumber f.press) ++
        (Payload.member "mode" (Bytes.ofInt f.mode) ++
          (Payload.member "current" (wireNumber f.current) ++
            (Payload.member "fault" (Bytes.ofInt f.fault) ++
              (Payload.member "cycles" (Bytes.ofInt f.cycles) ++ [125])))))) := by
  have hpre : ∀ b ∈ Bytes.ofString "\x7b\"type\":\"data\",\"gmid\":", b < 0x80 := by
    decide +kernel
  have h34 : Utf8.Whole [34] := Utf8.whole_of_ascii (by decide +kernel)
  have hquote : Utf8.Whole (Json.quote false f.gmid) := by
    rw [Json.quote, ← List.singleton_append]
    exact h34.append ((Utf8.whole_flatMap fun u _ => whole_quoteUnit u).append h34)
  have hreal := fun (key : String) (x : Float) (hk : ∀ b ∈ Bytes.ofString key, b < 0x80) =>
    lt_of_mem_member hk fun b hb => (plainNumber_wireNumber x).lt_of_mem hb
  have hint := fun (key : String) (n : Int) (hk : ∀ b ∈ Bytes.ofString key, b < 0x80) =>
    lt_of_mem_member hk fun b hb => (plainNumber_ofInt n).lt_of_mem hb
  have htail : ∀ b ∈ Payload.member "press" (wireNumber f.press) ++
      (Payload.member "mode" (Bytes.ofInt f.mode) ++ (Payload.member "current" (wireNumber f.current) ++
        (Payload.member "fault" (Bytes.ofInt f.fault) ++
          (Payload.member "cycles" (Bytes.ofInt f.cycles) ++ [125])))), b < 0x80 :=
    List.forall_mem_append.mpr ⟨hreal "press" _ (by decide +kernel),
      List.forall_mem_append.mpr ⟨hint "mode" _ (by decide +kernel),
        List.forall_mem_append.mpr ⟨hreal "current" _ (by decide +kernel),
          List.forall_mem_append.mpr ⟨hint "fault" _ (by decide +kernel),
            List.forall_mem_append.mpr ⟨hint "cycles" _ (by decide +kernel), by decide +kernel⟩⟩⟩⟩⟩
  rw [text, escapeNonAscii_eq_asciiOnly]
  simp only [List.append_assoc]
  rw [asciiOnly_append (Utf8.whole_of_ascii hpre), asciiOnly_append hquote,
    asciiOnly_of_ascii hpre, asciiOnly_of_ascii htail]

/-- A key of a frame text reads back as itself. -/
theorem escapes_key (key : String)
    (h : ∀ b ∈ Bytes.ofString key, 0x20 ≤ b ∧ b < 0x80 ∧ b ≠ 34 ∧ b ≠ 92) :
    Json.Content (Bytes.ofString key) ∧ Json.unquote (Bytes.ofString key) = Bytes.ofString key := by
  have he := Json.escapes_plain h
  refine ⟨he.content, ?_⟩
  have hd := he.decodes []
  rwa [List.append_nil, Json.unquote.eq_1, List.append_nil] at hd

/-- A frame text is an object whose members are, in order, the type, the identifier's repair,
and the five numbers in their wire texts. -/
theorem text_membersText (f : Frame) : ∃ m, f.text = 123 :: m ∧ Json.MembersText m
    [(Bytes.ofString "type", .string (Bytes.ofString "data")),
      (Bytes.ofString "gmid", .string (Utf8.repair f.gmid)),
      (Bytes.ofString "press", .number (wireNumber f.press)),
      (Bytes.ofString "mode", .number (Bytes.ofInt f.mode)),
      (Bytes.ofString "current", .number (wireNumber f.current)),
      (Bytes.ofString "fault", .number (Bytes.ofInt f.fault)),
      (Bytes.ofString "cycles", .number (Bytes.ofInt f.cycles))] := by
  obtain ⟨ctype, utype⟩ := escapes_key "type" (by decide +kernel)
  obtain ⟨cdata, udata⟩ := escapes_key "data" (by decide +kernel)
  obtain ⟨cgmid, ugmid⟩ := escapes_key "gmid" (by decide +kernel)
  obtain ⟨cpress, upress⟩ := escapes_key "press" (by decide +kernel)
  obtain ⟨cmode, umode⟩ := escapes_key "mode" (by decide +kernel)
  obtain ⟨ccurrent, ucurrent⟩ := escapes_key "current" (by decide +kernel)
  obtain ⟨cfault, ufault⟩ := escapes_key "fault" (by decide +kernel)
  obtain ⟨ccycles, ucycles⟩ := escapes_key "cycles" (by decide +kernel)
  -- the identifier's content, made ASCII unit by unit, decodes as its repair
  have hid : Json.Escapes ((Utf8.units f.gmid).flatMap fun u => asciiOnly (Json.quoteUnit false u))
      (Utf8.repair f.gmid) := Json.escapes_flatMap fun u _ => escapes_asciiQuoteUnit u
  have uid : Json.unquote ((Utf8.units f.gmid).flatMap fun u => asciiOnly (Json.quoteUnit false u)) =
      Utf8.repair f.gmid := by
    have hd := hid.decodes []
    rwa [List.append_nil, Json.unquote.eq_1, List.append_nil] at hd
  have hm := Json.MembersText.cons ctype (Json.written_string cdata)
    (.cons cgmid (Json.written_string hid.content)
      (.cons cpress (plainNumber_wireNumber f.press).written
        (.cons cmode (plainNumber_ofInt f.mode).written
          (.cons ccurrent (plainNumber_wireNumber f.current).written
            (.cons cfault (plainNumber_ofInt f.fault).written
              (.last ccycles (plainNumber_ofInt f.cycles).written))))))
  rw [utype, udata, ugmid, uid, upress, umode, ucurrent, ufault, ucycles] at hm
  refine ⟨_, ?_, hm⟩
  rw [text_eq, asciiOnly_quote, member_eq, member_eq, member_eq, member_eq, member_eq,
    show Bytes.ofString "\x7b\"type\":\"data\",\"gmid\":" = 123 :: 34 :: Bytes.ofString "type" ++
      34 :: 58 :: 34 :: Bytes.ofString "data" ++ 34 :: 44 :: 34 :: Bytes.ofString "gmid" ++ [34, 58] by
      decide +kernel]
  simp only [List.cons_append, List.append_assoc, List.nil_append, Function.comp_def]

variable (f : Frame)

theorem readWhole_text : Json.readWhole f.text = .ok (.object
    [(Bytes.ofString "type", .string (Bytes.ofString "data")),
      (Bytes.ofString "gmid", .string (Utf8.repair f.gmid)),
      (Bytes.ofString "press", .number (wireNumber f.press)),
      (Bytes.ofString "mode", .number (Bytes.ofInt f.mode)),
      (Bytes.ofString "current", .number (wireNumber f.current)),
      (Bytes.ofString "fault", .number (Bytes.ofInt f.fault)),
      (Bytes.ofString "cycles", .number (Bytes.ofInt f.cycles))]) := by
  obtain ⟨m, hm, hms⟩ := text_membersText f
  rw [hm]
  exact hms.readWhole

/-- A frame text has no layout outside its string literals. -/
theorem dropLayout_text : Json.dropLayout f.text false false = f.text := by
  obtain ⟨m, hm, hms⟩ := text_membersText f
  rw [hm, Json.dropLayout, if_neg Bool.false_ne_true, if_neg (by decide), if_neg (by decide),
    ← List.append_nil m, hms.compact]
  rfl

/-- A frame text is ASCII. -/
theorem lt_of_mem_text {b : UInt8} (hb : b ∈ f.text) : b < 0x80 := by
  rw [text, escapeNonAscii_eq_asciiOnly] at hb
  exact lt_of_mem_asciiOnly hb

/-- A frame text holds no control byte, so in particular no line feed. -/
theorem le_of_mem_text {b : UInt8} (hb : b ∈ f.text) : 0x20 ≤ b := by
  obtain ⟨m, hm, hms⟩ := text_membersText f
  rw [hm] at hb
  rcases List.mem_cons.mp hb with rfl | hb
  · decide
  · exact hms.visible b hb

/-- A receiver decodes a frame text as the frame, with the identifier repaired and each measurement
that is not finite as zero; the counts need to be 64-bit integers. -/
theorem ofText_text (hmode : -(2 ^ 63 : Int) ≤ f.mode ∧ f.mode < 2 ^ 63)
    (hfault : -(2 ^ 63 : Int) ≤ f.fault ∧ f.fault < 2 ^ 63)
    (hcycles : -(2 ^ 63 : Int) ≤ f.cycles ∧ f.cycles < 2 ^ 63) :
    Received.ofText f.text = some
      { kind := Bytes.ofString "data"
        frame := { f with
          gmid := Utf8.repair f.gmid
          press := wireValue f.press
          current := wireValue f.current } } := by
  rw [Received.ofText, readWhole_text]
  simp only [List.foldlM_cons, List.foldlM_nil, Received.set_type, Received.set_gmid,
    Received.set_press, Received.set_mode, Received.set_current, Received.set_fault,
    Received.set_cycles, Received.text, Received.measurement, Received.count,
    readFloat_wireNumber_eq, readInt64_ofInt hmode.1 hmode.2, readInt64_ofInt hfault.1 hfault.2,
    readInt64_ofInt hcycles.1 hcycles.2, Except.toOption, Option.map_some]
  rfl

end Frame

/-! ### A payload's frame on the serial line -/

/-- What the receiver of a payload's frame text gets: printable ASCII with no layout outside its
strings; one object with the keys `type`, `gmid`, `press`, `mode`, `current`, `fault`, `cycles`
in that order; and, decoded, the payload's frame with the identifier's UTF-8 repaired and each
measurement that is not finite read as zero. -/
structure Payload.FrameReadsBack (p : Payload) : Prop where
  printable : ∀ b ∈ p.frameText, 0x20 ≤ b ∧ b < 0x80
  compact : Json.dropLayout p.frameText false false = p.frameText
  keys : ∃ ms, Json.readWhole p.frameText = .ok (.object ms) ∧
    ms.map Prod.fst = ["type", "gmid", "press", "mode", "current", "fault", "cycles"].map Bytes.ofString
  decodes : Received.ofText p.frameText = some
    { kind := Bytes.ofString "data"
      frame := { Frame.ofPayload p with
        gmid := Utf8.repair p.id
        press := wireValue (roundPlaces2 p.pressure)
        current := wireValue (roundPlaces2 p.current) } }

/-- Every payload whose counts are 64-bit integers is written as a frame that reads back. -/
theorem Payload.frameText_reads_back (p : Payload)
    (hmode : -(2 ^ 63 : Int) ≤ p.mode ∧ p.mode < 2 ^ 63)
    (hfaults : -(2 ^ 63 : Int) ≤ p.faults ∧ p.faults < 2 ^ 63)
    (hcycles : -(2 ^ 63 : Int) ≤ p.runcycles ∧ p.runcycles < 2 ^ 63) : p.FrameReadsBack where
  printable _ hb := ⟨Frame.le_of_mem_text _ hb, Frame.lt_of_mem_text _ hb⟩
  compact := Frame.dropLayout_text _
  keys := ⟨_, Frame.readWhole_text _, rfl⟩
  decodes := Frame.ofText_text _ hmode hfaults hcycles

/-- The frame of a payload with a stray byte in its identifier, a negative zero, an infinity and
the extreme counts reads back. -/
theorem Payload.frameText_reads_back_extremes :
    let p : Payload :=
      { id := [0x41, 0xFF, 0xE2, 0x82, 0xAC], seq := 0, pressure := -0.0, runcycles := 0,
        faults := 2 ^ 63 - 1, mode := -(2 ^ 63), temp := 0, current := 1.0 / 0.0,
        profile := none }
    (-(2 ^ 63 : Int) ≤ p.mode ∧ p.mode < 2 ^ 63) ∧
      (-(2 ^ 63 : Int) ≤ p.faults ∧ p.faults < 2 ^ 63) ∧
      (-(2 ^ 63 : Int) ≤ p.runcycles ∧ p.runcycles < 2 ^ 63) ∧ p.FrameReadsBack :=
  ⟨by decide, by decide, by decide,
    Payload.frameText_reads_back _ (by decide) (by decide) (by decide)⟩

end TelemetryBridge
