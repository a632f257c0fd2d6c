import Mathlib.Data.List.Induction
import TelemetryBridge.Telemetry.Document

/-!
# Which texts are controller documents

`Record.read` reads a controller document over a base record. This module says, for every text and
every base, when it succeeds and with which record, without running the decoder's steps:

* `Document.Overlay` is the specification of an object's members: every member whose key names a
  field up to case holds a value of that field's kind, the last member naming a field decides
  it, a non-empty identifier replaces the base's, and a number member replaces the base's value
  with the number it reads as (a 64-bit integer, or a double cut toward zero, for the integer
  fields).
* `Document.Overlays` extends it to JSON values: `null` keeps the base, no other value but an
  object is a document.
* `Record.read_eq_ok_iff_overlays`: reading succeeds with `r` exactly when the text is one JSON
  value followed by whitespace only, and that value overlays the base to `r`.

The proof follows the reader's stages. A key names at most one field (`keyMatches_unique`, from
the case folding of keys); setting one member on the document of the members before it extends
that document (`set_ofLast`), and by induction along the members, setting them all gives the
document of their last members (`foldlM_set`); laying a document over the base reads each of its
members (`apply_eq_ok`).
-/

namespace TelemetryBridge

/-! ### Success of a sequence of steps -/

/-- A sequence succeeds exactly when each step succeeds in turn. -/
@[simp] theorem Except.bind_eq_ok_iff {ε α β : Type} {x : Except ε α} {f : α → Except ε β}
    {r : β} : (x >>= f) = .ok r ↔ ∃ a, x = .ok a ∧ f a = .ok r := by
  cases x <;> simp [bind, Except.bind]

/-- Renaming the failures changes no success. -/
@[simp] theorem Except.mapError_eq_ok {ε ε' α : Type} {x : Except ε α} {f : ε → ε'} {a : α} :
    x.mapError f = .ok a ↔ x = .ok a := by
  cases x <;> simp [Except.mapError]

namespace Json

/-! ### Case folding of keys -/

theorem upper_eq_of_sameLetter {b c : UInt8} (h : sameLetter b c = true) :
    asciiUpper b = asciiUpper c := by
  unfold sameLetter at h
  rcases Bool.or_eq_true_iff.mp h with h | h
  · rw [beq_iff_eq.mp h]
  · exact beq_iff_eq.mp (Bool.and_eq_true_iff.mp h).2

/-- A byte of a name matches a byte of a key outside ASCII only as the long s or the Kelvin sign. -/
theorem foldsTo_wide {b c : UInt8} {n k : Bytes} (hc : ¬c < 0x80)
    (h : foldsTo (b :: n) (c :: k) = true) :
    (asciiUpper b = 83 ∧ c = 0xC5 ∧ ∃ rest, k = 0xBF :: rest ∧ foldsTo n rest = true) ∨
      (asciiUpper b = 75 ∧ c = 0xE2 ∧ ∃ rest, k = 0x84 :: 0xAA :: rest ∧ foldsTo n rest = true) := by
  simp only [foldsTo, if_neg hc] at h
  split at h
  · next hs =>
    split at h
    · next rest heq =>
      cases heq
      exact .inl ⟨beq_iff_eq.mp hs, rfl, rest, rfl, h⟩
    · cases h
  · split at h
    · next hk =>
      split at h
      · next rest heq =>
        cases heq
        exact .inr ⟨beq_iff_eq.mp hk, rfl, rest, rfl, h⟩
      · cases h
    · cases h

/-- **A key folds two names only to one upper case**: what the key's bytes fix, letter by
letter, is the upper case of the name. -/
theorem foldsTo_upper {name name' key : Bytes} (h : foldsTo name key = true)
    (h' : foldsTo name' key = true) : name.map asciiUpper = name'.map asciiUpper := by
  induction name generalizing name' key with
  | nil =>
    cases name' with
    | nil => rfl
    | cons b' n' =>
      have hk : key = [] := by simpa [foldsTo] using h
      subst hk
      simp [foldsTo] at h'
  | cons b n ih =>
    cases key with
    | nil => simp [foldsTo] at h
    | cons c k =>
      cases name' with
      | nil => simp [foldsTo] at h'
      | cons b' n' =>
        simp only [foldsTo] at h h'
        by_cases hc : c < 0x80
        · rw [if_pos hc, Bool.and_eq_true_iff] at h h'
          rw [List.map_cons, List.map_cons, upper_eq_of_sameLetter h.1,
            upper_eq_of_sameLetter h'.1, ih h.2 h'.2]
        · -- outside ASCII the key's byte says whether both letters are an `S` or a `K`
          rcases foldsTo_wide hc h with ⟨hb, rfl, rest, rfl, hn⟩ | ⟨hb, rfl, rest, rfl, hn⟩ <;>
            rcases foldsTo_wide hc h' with ⟨hb', hc', rest', hk', hn'⟩ | ⟨hb', hc', rest', hk', hn'⟩
          · cases hk'
            rw [List.map_cons, List.map_cons, hb, hb', ih hn hn']
          · cases hc'
          · cases hc'
          · cases hk'
            rw [List.map_cons, List.map_cons, hb, hb', ih hn hn']

end Json

open Json

namespace Document

/-! ### The specification -/

/-- The names of the members a controller document sets, in the order a key is tried. -/
def names : List String :=
  ["gmid", "seq", "pressure", "current", "temp", "runcycles", "faults", "mode"]

/-- Whether a member value fits the field it names: `null` fits every field; a string fits
`gmid`, and the others when it holds exactly one number literal; a number fits all but `gmid`. -/
def fits (name : String) : Value → Bool
  | .null => true
  | .string s => name == "gmid" || isNumberText s
  | .number _ => name != "gmid"
  | _ => false

/-- Every member of an object whose key names a field holds a value that fits the field. -/
def MembersFit (ms : List (Bytes × Value)) : Prop :=
  ∀ m ∈ ms, ∀ name ∈ names, keyMatches m.1 name = true → fits name m.2 = true

/-- The value of the last member of an object whose key names a field up to case. -/
def lastOf (ms : List (Bytes × Value)) (name : String) : Option Value :=
  (ms.reverse.find? fun m => keyMatches m.1 name).map (·.2)

/-- The integer a number text gives: the 64-bit integer it writes, or else the double it reads
as, cut toward zero. -/
def intValue? (t : Bytes) : Option Int :=
  match readInt64 t with
  | .ok n => some n
  | .error _ => (readFloat t).toOption.map wholeInt64

/-- The double a number text reads as. -/
def floatValue? (t : Bytes) : Option Float := (readFloat t).toOption

/-- The value `x` a field takes over `base` from the last member naming it: the base when there is
none or it is `null`, else what the member's number, or the number text of its string, reads as. -/
def Reads {α : Type} (read : Bytes → Option α) (member : Option Value) (base x : α) : Prop :=
  match member with
  | some (.number t) => read t = some x
  | some (.string t) => read t = some x
  | _ => x = base

/-- The record `r` is the members `ms` of a controller object laid over `base`: every member fits
the field it names, and the last member naming a field decides it; a non-empty identifier
replaces the base's, and a number that reads replaces the base's value. -/
structure Overlay (base : Record) (ms : List (Bytes × Value)) (r : Record) : Prop where
  fit : MembersFit ms
  gmid : r.gmid = match lastOf ms "gmid" with
    | some (.string g) => if g = [] then base.gmid else g
    | _ => base.gmid
  seq : Reads intValue? (lastOf ms "seq") base.seq r.seq
  pressure : Reads floatValue? (lastOf ms "pressure") base.pressure r.pressure
  current : Reads floatValue? (lastOf ms "current") base.current r.current
  temp : Reads floatValue? (lastOf ms "temp") base.temp r.temp
  runcycles : Reads intValue? (lastOf ms "runcycles") base.runcycles r.runcycles
  faults : Reads intValue? (lastOf ms "faults") base.faults r.faults
  mode : Reads intValue? (lastOf ms "mode") base.mode r.mode

/-- The record `r` is the JSON value `v` laid over `base` as a controller document: `null` keeps
the base, an object overlays its members, and no other value is a document. -/
def Overlays (base r : Record) : Value → Prop
  | .null => r = base
  | .object ms => Overlay base ms r
  | _ => False

/-! ### A key names at most one field -/

/-- The field a key names: the first of `names` it matches up to case. -/
def fieldOf (key : Bytes) : Option String := names.find? (keyMatches key)

theorem names_upper_inj : ∀ n ∈ names, ∀ n' ∈ names,
    (Bytes.ofString n).map asciiUpper = (Bytes.ofString n').map asciiUpper → n = n' := by
  decide +kernel

/-- **A key names at most one field**: two names a key matches up to case are one name. -/
theorem keyMatches_unique {k : Bytes} {n n' : String} (hn : n ∈ names) (hn' : n' ∈ names)
    (h : keyMatches k n = true) (h' : keyMatches k n' = true) : n = n' :=
  names_upper_inj n hn n' hn' (foldsTo_upper h h')

example : fieldOf (Bytes.ofString "ſEQ") = some "seq" := by decide +kernel

theorem fieldOf_mem {k : Bytes} {n : String} (h : fieldOf k = some n) : n ∈ names :=
  List.mem_of_find?_eq_some h

/-- A key matches a name exactly when that name is the field it names. -/
theorem keyMatches_iff_fieldOf {k : Bytes} {n : String} (hn : n ∈ names) :
    keyMatches k n = true ↔ fieldOf k = some n := by
  constructor
  · intro h
    -- the first name the key matches is a name it matches, so it is `n`
    cases hf : fieldOf k with
    | none => exact absurd h (by simpa using List.find?_eq_none.mp hf n hn)
    | some n' =>
      rw [keyMatches_unique (fieldOf_mem hf) hn (List.find?_some hf) h]
  · intro h
    exact List.find?_some h

/-- A member fits the field its key names, if any: said through the names it matches, or through
the field it names. -/
theorem fits_iff_fieldOf (m : Bytes × Value) :
    (∀ name ∈ names, keyMatches m.1 name = true → fits name m.2 = true) ↔
      ∀ n, fieldOf m.1 = some n → fits n m.2 = true := by
  constructor
  · intro h n hn
    exact h n (fieldOf_mem hn) ((keyMatches_iff_fieldOf (fieldOf_mem hn)).mpr hn)
  · intro h name hname hk
    exact h name ((keyMatches_iff_fieldOf hname).mp hk)

/-! ### Setting one member -/

/-- The text a member value gives its field: a string's content or a number's text; none for
`null`. -/
def memberText : Value → Option Bytes
  | .string s => some s
  | .number t => some t
  | _ => none

/-- Sets the member of a document a name reads. -/
def put (d : Document) (name : String) (t : Option Bytes) : Document :=
  match name with
  | "gmid" => { d with gmid := t }
  | "seq" => { d with seq := t }
  | "pressure" => { d with pressure := t }
  | "current" => { d with current := t }
  | "temp" => { d with temp := t }
  | "runcycles" => { d with runcycles := t }
  | "faults" => { d with faults := t }
  | "mode" => { d with mode := t }
  | _ => d

theorem textOf_eq (v : Value) :
    textOf v = if fits "gmid" v then .ok (memberText v) else .error .mismatch := by
  cases v <;> rfl

theorem numberOf_eq {name : String} (h : name ≠ "gmid") (v : Value) :
    numberOf v = if fits name v then .ok (memberText v) else .error .mismatch := by
  cases v with
  | string s => simp [numberOf, fits, memberText, h]
  | number t => simp [numberOf, fits, memberText, h]
  | _ => rfl

/-- **Setting a member**: the key's field, if it names one, takes the member's text when the
value fits it; a value that does not fit is a type error. -/
theorem set_eq (d : Document) (k : Bytes) (v : Value) :
    d.set k v = match fieldOf k with
      | none => .ok d
      | some n => if fits n v then .ok (d.put n (memberText v)) else .error .mismatch := by
  unfold set fieldOf names
  simp only [List.find?_cons, List.find?_nil]
  -- the names are tried in the order of `names`, as the first that the key matches
  by_cases h0 : keyMatches k "gmid" = true
  · rw [if_pos h0, textOf_eq]
    simp only [h0]
    split <;> rfl
  · rw [if_neg h0]
    simp only [h0]
    by_cases h1 : keyMatches k "seq" = true
    · rw [if_pos h1, numberOf_eq (show "seq" ≠ "gmid" by decide)]
      simp only [h1]
      split <;> rfl
    · rw [if_neg h1]
      simp only [h1]
      by_cases h2 : keyMatches k "pressure" = true
      · rw [if_pos h2, numberOf_eq (show "pressure" ≠ "gmid" by decide)]
        simp only [h2]
        split <;> rfl
      · rw [if_neg h2]
        simp only [h2]
        by_cases h3 : keyMatches k "current" = true
        · rw [if_pos h3, numberOf_eq (show "current" ≠ "gmid" by decide)]
          simp only [h3]
          split <;> rfl
        · rw [if_neg h3]
          simp only [h3]
          by_cases h4 : keyMatches k "temp" = true
          · rw [if_pos h4, numberOf_eq (show "temp" ≠ "gmid" by decide)]
            simp only [h4]
            split <;> rfl
          · rw [if_neg h4]
            simp only [h4]
            by_cases h5 : keyMatches k "runcycles" = true
            · rw [if_pos h5, numberOf_eq (show "runcycles" ≠ "gmid" by decide)]
              simp only [h5]
              split <;> rfl
            · rw [if_neg h5]
              simp only [h5]
              by_cases h6 : keyMatches k "faults" = true
              · rw [if_pos h6, numberOf_eq (show "faults" ≠ "gmid" by decide)]
                simp only [h6]
                split <;> rfl
              · rw [if_neg h6]
                simp only [h6]
                by_cases h7 : keyMatches k "mode" = true
                · rw [if_pos h7, numberOf_eq (show "mode" ≠ "gmid" by decide)]
                  simp only [h7]
                  split <;> rfl
                · simp [h7]

/-! ### Setting the members in order -/

/-- The document an object's members give when each field takes the text of its last member. -/
def ofLast (ms : List (Bytes × Value)) : Document :=
  { gmid := (lastOf ms "gmid").bind memberText, seq := (lastOf ms "seq").bind memberText
    pressure := (lastOf ms "pressure").bind memberText
    current := (lastOf ms "current").bind memberText, temp := (lastOf ms "temp").bind memberText
    runcycles := (lastOf ms "runcycles").bind memberText
    faults := (lastOf ms "faults").bind memberText, mode := (lastOf ms "mode").bind memberText }

theorem lastOf_append (ms : List (Bytes × Value)) (m : Bytes × Value) (name : String) :
    lastOf (ms ++ [m]) name = if keyMatches m.1 name then some m.2 else lastOf ms name := by
  unfold lastOf
  rw [List.reverse_append, List.reverse_singleton, List.singleton_append, List.find?_cons]
  cases keyMatches m.1 name <;> rfl

/-- One more member changes the field it names, and only that field. -/
theorem ofLast_append (ms : List (Bytes × Value)) (m : Bytes × Value) :
    ofLast (ms ++ [m]) = match fieldOf m.1 with
      | none => ofLast ms
      | some n => (ofLast ms).put n (memberText m.2) := by
  cases h : fieldOf m.1 with
  | none =>
    -- a key that names no field matches no name
    have hno : ∀ n ∈ names, keyMatches m.1 n = false := fun n hn => by
      cases hk : keyMatches m.1 n
      · rfl
      · rw [(keyMatches_iff_fieldOf hn).mp hk] at h
        cases h
    simp only [names, List.forall_mem_cons] at hno
    simp [ofLast, lastOf_append, hno]
  | some n =>
    have hk : ∀ n' ∈ names, keyMatches m.1 n' = decide (n = n') := fun n' hn' => by
      rw [Bool.eq_iff_iff, keyMatches_iff_fieldOf hn', h]
      simp
    have hn := fieldOf_mem h
    simp only [names, List.forall_mem_cons] at hk
    simp only [names, List.mem_cons, List.mem_nil_iff, or_false] at hn
    rcases hn with rfl | rfl | rfl | rfl | rfl | rfl | rfl | rfl <;>
      simp [ofLast, put, lastOf_append, hk]

/-- **Setting one more member** on the document of the members before it succeeds exactly when
the member fits the field its key names, and then gives the document of all the members. -/
theorem set_ofLast (ms : List (Bytes × Value)) (m : Bytes × Value) (d : Document) :
    (ofLast ms).set m.1 m.2 = .ok d ↔
      (∀ name ∈ names, keyMatches m.1 name = true → fits name m.2 = true) ∧
        d = ofLast (ms ++ [m]) := by
  rw [set_eq, fits_iff_fieldOf, ofLast_append]
  cases hf : fieldOf m.1 with
  | none =>
    -- a key that names no field sets nothing and asks nothing of its value
    simp only [Except.ok.injEq]
    exact ⟨fun h => ⟨fun _ hn => (by cases hn), h.symm⟩, fun h => h.2.symm⟩
  | some n =>
    by_cases hfits : fits n m.2 = true
    · simp only [hfits, if_true, Except.ok.injEq]
      exact ⟨fun h => ⟨fun _ hn => (by cases hn; exact hfits), h.symm⟩, fun h => h.2.symm⟩
    · simp [hfits]

/-- **The document of an object's members**: setting the members in order succeeds exactly when
every member fits the field its key names, and then gives each field the text of its last
member. -/
theorem foldlM_set (ms : List (Bytes × Value)) (d : Document) :
    ms.foldlM (fun (d : Document) (k, v) => d.set k v) {} = .ok d ↔
      MembersFit ms ∧ d = ofLast ms := by
  -- induction from the end: the last member is set on the document of the others
  induction ms using List.reverseRecOn generalizing d with
  | nil =>
    constructor
    · intro h
      cases h
      exact ⟨by simp [MembersFit], rfl⟩
    · rintro ⟨-, rfl⟩
      rfl
  | append_singleton ms m ih =>
    simp only [List.foldlM_append, List.foldlM_cons, List.foldlM_nil, bind_pure,
      Except.bind_eq_ok_iff, MembersFit, List.forall_mem_append, List.forall_mem_singleton]
    constructor
    · rintro ⟨d₀, h₀, hset⟩
      obtain ⟨hfit, rfl⟩ := (ih d₀).mp h₀
      obtain ⟨hm, rfl⟩ := (set_ofLast ms m d).mp hset
      exact ⟨⟨hfit, hm⟩, rfl⟩
    · rintro ⟨⟨hfit, hm⟩, rfl⟩
      exact ⟨ofLast ms, (ih _).mpr ⟨hfit, rfl⟩, (set_ofLast ms m _).mpr ⟨hm, rfl⟩⟩

/-! ### Laying a document over a record -/

/-- The value `x` a field takes from its text over `base`: the base without a text, else what the
text reads as. -/
def ReadsText {α : Type} (read : Bytes → Option α) (text : Option Bytes) (base x : α) : Prop :=
  match text with
  | none => x = base
  | some t => read t = some x

theorem intOf_eq_ok {t : Option Bytes} {base x : Int} {name : String} :
    intOf t base name = .ok x ↔ ReadsText intValue? t base x := by
  cases t with
  | none => simp [intOf, ReadsText, eq_comm]
  | some t =>
    simp only [intOf, ReadsText, intValue?]
    cases readInt64 t <;> cases readFloat t <;> simp [Except.toOption]

theorem floatOf_eq_ok {t : Option Bytes} {base x : Float} {name : String} :
    floatOf t base name = .ok x ↔ ReadsText floatValue? t base x := by
  cases t with
  | none => simp [floatOf, ReadsText, eq_comm]
  | some t =>
    simp only [floatOf, ReadsText, floatValue?, Except.mapError_eq_ok]
    cases readFloat t <;> simp [Except.toOption]

/-- **Laying a document over a record** succeeds exactly when every number member reads, and
then gives the base with each present member in its place. -/
theorem apply_eq_ok {d : Document} {base r : Record} :
    d.apply base = .ok r ↔
      r.gmid = (match d.gmid with
        | some g => if g.isEmpty then base.gmid else g
        | none => base.gmid) ∧
      ReadsText intValue? d.seq base.seq r.seq ∧
      ReadsText floatValue? d.pressure base.pressure r.pressure ∧
      ReadsText floatValue? d.current base.current r.current ∧
      ReadsText floatValue? d.temp base.temp r.temp ∧
      ReadsText intValue? d.runcycles base.runcycles r.runcycles ∧
      ReadsText intValue? d.faults base.faults r.faults ∧
      ReadsText intValue? d.mode base.mode r.mode := by
  simp only [apply, Except.bind_eq_ok_iff, intOf_eq_ok, floatOf_eq_ok]
  constructor
  · rintro ⟨seq, hseq, pressure, hpressure, current, hcurrent, temp, htemp, runcycles, hruncycles,
      faults, hfaults, mode, hmode, hr⟩
    cases hr
    exact ⟨rfl, hseq, hpressure, hcurrent, htemp, hruncycles, hfaults, hmode⟩
  · rintro ⟨hgmid, hseq, hpressure, hcurrent, htemp, hruncycles, hfaults, hmode⟩
    refine ⟨_, hseq, _, hpressure, _, hcurrent, _, htemp, _, hruncycles, _, hfaults, _, hmode, ?_⟩
    -- the statement's match on the identifier and the definition's are two matchers: split both
    cases hg : d.gmid <;> simp only [hg] at hgmid ⊢ <;> rw [← hgmid] <;> rfl

theorem apply_empty (base : Record) : ({} : Document).apply base = .ok base := rfl

theorem readsText_bind_memberText {α : Type} (read : Bytes → Option α) (member : Option Value)
    (base x : α) : ReadsText read (member.bind memberText) base x ↔ Reads read member base x := by
  cases member with
  | none => rfl
  | some v => cases v <;> rfl

theorem lastOf_mem {ms : List (Bytes × Value)} {name : String} {v : Value}
    (h : lastOf ms name = some v) : ∃ m ∈ ms, keyMatches m.1 name = true ∧ m.2 = v := by
  obtain ⟨m, hm, rfl⟩ := Option.map_eq_some_iff.mp h
  have hk := List.find?_some hm
  exact ⟨m, List.mem_reverse.mp (List.mem_of_find?_eq_some hm), hk, rfl⟩

theorem MembersFit.fits_lastOf {ms : List (Bytes × Value)} (h : MembersFit ms) {name : String}
    (hn : name ∈ names) {v : Value} (hv : lastOf ms name = some v) : fits name v = true := by
  obtain ⟨m, hm, hk, rfl⟩ := lastOf_mem hv
  exact h m hm name hn hk

/-- The identifier the last identifier member gives over a base, read from its text as the
document keeps it: for members that fit, a number is never that member. -/
theorem gmid_bind_memberText {ms : List (Bytes × Value)} (hfit : MembersFit ms) (base : Bytes) :
    (match (lastOf ms "gmid").bind memberText with
      | some g => if g.isEmpty then base else g
      | none => base) =
    (match lastOf ms "gmid" with
      | some (.string g) => if g = [] then base else g
      | _ => base) := by
  cases hl : lastOf ms "gmid" with
  | none => rfl
  | some v =>
    have hv := hfit.fits_lastOf (show "gmid" ∈ names by decide) hl
    cases v <;> simp_all [memberText, fits]

/-- **The overlay of an object's members** is the document of its last members laid over the base,
for members that fit. -/
theorem overlay_iff {base r : Record} {ms : List (Bytes × Value)} :
    Overlay base ms r ↔ MembersFit ms ∧ (ofLast ms).apply base = .ok r := by
  rw [apply_eq_ok]
  simp only [ofLast, readsText_bind_memberText]
  constructor
  · rintro ⟨hfit, hgmid, hseq, hpressure, hcurrent, htemp, hruncycles, hfaults, hmode⟩
    exact ⟨hfit, hgmid.trans (gmid_bind_memberText hfit base.gmid).symm, hseq, hpressure, hcurrent,
      htemp, hruncycles, hfaults, hmode⟩
  · rintro ⟨hfit, hgmid, hseq, hpressure, hcurrent, htemp, hruncycles, hfaults, hmode⟩
    exact ⟨hfit, hgmid.trans (gmid_bind_memberText hfit base.gmid), hseq, hpressure, hcurrent,
      htemp, hruncycles, hfaults, hmode⟩

/-- A JSON value gives a document that lays over the base to `r` exactly when it overlays the base
to `r`. -/
theorem ofValue_apply_iff {v : Value} {base r : Record} :
    (∃ d, ofValue v = .ok d ∧ d.apply base = .ok r) ↔ Overlays base r v := by
  cases v with
  | null =>
    simp only [ofValue, Overlays, Except.ok.injEq, exists_eq_left', apply_empty]
    exact ⟨fun h => h.symm, fun h => h.symm⟩
  | object ms =>
    simp only [ofValue, Overlays, overlay_iff]
    constructor
    · rintro ⟨d, hd, happly⟩
      obtain ⟨hfit, rfl⟩ := (foldlM_set ms d).mp hd
      exact ⟨hfit, happly⟩
    · rintro ⟨hfit, happly⟩
      exact ⟨ofLast ms, (foldlM_set ms _).mpr ⟨hfit, rfl⟩, happly⟩
  | _ => simp [ofValue, Overlays]

end Document

/-- Reading a controller document succeeds exactly when the text is one JSON value with only
whitespace after it, the value gives a document, and the document lays over the base. -/
theorem Record.read_eq_ok_iff {data : Bytes} {base r : Record} :
    Record.read data base = .ok r ↔
      ∃ v rest d, firstValue data = .ok (v, rest) ∧ skipSpace rest = [] ∧
        Document.ofValue v = .ok d ∧ d.apply base = .ok r := by
  simp only [Record.read, Except.bind_eq_ok_iff, Except.mapError_eq_ok]
  constructor
  · rintro ⟨⟨v, rest⟩, hfirst, d, hd, happly⟩
    -- anything but whitespace after the value fails before the document is laid over the base
    cases hs : skipSpace rest with
    | cons b bs =>
      simp [hs] at happly
    | nil =>
      simp only [hs, List.isEmpty_nil, Bool.not_true, Bool.false_eq_true, if_false] at happly
      exact ⟨v, rest, d, hfirst, hs, hd, happly⟩
  · rintro ⟨v, rest, d, hfirst, hs, hd, happly⟩
    refine ⟨(v, rest), hfirst, d, hd, ?_⟩
    simp only [hs, List.isEmpty_nil, Bool.not_true, Bool.false_eq_true, if_false]
    exact happly

/-- **Reading a controller document** over a base record succeeds with `r` exactly when the text
is one JSON value with nothing but whitespace after it, and that value laid over the base as a
controller document gives `r`. -/
theorem Record.read_eq_ok_iff_overlays {data : Bytes} {base r : Record} :
    Record.read data base = .ok r ↔
      ∃ v rest, firstValue data = .ok (v, rest) ∧ skipSpace rest = [] ∧
        Document.Overlays base r v := by
  rw [Record.read_eq_ok_iff]
  constructor
  · rintro ⟨v, rest, d, hfirst, hs, hd, happly⟩
    exact ⟨v, rest, hfirst, hs, Document.ofValue_apply_iff.mp ⟨d, hd, happly⟩⟩
  · rintro ⟨v, rest, hfirst, hs, hv⟩
    obtain ⟨d, hd, happly⟩ := Document.ofValue_apply_iff.mpr hv
    exact ⟨v, rest, d, hfirst, hs, hd, happly⟩

end TelemetryBridge
