import TelemetryBridge.Proofs.CompactJson
import TelemetryBridge.Telemetry.Profile
import TelemetryBridge.Telemetry.Payload

/-! # Cached site profiles are compact JSON objects

A profile document is accepted when, with blank characters trimmed from both ends, it starts
with a brace and is valid JSON; an accepted document is kept compact, or as the empty profile
when it has no compact form. Trimming removes Unicode blanks while JSON allows only its own
whitespace, so the two checks can disagree (a trailing no-break space passes the first and
fails the second); the fallback to the empty profile covers exactly that gap.

This file shows that the profile a document gives is one JSON object in compact form, that it is
the document's compact form exactly when the document is one object with JSON whitespace around
it, and the empty profile otherwise (`Profile.cached_profile_safe`). The document of every
payload built with such a profile exists and embeds the profile as its member `pr`, so writing a
built payload never fails to serialize it.

The two directions of the characterisation rest on the trimming: JSON whitespace is blank and a
printable ASCII byte is not, so trimming a text that is an object with whitespace around it
leaves the object (`Blank.trim_object`), and what trimming leaves of any text starts with the
first byte after its whitespace (`Blank.trim_prefix`). A valid text is an object exactly when
that byte is a brace (`Json.readWhole_lead`).
-/

namespace TelemetryBridge

namespace Blank

/-- JSON whitespace is blank. -/
theorem asciiBlank_of_isSpace {b : UInt8} (h : Json.isSpace b = true) : asciiBlank b = true := by
  simp only [Json.isSpace, Bool.or_eq_true, beq_iff_eq] at h
  rcases h with ((rfl | rfl) | rfl) | rfl <;> decide

/-- Printable ASCII is not blank. -/
theorem asciiBlank_of_printable {b : UInt8} (h33 : 33 ≤ b.toNat) (h128 : b.toNat < 128) :
    asciiBlank b = false := by
  simp only [asciiBlank, Bool.or_eq_false_iff, Bool.and_eq_false_iff, decide_eq_false_iff_not,
    beq_eq_false_iff_ne, ne_eq, UInt8.ext_iff, UInt8.le_iff_toNat_le, UInt8.toNat_ofNat]
  omega

theorem dropFront_cons_blank {b : UInt8} (h : asciiBlank b = true) (s : Bytes) :
    dropFront (b :: s) = dropFront s := by
  rw [dropFront.eq_def]
  simp [h]

theorem dropFront_blank_append {sp : Bytes} (h : Json.Blank sp) (s : Bytes) :
    dropFront (sp ++ s) = dropFront s := by
  induction sp with
  | nil => rfl
  | cons b sp ih =>
    rw [List.cons_append, dropFront_cons_blank (asciiBlank_of_isSpace (h b List.mem_cons_self))]
    exact ih fun c hc => h c (List.mem_cons_of_mem b hc)

/-- Printable ASCII stops the trimming at the front: it starts no blank character. -/
theorem dropFront_cons_printable {b : UInt8} (h33 : 33 ≤ b.toNat) (h128 : b.toNat < 128)
    (s : Bytes) : dropFront (b :: s) = b :: s := by
  rw [dropFront.eq_def]
  simp only [asciiBlank_of_printable h33 h128, Bool.false_eq_true, if_false]
  -- every multi-byte blank starts with a byte from 0x80 up
  split
  case h_7 => rfl
  all_goals exact absurd h128 (by decide)

theorem dropReversed_cons_blank {b : UInt8} (h : asciiBlank b = true) (s : Bytes) :
    dropReversed (b :: s) = dropReversed s := by
  rw [dropReversed.eq_def]
  simp [h]

theorem dropReversed_blank_append {sp : Bytes} (h : Json.Blank sp) (s : Bytes) :
    dropReversed (sp ++ s) = dropReversed s := by
  induction sp with
  | nil => rfl
  | cons b sp ih =>
    rw [List.cons_append, dropReversed_cons_blank (asciiBlank_of_isSpace (h b List.mem_cons_self))]
    exact ih fun c hc => h c (List.mem_cons_of_mem b hc)

/-- Printable ASCII stops the trimming at the back: it ends no blank character. -/
theorem dropReversed_cons_printable {b : UInt8} (h33 : 33 ≤ b.toNat) (h128 : b.toNat < 128)
    (s : Bytes) : dropReversed (b :: s) = b :: s := by
  have hE2 : blankAfterE280 b = false := by
    simp only [blankAfterE280, Bool.or_eq_false_iff, Bool.and_eq_false_iff, decide_eq_false_iff_not,
      beq_eq_false_iff_ne, ne_eq, UInt8.ext_iff, UInt8.le_iff_toNat_le, UInt8.toNat_ofNat]
    omega
  rw [dropReversed.eq_def]
  simp only [asciiBlank_of_printable h33 h128, Bool.false_eq_true, if_false]
  -- every multi-byte blank ends with a byte from 0x80 up, and after `E2 80` the byte decides
  split
  case h_6 => simp [hE2]
  case h_7 => rfl
  all_goals exact absurd h128 (by decide)

/-- Trimming at the back keeps an end of the reversed text. -/
theorem dropReversed_suffix (l : Bytes) : dropReversed l <:+ l := by
  fun_induction dropReversed l <;> grind [List.suffix_cons, List.suffix_refl, List.IsSuffix.trans]

/-- What trimming leaves starts where the trimming at the front stopped. -/
theorem trim_prefix (s : Bytes) : trim s <+: dropFront s := by
  simpa [trim] using (dropReversed_suffix (dropFront s).reverse).reverse

/-- **Trimming an object.** Trimming a text that is braces with JSON whitespace around them leaves
the braces and what is between them. -/
theorem trim_object {sp m rest : Bytes} (hsp : Json.Blank sp) (hrest : Json.Blank rest) :
    trim (sp ++ 123 :: (m ++ [125]) ++ rest) = 123 :: (m ++ [125]) := by
  have hrev : Json.Blank rest.reverse := fun b hb => hrest b (List.mem_reverse.mp hb)
  have hrevT : (123 :: ((m ++ [125]) ++ rest)).reverse =
      rest.reverse ++ 125 :: (m.reverse ++ [123]) := by simp
  unfold trim
  rw [List.append_assoc, dropFront_blank_append hsp, List.cons_append,
    dropFront_cons_printable (by decide) (by decide), hrevT, dropReversed_blank_append hrev,
    dropReversed_cons_printable (by decide) (by decide)]
  simp

end Blank

namespace Profile

open Json

/-- A document that is one JSON object with whitespace around it is accepted: trimming leaves
the object, which is valid on its own. -/
theorem accepts_of_object {doc : Bytes} {ms : List (Bytes × Value)}
    (h : readWhole doc = .ok (.object ms)) : accepts doc = true := by
  obtain ⟨sp, m, rest, hsp, hrest, rfl, hobj⟩ := readWhole_object h
  unfold accepts
  rw [Blank.trim_object hsp hrest]
  exact isValid_iff.mpr ⟨_, hobj⟩

/-- An accepted document that is one JSON value is an object: trimming cannot reach past the
value's first byte, so the brace it leaves first is that byte. -/
theorem object_of_accepts {doc : Bytes} {v : Value} (ha : accepts doc = true)
    (h : readWhole doc = .ok v) : ∃ ms, v = .object ms := by
  obtain ⟨b, x, hs, h33, h128, hobj⟩ := readWhole_lead h
  obtain ⟨sp, hsp, rfl⟩ := eq_of_skipSpace hs
  have hpre := Blank.trim_prefix (sp ++ b :: x)
  rw [Blank.dropFront_blank_append hsp, Blank.dropFront_cons_printable h33 h128] at hpre
  unfold accepts at ha
  split at ha
  · next rest htrim =>
    rw [htrim] at hpre
    exact hobj.mp (List.cons_prefix_cons.mp hpre).1.symm
  · simp at ha

/-- The profile of a document that is one JSON object with whitespace around it is the
document's compact form. -/
theorem compact_of_object {doc : Bytes} {ms : List (Bytes × Value)}
    (h : readWhole doc = .ok (.object ms)) : compact doc = some (ofDocument doc) := by
  have hc : compact doc = some (strip doc) := if_pos (isValid_iff.mpr ⟨_, h⟩)
  rw [ofDocument, if_pos (accepts_of_object h), compactOrEmpty, hc]
  rfl

/-- The profile of any other document is the empty profile: it is not accepted, or it has no
compact form, since an accepted valid document is an object. -/
theorem ofDocument_of_not_object {doc : Bytes} (h : ¬ ∃ ms, readWhole doc = .ok (.object ms)) :
    ofDocument doc = empty := by
  unfold ofDocument compactOrEmpty
  split_ifs with ha
  · unfold compact
    split_ifs with hv
    · obtain ⟨v, hv⟩ := isValid_iff.mp hv
      obtain ⟨ms, rfl⟩ := object_of_accepts ha hv
      exact absurd ⟨ms, hv⟩ h
    · rfl
  · rfl

/-- What a builder needs of its cached profile: it is one JSON object, it is its own compact
form, and the document of every payload built with it exists and embeds it, escaped for
embedding, as the member `pr`. -/
def Cacheable (p : Bytes) : Prop :=
  (∃ ms, readWhole p = .ok (.object ms)) ∧ compact p = some p ∧
    ∀ r : Record, ∃ pre, (Payload.ofRecord p r).document? =
      some (pre ++ Payload.member "pr" (escapeEmbedded p) ++ [125])

/-- A compact object is cacheable: a payload's document embeds the compact form of its profile. -/
theorem cacheable_of_compact {p : Bytes} (hobj : ∃ ms, readWhole p = .ok (.object ms))
    (hc : compact p = some p) : Cacheable p := by
  refine ⟨hobj, hc, fun r => ?_⟩
  simp only [Payload.document?, Payload.ofRecord, Payload.profileText?, hc, Option.map_some]
  exact ⟨_, rfl⟩

theorem empty_cacheable : Cacheable empty := by
  have h : readWhole (strip ([] ++ 123 :: ([] ++ [125]))) = .ok (.object []) :=
    (ValueSpan.empty blank_nil blank_nil (by decide) (by decide)
      (fun _ _ _ hx => value_empty_object (by decide) hx) fun _ _ => ⟨rfl, rfl⟩).readWhole_strip
  rw [show strip ([] ++ 123 :: ([] ++ [125])) = empty by decide +kernel] at h
  exact cacheable_of_compact ⟨[], h⟩ (by decide +kernel)

/-- The profile of every document is cacheable. -/
theorem ofDocument_cacheable (doc : Bytes) : Cacheable (ofDocument doc) := by
  by_cases h : ∃ ms, readWhole doc = .ok (.object ms)
  · -- the compact form of an object reads as the object and is its own compact form
    obtain ⟨ms, hms⟩ := h
    have hc := compact_of_object hms
    have hstrip : ofDocument doc = strip doc :=
      Option.some.inj (hc.symm.trans (if_pos (isValid_iff.mpr ⟨_, hms⟩)))
    exact cacheable_of_compact ⟨ms, hstrip ▸ readWhole_strip hms⟩ (compact_compact hc)
  · rw [ofDocument_of_not_object h]
    exact empty_cacheable

/-- The profile loaded from a file is the profile of a document: the file's content, or the
empty profile when there is no path or no file to read. -/
theorem load_fst (disk : Disk) (path : Bytes) :
    ∃ doc, (load disk path).1 = ofDocument doc ∧ (path ≠ [] → ∀ content,
      disk.readFile path = .ok content → doc = content) := by
  have hempty : ofDocument empty = empty := by decide +kernel
  unfold load
  split_ifs with hpath
  · exact ⟨empty, hempty.symm, fun h => absurd (List.isEmpty_iff.mp hpath) h⟩
  · cases hread : disk.readFile path with
    | error f => exact ⟨empty, hempty.symm, fun _ _ h => nomatch h⟩
    | ok doc =>
      refine ⟨doc, ?_, fun _ _ h => Except.ok.inj h⟩
      unfold ofDocument
      simp only
      split_ifs <;> rfl

/-- **Profile caching is safe.** The profile a document gives, and the profile a builder loads
from a file, is one JSON object in compact form, and every payload built with it has a
document, which embeds the profile as its member `pr`; so writing a built payload never meets
the case of a payload that cannot be serialized. The profile is the document's compact form
when the document is one JSON object with JSON whitespace around it (and within the nesting
limit), and the empty profile `{}` otherwise; a loaded profile is the profile of the file's
content. -/
theorem cached_profile_safe (doc : Bytes) (disk : Disk) (path : Bytes) :
    Cacheable (ofDocument doc) ∧ Cacheable (load disk path).1 ∧
      ((∃ ms, readWhole doc = .ok (.object ms)) → compact doc = some (ofDocument doc)) ∧
      ((¬ ∃ ms, readWhole doc = .ok (.object ms)) → ofDocument doc = empty) ∧
      (path ≠ [] → ∀ content, disk.readFile path = .ok content →
        (load disk path).1 = ofDocument content) := by
  obtain ⟨d, hload, hd⟩ := load_fst disk path
  refine ⟨ofDocument_cacheable doc, hload ▸ ofDocument_cacheable d,
    fun ⟨_, h⟩ => compact_of_object h, ofDocument_of_not_object, fun hp content hc => ?_⟩
  rw [hload, hd hp content hc]

/-- A document with a no-break space after an object is accepted, since trimming removes the
space, but it is not JSON, so its profile is the empty one. -/
example : ofDocument (Bytes.ofString "\x7b\"site\":1\x7d\u00A0") = empty := by decide +kernel

end Profile

end TelemetryBridge
