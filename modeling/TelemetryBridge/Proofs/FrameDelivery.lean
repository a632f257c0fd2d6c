import TelemetryBridge.Proofs.LineLifecycle

/-! # Delivering a frame

A send writes the frame to the port's buffer and flushes it (`Transport.send`). This file says
what a send does for every frame and however the device answers its writes, taking any number
of the bytes offered and reporting any failure (`Transport.send_delivers`):

* it succeeds exactly when the bytes the device took are the frame, in order, and no write
  reported a failure (`Transport.Delivery`);
* a frame that fits the buffer reaches the device in one write at the flush, which fails the
  send when it takes fewer bytes than offered; while more than a buffer's worth is left, the
  bytes go to the device directly, and a write that takes fewer without failing is followed by
  one offering the rest (`Buffer.spill_clean`, `Transport.send_after_short_direct_write`);
* a failed send leaves the transport failed with nothing buffered, so the next send starts clean.

Writes are described by the trace entries they leave (`Device.afterWrites`), and the failures
they report by the device's answers (`Device.Quiet`).
-/

namespace TelemetryBridge

namespace Serial

/-! ### Writes and the answers they use -/

namespace Device

/-- The device after writes that left the trace entries `W`: each write used one answer of the
script. -/
def afterWrites (d : Device) (W : List (Bytes × Nat)) : Device :=
  { d with script := d.script.drop W.length, written := d.written ++ W }

/-- The answer to the next write: the script's first, or taking everything past the script. -/
def answer (d : Device) : WriteAnswer := d.script.headD {}

/-- How many bytes of `p` the next write takes. -/
def taken (d : Device) (p : Bytes) : Nat := min (d.answer.accepted.getD p.length) p.length

/-- The next `k` writes report no failure. -/
def Quiet (d : Device) (k : Nat) : Prop := ∀ a ∈ d.script.take k, a.failure = none

variable {d : Device}

@[simp] theorem afterWrites_nil (d : Device) : d.afterWrites [] = d := by
  simp [afterWrites]

theorem afterWrites_append (d : Device) (W W' : List (Bytes × Nat)) :
    (d.afterWrites W).afterWrites W' = d.afterWrites (W ++ W') := by
  simp [afterWrites, List.drop_drop]

/-- One write takes a prefix of the bytes offered, as the next answer says. -/
theorem write_eq (d : Device) (p : Bytes) :
    d.write p = (d.afterWrites [(p.take (d.taken p), p.length)], d.taken p, d.answer.failure) := by
  obtain ⟨script, closeFailure, written, closes⟩ := d
  cases script <;> rfl

theorem taken_le (d : Device) (p : Bytes) : d.taken p ≤ p.length := Nat.min_le_right _ _

/-- Past the script the device takes every byte and reports no failure. -/
theorem answer_of_script_nil (h : d.script = []) : d.answer = {} := by
  simp [answer, h]

theorem quiet_zero (d : Device) : d.Quiet 0 := by
  simp [Quiet]

theorem quiet_one : d.Quiet 1 ↔ d.answer.failure = none := by
  obtain ⟨script, closeFailure, written, closes⟩ := d
  cases script <;> simp [Quiet, answer]

/-- The writes after `W` are quiet when those of `W` are and the following ones are. -/
theorem quiet_append {W : List (Bytes × Nat)} {k : Nat} :
    d.Quiet (W.length + k) ↔ d.Quiet W.length ∧ (d.afterWrites W).Quiet k := by
  simp only [Quiet, afterWrites, List.take_add, List.forall_mem_append]

theorem quiet_succ {k : Nat} (w : Bytes × Nat) :
    d.Quiet (k + 1) ↔ d.answer.failure = none ∧ (d.afterWrites [w]).Quiet k := by
  rw [Nat.add_comm, ← quiet_one]
  exact quiet_append (W := [w])

end Device

/-! ### Writing and flushing from an empty buffer -/

namespace Buffer

variable {fuel : Nat} {d : Device} {p : Bytes}

/-- Spilling stops at once when what is left fits the free space or a failure is kept. -/
theorem spill_of_stop {b : Buffer} (h : p.length ≤ b.free ∨ b.failure.isSome) :
    spill fuel b d p = (b, d, p) := by
  cases fuel with
  | zero => rfl
  | succ fuel =>
    rw [spill, if_pos (by simpa using h)]

/-- From an empty buffer, more than a buffer's worth is offered to the device in one direct
write, and spilling goes on from what it did not take. -/
theorem spill_direct (h : bufferSize < p.length) :
    spill (fuel + 1) {} d p =
      spill fuel { failure := (d.write p).2.2 } (d.write p).1 (p.drop (d.write p).2.1) := by
  have hstop : ¬ ((decide (p.length ≤ ({} : Buffer).free) || ({} : Buffer).failure.isSome) = true) := by
    simp only [free, List.length_nil, Nat.sub_zero, Option.isSome_none, Bool.or_false]
    exact fun hle => absurd (of_decide_eq_true hle) (by omega)
  rw [spill, if_neg hstop, if_pos (show List.isEmpty ({} : Buffer).held = true from rfl)]

/-- **Spilling from an empty buffer.** While more than a buffer's worth is left, it is offered
to the device directly, and a write that takes fewer bytes without failing is followed by one
offering the rest. It ends when what is left fits, or at the first failure. -/
theorem spill_clean (hfuel : d.script.length + 2 ≤ fuel) :
    ∃ W rest f, spill fuel {} d p = ({ failure := f }, d.afterWrites W, rest) ∧
      (W.map Prod.fst).flatten ++ rest = p ∧ (∀ w ∈ W, bufferSize < w.2) ∧
      (f = none ↔ d.Quiet W.length) ∧ (f = none → rest.length ≤ bufferSize) := by
  induction fuel generalizing d p with
  | zero => omega
  | succ fuel ih =>
    by_cases hfit : p.length ≤ bufferSize
    · refine ⟨[], p, none, ?_, by simp, by simp, by simp [Device.quiet_zero], fun _ => hfit⟩
      rw [Device.afterWrites_nil]
      exact spill_of_stop (.inl (by simpa [free] using hfit))
    -- too long to hold: the whole rest goes to the device
    rw [spill_direct (by omega), Device.write_eq]
    dsimp only
    cases hf : d.answer.failure with
    | some e =>
      rw [spill_of_stop (.inr rfl)]
      refine ⟨[(p.take (d.taken p), p.length)], p.drop (d.taken p), some e, rfl, by simp,
        by simp; omega, ?_, by simp⟩
      simp [(Device.quiet_succ (p.take (d.taken p), p.length)), hf]
    | none =>
      by_cases hs : d.script = []
      · -- past the script every byte is taken
        have hall : d.taken p = p.length := by simp [Device.taken, Device.answer_of_script_nil hs]
        rw [hall, List.drop_length, spill_of_stop (.inl (by simp))]
        refine ⟨[(p.take p.length, p.length)], [], none, rfl, by simp, by simp; omega, ?_,
          fun _ => by simp⟩
        simp [Device.quiet_succ (p.take p.length, p.length), hf, Device.quiet_zero]
      · have hlen : (d.afterWrites [(p.take (d.taken p), p.length)]).script.length + 2 ≤ fuel := by
          have : d.script.length ≠ 0 := by simpa using hs
          simp [Device.afterWrites]
          omega
        obtain ⟨W, rest, f, heq, hcat, hoff, hq, hfit'⟩ := ih hlen
        refine ⟨(p.take (d.taken p), p.length) :: W, rest, f, ?_, ?_, ?_, ?_, hfit'⟩
        · rw [heq, Device.afterWrites_append]
          rfl
        · rw [List.map_cons, List.flatten_cons, List.append_assoc, hcat, List.take_append_drop]
        · intro w hw'
          rcases List.mem_cons.mp hw' with rfl | hw'
          · simp only
            omega
          · exact hoff w hw'
        · rw [List.length_cons, Device.quiet_succ (p.take (d.taken p), p.length), hq, hf]
          simp

/-- Writing to an empty buffer: the writes made while more than a buffer's worth is left, and
what is held after them, which is the rest of the bytes when no write failed. -/
theorem write_clean (d : Device) (p : Bytes) :
    ∃ W rest, (W.map Prod.fst).flatten ++ rest = p ∧ (∀ w ∈ W, bufferSize < w.2) ∧
      ((d.Quiet W.length ∧ ({} : Buffer).write d p = ({ held := rest }, d.afterWrites W, none)) ∨
        (¬ d.Quiet W.length ∧ ∃ b f, ({} : Buffer).write d p = (b, d.afterWrites W, some f))) := by
  obtain ⟨W, rest, f, heq, hcat, hoff, hq, hfit⟩ :=
    spill_clean (d := d) (p := p) (show d.script.length + 2 ≤ 2 * (p.length + d.script.length) + 2 by
      omega)
  refine ⟨W, rest, hcat, hoff, ?_⟩
  unfold write
  rw [heq]
  cases f with
  | none =>
    refine .inl ⟨hq.mp rfl, ?_⟩
    simp [free, List.take_of_length_le (hfit rfl)]
  | some e => exact .inr ⟨fun h => absurd (hq.mpr h) (by simp), _, _, rfl⟩

/-- Flushing a buffer that holds `rest`: at most one write, which succeeds exactly when the
device takes all of `rest` and reports no failure, and then leaves the buffer empty. -/
theorem flush_held (rest : Bytes) (d : Device) :
    ∃ W, (({ held := rest } : Buffer).flush d).2.1 = d.afterWrites W ∧
      ((({ held := rest } : Buffer).flush d).2.2 = none ↔
        (W.map Prod.fst).flatten = rest ∧ d.Quiet W.length) ∧
      ((({ held := rest } : Buffer).flush d).2.2 = none →
        (({ held := rest } : Buffer).flush d).1 = {} ∧ ∀ w ∈ W, w.1.length = w.2) := by
  by_cases hr : rest = []
  · subst hr
    exact ⟨[], by rw [Device.afterWrites_nil]; rfl, by simp [flush, Device.quiet_zero],
      fun _ => ⟨rfl, by simp⟩⟩
  refine ⟨[(rest.take (d.taken rest), rest.length)], ?_⟩
  have hne : List.isEmpty rest = false := by simpa using hr
  unfold flush
  simp only [hne, Bool.false_eq_true, if_false, Device.write_eq]
  rw [List.length_singleton, Device.quiet_one]
  cases hf : d.answer.failure with
  | some e => exact ⟨rfl, by simp, by simp⟩
  | none =>
    by_cases hn : d.taken rest < rest.length
    · -- a short write is a failure
      have hshort : rest.take (d.taken rest) ≠ rest := fun h => by
        have := congrArg List.length h
        simp at this
        omega
      simp [hn, hshort]
    · have hall : d.taken rest = rest.length := Nat.le_antisymm (Device.taken_le d rest) (by omega)
      simp [hall]

end Buffer

/-! ### The delivery law -/

namespace Transport

/-- **What a send does**, where `W` are the writes it made, each as the bytes the device took
and the number offered: the device only answered those writes; the send succeeds exactly when
the bytes taken are the frame and no write reported a failure; in a send that succeeds a write
took fewer bytes than offered only when more than a buffer's worth was offered; and the
transport is left open, or failed, holding an empty buffer either way. -/
structure Delivery (t : Transport) (l : Link) (frame : Bytes) (W : List (Bytes × Nat))
    (r : Transport × Link × Step) : Prop where
  link : r.2.1 = { l with device := l.device.afterWrites W }
  delivered_iff : r.2.2.failure = none ↔ (W.map Prod.fst).flatten = frame ∧ l.device.Quiet W.length
  short_offers : r.2.2.failure = none → ∀ w ∈ W, w.1.length < w.2 → bufferSize < w.2
  delivered : r.2.2.failure = none → r.1 = { t with state := .open, port := some {} }
  failed : r.2.2.failure ≠ none → r.1 = { t with state := .failed, port := some {} }

/-- A send over an empty buffer. -/
theorem send_of_clean {t : Transport} (hp : t.port = some {}) (l : Link) (frame : Bytes) :
    ∃ W, Delivery t l frame W (t.send l frame) := by
  obtain ⟨W, rest, hcat, hoff, ⟨hq, hw⟩ | ⟨hq, b, f, hw⟩⟩ := Buffer.write_clean l.device frame
  · obtain ⟨W', hd, hiff, hok⟩ := Buffer.flush_held rest (l.device.afterWrites W)
    unfold send
    rw [hp]
    dsimp only
    rw [hw]
    dsimp only
    generalize ({ held := rest } : Buffer).flush (l.device.afterWrites W) = v at hd hiff hok
    obtain ⟨b2, d2, f2⟩ := v
    dsimp only at hd hiff hok
    subst hd
    refine ⟨W ++ W', ?_⟩
    have hquiet : l.device.Quiet (W ++ W').length ↔ (l.device.afterWrites W).Quiet W'.length := by
      rw [List.length_append, Device.quiet_append]
      exact and_iff_right hq
    have hflat : ((W ++ W').map Prod.fst).flatten = frame ↔ (W'.map Prod.fst).flatten = rest := by
      rw [List.map_append, List.flatten_append, ← hcat]
      exact List.append_cancel_left_eq _ _ _ |>.to_iff
    cases f2 with
    | some e =>
      refine ⟨by rw [Device.afterWrites_append], ?_, by simp, by simp, fun _ => rfl⟩
      simp only [reduceCtorEq, false_iff, not_and, hflat, hquiet]
      simpa using hiff
    | none =>
      obtain ⟨hb2, hfull⟩ := hok rfl
      refine ⟨by rw [Device.afterWrites_append], ?_, ?_, fun _ => by rw [hb2], by simp⟩
      · rw [hflat, hquiet]
        exact hiff
      · intro _ w hw' hshort
        rcases List.mem_append.mp hw' with hw' | hw'
        · exact hoff w hw'
        · exact absurd (hfull w hw') (by omega)
  · unfold send
    rw [hp]
    dsimp only
    rw [hw]
    refine ⟨W, rfl, ?_, by simp, by simp, fun _ => rfl⟩
    simp only [reduceCtorEq, false_iff, not_and]
    exact fun _ => hq

/-- **Sending delivers exactly the frame, or fails and starts clean.** On a transport between
calls that holds its port (open, or failed by an earlier send), sending a frame makes writes `W`
that obey the delivery law: it succeeds exactly when the device took the whole frame, in order,
and no write reported a failure; a write that took fewer bytes than offered without failing is
followed by one offering the rest when more than 4096 bytes were offered, and fails the send
otherwise; a failed send leaves the transport failed with nothing buffered, so the next send
delivers exactly its own frame. -/
theorem send_delivers {t : Transport} (ht : t.Settled) (hs : t.state = .open ∨ t.state = .failed)
    (l : Link) (frame : Bytes) : ∃ W, Delivery t l frame W (t.send l frame) := by
  obtain ⟨b, hb⟩ := Option.isSome_iff_exists.mp (ht.held_iff.mpr hs)
  obtain ⟨hheld, hfail⟩ := ht.clean b hb
  have hclean : b = {} := by
    cases b
    simp_all
  exact send_of_clean (hclean ▸ hb) l frame

/-- A failed transport sends again from a clean buffer. -/
theorem send_delivers_after_failure :
    let t : Transport := { settings := default, state := .failed, port := some {} }
    t.Settled ∧ (t.state = .open ∨ t.state = .failed) ∧
      ∃ W, Delivery t {} [123, 125] W (t.send {} [123, 125]) := by
  intro t
  have ht : t.Settled := ⟨by decide, by simp [t], fun b hb => by cases hb; exact ⟨rfl, rfl⟩⟩
  exact ⟨ht, .inr rfl, send_delivers ht (.inr rfl) {} [123, 125]⟩

/-- A write of more than 4096 bytes that takes one byte without failing is followed by one
offering the other 4096, and the send succeeds. -/
theorem send_after_short_direct_write :
    let t : Transport := { settings := default, state := .open, port := some {} }
    let l : Link := { device := { script := [{ accepted := some 1 }] } }
    (t.send l (List.replicate 4097 97)).2.2.failure = none ∧
      (t.send l (List.replicate 4097 97)).2.1.device.written =
        [([97], 4097), (List.replicate 4096 97, 4096)] := by
  intro t l
  have htake : (List.replicate 4097 (97 : UInt8)).take 1 = [97] := by
    rw [List.take_replicate]
    rfl
  have hdrop : (List.replicate 4097 (97 : UInt8)).drop 1 = List.replicate 4096 97 := by
    rw [List.drop_replicate]
  generalize hp : List.replicate 4097 (97 : UInt8) = p at htake hdrop
  have hlen : p.length = 4097 := by rw [← hp, List.length_replicate]
  have hlen' : (List.replicate 4096 (97 : UInt8)).length = 4096 := List.length_replicate
  -- the first write is offered all 4097 bytes and takes one
  have hw1 : l.device.write p = ({ script := [], written := [([97], 4097)] }, 1, none) := by
    unfold Device.write
    dsimp only [l]
    rw [Option.getD_some, hlen, show min 1 4097 = 1 from rfl, htake]
    rfl
  -- the other 4096 fit the buffer
  have hspill : Buffer.spill 8198 {} l.device p =
      ({}, { script := [], written := [([97], 4097)] }, List.replicate 4096 97) := by
    rw [Buffer.spill_direct (by rw [hlen]; decide), hw1]
    dsimp only
    rw [hdrop, Buffer.spill_of_stop (.inl (by rw [hlen']; decide))]
  -- and the flush writes them all
  have hw2 : ({ script := [], written := [([97], 4097)] } : Device).write (List.replicate 4096 97) =
      ({ script := [], written := [([97], 4097), (List.replicate 4096 97, 4096)] }, 4096, none) := by
    unfold Device.write
    dsimp only
    rw [Option.getD_none, hlen', Nat.min_self, List.take_of_length_le (Nat.le_of_eq hlen')]
    rfl
  have hwrite : ({} : Buffer).write l.device p =
      ({ held := List.replicate 4096 97 }, { script := [], written := [([97], 4097)] }, none) := by
    unfold Buffer.write
    rw [show 2 * (p.length + l.device.script.length) + 2 = 8198 by rw [hlen]; rfl, hspill]
    dsimp only
    rw [List.take_of_length_le (by rw [hlen']; decide)]
    rfl
  have hflush : ({ held := List.replicate 4096 97 } : Buffer).flush
      { script := [], written := [([97], 4097)] } =
      ({}, { script := [], written := [([97], 4097), (List.replicate 4096 97, 4096)] }, none) := by
    unfold Buffer.flush
    dsimp only
    rw [if_neg (by rw [List.isEmpty_iff_length_eq_zero, hlen']; decide), hw2]
    dsimp only
    rw [hlen', if_neg (Nat.lt_irrefl 4096)]
  unfold Transport.send
  dsimp only [t]
  rw [hwrite]
  dsimp only
  rw [hflush]
  exact ⟨rfl, rfl⟩

end Transport

end Serial

end TelemetryBridge
