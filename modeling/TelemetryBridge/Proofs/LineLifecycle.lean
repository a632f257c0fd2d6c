import TelemetryBridge.Serial.Transport

/-! # The serial transport's lifecycle

The transport opens its device once, writes and flushes each frame, and closes the device once.
This file shows that every run of calls keeps it in order, whatever the opener answers and
however the device takes writes and closes:

* between calls the transport is **settled** (`Transport.Settled`): never opening, holding a port
  exactly when open or failed, and with nothing buffered and no failure kept;
* every call obeys the **port law** (`Transport.PortLaw`): with a port held it leaves the opener
  alone and keeps the port or releases it after closing the device once; with no port held it
  leaves the device alone, and a port comes only from the opener, asked once.

So the opener is asked only with no port held, a port it gives is closed at most once, and
nothing is written to it after that (`Transport.lifecycle`).

The argument is one lemma per call saying what the call does (`open_of_held_state`,
`send_of_some`, `close_of_some`, …), the invariant and the law for each call from those, and
the run by induction on the calls. Writes reach the device through the buffer, which closes
nothing (`Buffer.write_closes`), and a flush that succeeds leaves the buffer clean
(`Buffer.flush_clean`).
-/

namespace TelemetryBridge

namespace Serial

/-! ### Writes never close the device -/

@[simp] theorem Device.write_closes (d : Device) (p : Bytes) : (d.write p).1.closes = d.closes := by
  unfold Device.write
  -- the pair of the next answer and the rest of the script is taken apart, whatever it is
  split
  rfl

namespace Buffer

theorem flush_closes (b : Buffer) (d : Device) : (b.flush d).2.1.closes = d.closes := by
  unfold flush
  split
  · rfl
  · split
    · rfl
    · simp only
      split <;> simp

theorem spill_closes (fuel : Nat) (b : Buffer) (d : Device) (p : Bytes) :
    (spill fuel b d p).2.1.closes = d.closes := by
  induction fuel generalizing b d p with
  | zero => rfl
  | succ fuel ih =>
    unfold spill
    split
    · rfl
    · split
      · simp only [ih, Device.write_closes]
      · simp only [ih, flush_closes]

theorem write_closes (b : Buffer) (d : Device) (p : Bytes) : (b.write d p).2.1.closes = d.closes := by
  unfold write
  simp only
  split <;> simp [spill_closes]

/-- A flush that reports no failure leaves the buffer empty and clear of failure. -/
theorem flush_clean {b b' : Buffer} {d d' : Device} (h : b.flush d = (b', d', none)) :
    b'.held = [] ∧ b'.failure = none := by
  unfold flush at h
  split at h
  · cases h
  · next hf =>
    split at h
    · next he =>
      cases h
      exact ⟨List.isEmpty_iff.mp he, hf⟩
    · -- the device's answer: a failure is reported, so only the empty answer leaves `none`
      simp only at h
      split at h
      · simp at h
      · cases h
        exact ⟨rfl, rfl⟩

end Buffer

namespace Transport

variable {t : Transport} {l : Link} {disk : Disk}

/-! ### What each call does -/

/-- Opening while open or failed does nothing. -/
theorem open_of_held_state (h : t.state = .open ∨ t.state = .failed) : t.open l disk = (t, l, {}) := by
  unfold Transport.open
  rcases h with h | h <;> rw [h]

/-- Opening otherwise asks the opener once: the transport is open with an empty buffer when the
opener succeeds, and closed when it fails. -/
theorem open_of_not_held_state (h : ¬(t.state = .open ∨ t.state = .failed)) :
    (t.open l disk).2.1 = { l with opener := (l.opener.attempt disk t.settings).1 } ∧
      (t.open l disk).1 = if (l.opener.attempt disk t.settings).2.isSome then { t with state := .closed }
        else { t with state := .open, port := some {} } := by
  unfold Transport.open
  split
  · exact absurd (Or.inl ‹_›) h
  · exact absurd (Or.inr ‹_›) h
  · cases hf : (l.opener.attempt disk t.settings).2 <;> simp [hf]

/-- Sending with no port held fails as closed and changes nothing. -/
theorem send_of_none (h : t.port = none) (frame : Bytes) :
    t.send l frame = (t, l, ⟨some .portClosed, []⟩) := by
  unfold send
  rw [h]

/-- Sending with a port held writes to the device only, and leaves the transport failed with an
empty buffer, or open with a clean one. -/
theorem send_of_some {b : Buffer} (h : t.port = some b) (frame : Bytes) :
    ∃ d b', (t.send l frame).2.1 = { l with device := d } ∧ d.closes = l.device.closes ∧
      ((t.send l frame).1 = { t with state := .failed, port := some {} } ∨
        (t.send l frame).1 = { t with state := .open, port := some b' } ∧
          b'.held = [] ∧ b'.failure = none) := by
  have hw := Buffer.write_closes b l.device frame
  unfold send
  rw [h]
  dsimp only
  generalize b.write l.device frame = w at hw
  obtain ⟨b1, d1, f1⟩ := w
  cases f1 with
  | some f => exact ⟨d1, {}, rfl, hw, Or.inl rfl⟩
  | none =>
    have hf := Buffer.flush_closes b1 d1
    have hc : ∀ b' d', b1.flush d1 = (b', d', none) → b'.held = [] ∧ b'.failure = none :=
      fun _ _ h => Buffer.flush_clean h
    generalize b1.flush d1 = v at hf hc
    obtain ⟨b2, d2, f2⟩ := v
    cases f2 with
    | some f => exact ⟨d2, {}, rfl, hf.trans hw, Or.inl rfl⟩
    | none => exact ⟨d2, b2, rfl, hf.trans hw, Or.inr ⟨rfl, hc _ _ rfl⟩⟩

/-- Closing with no port held only marks the transport closed. -/
theorem close_of_none (h : t.port = none) : t.close l = ({ t with state := .closed }, l, {}) := by
  unfold close
  rw [h]

/-- Closing with a port held releases it and closes the device once. -/
theorem close_of_some {b : Buffer} (h : t.port = some b) :
    (t.close l).1 = { t with state := .closed, port := none } ∧
      (t.close l).2.1 = { l with device := { l.device with closes := l.device.closes + 1 } } := by
  unfold close
  rw [h]
  simp only [Device.close]
  split <;> exact ⟨rfl, rfl⟩

/-! ### The state between calls -/

/-- **A transport between calls**: never opening, holding a port exactly when open or failed,
and the buffer of a held port empty with no failure kept. -/
structure Settled (t : Transport) : Prop where
  not_opening : t.state ≠ .opening
  held_iff : t.port.isSome ↔ t.state = .open ∨ t.state = .failed
  clean : ∀ b, t.port = some b → b.held = [] ∧ b.failure = none

theorem settled_create (s : Settings) : (create s).Settled :=
  ⟨by simp [create], by simp [create], by simp [create]⟩

theorem Settled.open (h : t.Settled) : (t.open l disk).1.Settled := by
  by_cases hs : t.state = .open ∨ t.state = .failed
  · rw [open_of_held_state hs]
    exact h
  · -- no port is held, so a failed attempt leaves the transport closed and empty
    have hnone : t.port = none := by
      cases hp : t.port
      · rfl
      · exact absurd (h.held_iff.mp (by simp [hp])) hs
    rw [(open_of_not_held_state hs).2]
    split
    · exact ⟨by simp, by simp [hnone], by simp [hnone]⟩
    · refine ⟨by simp, by simp, ?_⟩
      intro b hb
      cases hb
      exact ⟨rfl, rfl⟩

theorem Settled.send (h : t.Settled) (frame : Bytes) : (t.send l frame).1.Settled := by
  cases hp : t.port with
  | none =>
    rw [send_of_none hp]
    exact h
  | some b =>
    obtain ⟨d, b', -, -, hfail | ⟨hok, hheld, hfailure⟩⟩ := send_of_some (l := l) hp frame
    · rw [hfail]
      refine ⟨by simp, by simp, ?_⟩
      intro b hb
      cases hb
      exact ⟨rfl, rfl⟩
    · rw [hok]
      refine ⟨by simp, by simp, ?_⟩
      intro c hc
      cases hc
      exact ⟨hheld, hfailure⟩

/-- Closing settles any transport: it holds no port afterwards. -/
theorem settled_close (t : Transport) (l : Link) : (t.close l).1.Settled := by
  cases hp : t.port with
  | none =>
    rw [close_of_none hp]
    exact ⟨by simp, by simp [hp], by simp [hp]⟩
  | some b =>
    rw [(close_of_some hp).1]
    exact ⟨by simp, by simp, by simp⟩

theorem Settled.perform (h : t.Settled) (c : Call) : (t.perform l disk c).1.Settled := by
  cases c with
  | «open» => exact h.open
  | send frame => exact h.send frame
  | close => exact settled_close t l

/-! ### What a call does to the opener and the device -/

/-- **What a call may do to the outside world.** With a port held, it leaves the opener alone and
either keeps the port, without closing the device, or releases it after closing the device once
and writing nothing. With no port held, it leaves the device alone, and a port is held after it
only when the opener was asked once and succeeded. -/
structure PortLaw (disk : Disk) (t : Transport) (l : Link) (t' : Transport) (l' : Link) : Prop where
  held : t.port.isSome → l'.opener = l.opener ∧
    (t'.port.isSome ∧ l'.device.closes = l.device.closes ∨
      t'.port = none ∧ l'.device = { l.device with closes := l.device.closes + 1 })
  idle : t.port = none → l'.device = l.device
  acquired : t.port = none → t'.port.isSome → l.opener.attempt disk t.settings = (l'.opener, none)

theorem portLaw_open (h : t.Settled) : PortLaw disk t l (t.open l disk).1 (t.open l disk).2.1 := by
  by_cases hs : t.state = .open ∨ t.state = .failed
  · -- a port is held, and opening does nothing
    rw [open_of_held_state hs]
    have hp : t.port.isSome := h.held_iff.mpr hs
    refine ⟨fun _ => ⟨rfl, Or.inl ⟨hp, rfl⟩⟩, fun hn => by simp [hn] at hp, fun hn => by simp [hn] at hp⟩
  · obtain ⟨hl, ht⟩ := @open_of_not_held_state t l disk hs
    rw [hl, ht]
    refine ⟨fun hp => absurd (h.held_iff.mp hp) hs, fun _ => rfl, fun hnone hheld => ?_⟩
    -- the transport holds a port after the call only when the attempt reported no failure
    split at hheld
    · simp [hnone] at hheld
    · next hf =>
      have : (l.opener.attempt disk t.settings).2 = none := by simpa using hf
      exact Prod.ext rfl this

theorem portLaw_send (t : Transport) (l : Link) (frame : Bytes) :
    PortLaw disk t l (t.send l frame).1 (t.send l frame).2.1 := by
  cases hp : t.port with
  | none =>
    rw [send_of_none hp]
    exact ⟨fun h => by simp [hp] at h, fun _ => rfl, fun _ h => by simp [hp] at h⟩
  | some b =>
    -- a port is held, and stays held whether the writes fail or not
    have hnot : t.port ≠ none := by simp [hp]
    obtain ⟨d, b', hl, hd, hfail | ⟨hok, -, -⟩⟩ := send_of_some (l := l) hp frame
    · exact ⟨fun _ => ⟨by rw [hl], Or.inl ⟨by rw [hfail]; rfl, by rw [hl]; exact hd⟩⟩,
        fun h => absurd h hnot, fun h => absurd h hnot⟩
    · exact ⟨fun _ => ⟨by rw [hl], Or.inl ⟨by rw [hok]; rfl, by rw [hl]; exact hd⟩⟩,
        fun h => absurd h hnot, fun h => absurd h hnot⟩

theorem portLaw_close (t : Transport) (l : Link) : PortLaw disk t l (t.close l).1 (t.close l).2.1 := by
  cases hp : t.port with
  | none =>
    rw [close_of_none hp]
    exact ⟨fun h => by simp [hp] at h, fun _ => rfl, fun _ h => by simp [hp] at h⟩
  | some b =>
    have hnot : t.port ≠ none := by simp [hp]
    obtain ⟨ht, hl⟩ := close_of_some (l := l) hp
    rw [ht, hl]
    exact ⟨fun _ => ⟨rfl, Or.inr ⟨rfl, rfl⟩⟩, fun h => absurd h hnot, fun h => absurd h hnot⟩

theorem portLaw_perform (h : t.Settled) (c : Call) :
    PortLaw disk t l (t.perform l disk c).1 (t.perform l disk c).2.1 := by
  cases c with
  | «open» => exact portLaw_open h
  | send frame => exact portLaw_send t l frame
  | close => exact portLaw_close t l

/-! ### Runs of calls -/

/-- Makes calls one after another: the transport and the link after them. -/
def performAll (t : Transport) (l : Link) (disk : Disk) : List Call → Transport × Link
  | [] => (t, l)
  | c :: cs => (t.perform l disk c).1.performAll (t.perform l disk c).2.1 disk cs

theorem Settled.performAll (h : t.Settled) (cs : List Call) : (t.performAll l disk cs).1.Settled := by
  -- induction on the calls; each call keeps the transport settled
  induction cs generalizing t l with
  | nil => exact h
  | cons c cs ih => exact ih (h.perform c)

/-- **The serial transport's lifecycle.** After any calls on a new transport, whatever the opener
answers and however the device takes writes and closes: the transport is settled (never opening,
a port held exactly when open or failed, nothing buffered and no failure kept), the next call
obeys the port law (the opener is asked only with no port held, and every port it gives is
closed at most once and written to only before that), opening while open or failed does nothing,
and sending with no port held fails as closed and changes nothing. -/
theorem lifecycle (s : Settings) (l : Link) (disk : Disk) (calls : List Call) :
    let t := ((create s).performAll l disk calls).1
    let l' := ((create s).performAll l disk calls).2
    t.Settled ∧
      (∀ c, PortLaw disk t l' (t.perform l' disk c).1 (t.perform l' disk c).2.1) ∧
      ((t.state = .open ∨ t.state = .failed) → t.open l' disk = (t, l', {})) ∧
      (t.port = none → ∀ frame, t.send l' frame = (t, l', ⟨some .portClosed, []⟩)) := by
  intro t l'
  have hs : t.Settled := (settled_create s).performAll calls
  exact ⟨hs, portLaw_perform hs, open_of_held_state, send_of_none⟩

end Transport

end Serial

end TelemetryBridge
