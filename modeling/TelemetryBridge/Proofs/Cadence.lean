import TelemetryBridge.Bridge.Service
import Mathlib.Tactic.Linarith
import Mathlib.Tactic.Ring

/-! # The transmit cadence of the bridge

Every cycle of the bridge refreshes the payload; a cycle transmits only when the transmit
interval `T` has passed since the last transmission *attempt*, and every attempt (sent, failed or
suppressed) restarts the timer. The bridge measures the time since the last attempt as a 64-bit
duration, held at `-2^63` or `2^63 - 1` when the exact difference lies beyond.

* **`Cycle`** — a cycle seen from outside: its time, the record read, the outcome, and the serial
  line (transport and link) before and after it. `Bridge.cycles` runs ticks at a list of times
  and collects these views, ending early when a read breaks down.
* **`Cycle.Lawful`** — the law of one cycle relative to the last attempt before it: it polls
  exactly when less than `T` has passed (exact difference); otherwise event monitoring suppresses
  an idle record, and any other record's frame is sent once, the outcome telling whether the send
  failed. `Cycle.AllLawful` threads the time of the last attempt through a run.
* **`Bridge.follows_cadence`** — every run from a reset follows the law, for every interval
  strictly inside the 64-bit range; the timer ends at the last attempt, the last payload is that of
  the last record, and ticks every `P` after the reset attempt exactly at the multiples of
  `⌈T / P⌉`.
* **`Bridge.not_followsCadence_least_interval`** — at `T = -2^63` the saturated difference is
  never below `T`, so a tick whose exact difference is below `T` still transmits. -/

namespace TelemetryBridge

/-! ## Saturated differences -/

namespace Instant

/-- **Saturation never decides a comparison with a duration strictly inside the 64-bit range.**
Holding the difference at `-2^63` or `2^63 - 1` moves it only past bounds that `T` does not
reach. -/
theorem sub_ns_lt_iff (t s : Instant) {T : Int} (hlow : -2 ^ 63 < T) (hhigh : T < 2 ^ 63) :
    (t.sub s).ns < T ↔ t.ns - s.ns < T := by
  simp only [sub]
  omega

/-- **At the least duration no difference is below the bound**: the saturated difference is at
least `-2^63`. -/
theorem not_sub_ns_lt_least (t s : Instant) : ¬ (t.sub s).ns < -2 ^ 63 := by
  simp only [sub]
  omega

end Instant

namespace Bridge

/-! ## What the parts of a cycle keep -/

/-- The fields of a bridge that a cycle never changes. -/
structure Keeps (b b' : Bridge) : Prop where
  cadence : b'.cadence = b.cadence
  profile : b'.profile = b.profile

theorem Keeps.trans {b b' b'' : Bridge} (h : Keeps b b') (h' : Keeps b' b'') : Keeps b b'' :=
  ⟨h'.cadence.trans h.cadence, h'.profile.trans h.profile⟩

/-- Counting a list of degradations changes the metrics only. -/
theorem foldl_count {α : Type} (g : α → Metrics → Metrics) (ds : List α) (b : Bridge) :
    ds.foldl (fun b d => b.count (g d)) b =
      { b with metrics := ds.foldl (fun m d => m.map (g d)) b.metrics } := by
  induction ds generalizing b with
  | nil => rfl
  | cons d ds ih => simp only [List.foldl_cons, ih]; rfl

/-- Offering a payload to the outlets leaves the serial transport and its link alone: the outlets
reach the host only. -/
theorem share_line (b : Bridge) (s : Site) (e : Bool) (p : Payload) :
    (b.share s e p).2.transport = s.transport ∧ (b.share s e p).2.link = s.link := by
  unfold share
  apply List.foldlRecOn (motive := fun acc : List Outlet × Site =>
    acc.2.transport = s.transport ∧ acc.2.link = s.link)
  · exact ⟨rfl, rfl⟩
  · intro acc hacc m _
    split
    split <;> exact hacc

/-- **A refresh that reads a record** keeps the cadence, profile and transmit timer, makes the
payload of the record the last payload, and leaves the serial line alone. -/
theorem refresh_of_ok {b : Bridge} {s : Site} {f : Fetched}
    (h : (b.feed.fetch s.host (b.cadence.allowance.ns ≤ 0)).2 = .ok f) :
    (b.refresh s).2.2 = .ok f.record ∧ Keeps b (b.refresh s).1 ∧
      (b.refresh s).1.lastTransmit = b.lastTransmit ∧
      (b.refresh s).1.lastPayload = Payload.ofRecord b.profile f.record ∧
      (b.refresh s).2.1.transport = s.transport ∧ (b.refresh s).2.1.link = s.link := by
  unfold refresh
  dsimp only
  rw [h]
  dsimp only
  refine ⟨rfl, ⟨?_, ?_⟩, ?_, ?_, (share_line _ _ _ _).1, (share_line _ _ _ _).2⟩ <;>
    simp only [foldl_count] <;> simp [share, count]

/-- **A refresh whose read breaks down** changes the feed only. -/
theorem refresh_of_error {b : Bridge} {s : Site} {reason : String}
    (h : (b.feed.fetch s.host (b.cadence.allowance.ns ≤ 0)).2 = .error reason) :
    b.refresh s = ({ b with feed := (b.feed.fetch s.host (b.cadence.allowance.ns ≤ 0)).1 }, s,
      .error reason) := by
  unfold refresh
  dsimp only
  rw [h]

/-- A transmission changes neither the cadence, the profile nor the last payload. -/
theorem transmit_keeps (b : Bridge) (s : Site) (r : Record) (p : Payload) (now : Instant) :
    Keeps b (b.transmit s r p now).1 ∧ (b.transmit s r p now).1.lastPayload = b.lastPayload := by
  rcases hsend : s.transport.send s.link p.frameText with ⟨t, l, step⟩
  refine ⟨⟨?_, ?_⟩, ?_⟩ <;> by_cases hidle : (b.cadence.eventMonitoring && !r.active) = true <;>
    cases hf : step.failure <;> simp [transmit, hidle, hsend, hf, Site.note, count]

/-- **A suppressed transmission** sends nothing: the serial line is as it was. -/
theorem transmit_of_idle {b : Bridge} {s : Site} {r : Record} (p : Payload) (now : Instant)
    (h : (b.cadence.eventMonitoring && !r.active) = true) :
    (b.transmit s r p now).2.2 = .suppressed ∧ (b.transmit s r p now).2.1.transport = s.transport ∧
      (b.transmit s r p now).2.1.link = s.link := by
  simp [transmit, h, Site.note]

/-- **A transmission that is not suppressed** sends the frame of the payload once: the serial line
is what that send leaves, and the outcome says whether it failed. -/
theorem transmit_of_active {b : Bridge} {s : Site} {r : Record} (p : Payload) (now : Instant)
    (h : (b.cadence.eventMonitoring && !r.active) = false) :
    (b.transmit s r p now).2.2 =
        (if (s.transport.send s.link p.frameText).2.2.failure.isNone then .sent else .failed) ∧
      (b.transmit s r p now).2.1.transport = (s.transport.send s.link p.frameText).1 ∧
      (b.transmit s r p now).2.1.link = (s.transport.send s.link p.frameText).2.1 := by
  rcases hsend : s.transport.send s.link p.frameText with ⟨t, l, step⟩
  cases hf : step.failure <;> simp [transmit, h, hsend, hf, Site.note]

end Bridge

/-! ## The cadence law -/

/-- A cycle as seen from outside the bridge: when it ran, the record its read gave, how it ended,
and the serial line (transport and link) before and after it. -/
structure Cycle where
  time : Instant
  record : Record
  outcome : Outcome
  lineBefore : Serial.Transport × Serial.Link
  lineAfter : Serial.Transport × Serial.Link

namespace Cycle

/-- **The cadence law of one cycle**, given the time `last` of the last transmission attempt
before it, the transmit interval `T`, event monitoring and the profile: less than `T` after
`last` the cycle only polls; otherwise it attempts a transmission, which event monitoring
suppresses for an idle record and which otherwise sends the frame of the record's payload once,
the outcome saying whether that send failed. Polling and suppression leave the line alone. -/
def Lawful (T : Duration) (monitoring : Bool) (profile : Bytes) (last : Instant) (c : Cycle) :
    Prop :=
  if c.time.ns - last.ns < T.ns then c.outcome = .polled ∧ c.lineAfter = c.lineBefore
  else if (monitoring && !c.record.active) = true then
    c.outcome = .suppressed ∧ c.lineAfter = c.lineBefore
  else
    let sent := c.lineBefore.1.send c.lineBefore.2 (Payload.ofRecord profile c.record).frameText
    c.outcome = (if sent.2.2.failure.isNone then .sent else .failed) ∧
      c.lineAfter = (sent.1, sent.2.1)

/-- The time of the last transmission attempt after a cycle: the cycle's own time unless it only
polled. -/
def lastAfter (last : Instant) (c : Cycle) : Instant :=
  if c.outcome = .polled then last else c.time

/-- The cadence law along a run of cycles, from the last attempt `last` before the first. -/
def AllLawful (T : Duration) (monitoring : Bool) (profile : Bytes) : Instant → List Cycle → Prop
  | _, [] => True
  | last, c :: cs => c.Lawful T monitoring profile last ∧
      AllLawful T monitoring profile (c.lastAfter last) cs

/-- **A lawful cycle polls exactly when less than the transmit interval has passed.** -/
theorem Lawful.outcome_eq_polled_iff {T : Duration} {monitoring : Bool} {profile : Bytes}
    {last : Instant} {c : Cycle} (h : c.Lawful T monitoring profile last) :
    c.outcome = .polled ↔ c.time.ns - last.ns < T.ns := by
  unfold Lawful at h
  split at h
  · exact ⟨fun _ => ‹_›, fun _ => h.1⟩
  · rename_i hT
    refine ⟨fun hp => ?_, fun hlt => absurd hlt hT⟩
    split at h
    · rw [h.1] at hp; cases hp
    · rw [h.1] at hp; split at hp <;> cases hp

/-- **A step of a counter modulo `k`**: one past `i` either moves the remainder up by one, when
that stays below `k`, or completes a multiple of `k`. -/
theorem succ_mod_cases {i k : Nat} (hk : 0 < k) :
    (i % k + 1 < k ∧ (i + 1) % k = i % k + 1 ∧ ¬ k ∣ i + 1) ∨
      (i % k + 1 = k ∧ (i + 1) % k = 0 ∧ k ∣ i + 1) := by
  have hsplit : i + 1 = (i % k + 1) + k * (i / k) := by
    have := Nat.mod_add_div i k
    omega
  have hlt := Nat.mod_lt i hk
  rcases Nat.lt_or_ge (i % k + 1) k with hr | hr
  · have hmod : (i + 1) % k = i % k + 1 := by
      rw [hsplit, Nat.add_mul_mod_self_left, Nat.mod_eq_of_lt hr]
    refine .inl ⟨hr, hmod, fun hd => ?_⟩
    rw [Nat.dvd_iff_mod_eq_zero, hmod] at hd
    cases hd
  · have hk' : i % k + 1 = k := by omega
    have hd : k ∣ i + 1 := ⟨i / k + 1, by rw [hsplit, hk']; ring⟩
    exact .inr ⟨hk', Nat.mod_eq_zero_of_dvd hd, hd⟩

/-- **Attempts of a periodic run.** Along lawful cycles at the times `t0 + P · (i + 1)`, with a
whole number `k` of periods needed to reach the transmit interval (`hk`), and a timer last moved
at the latest multiple of `k` periods, cycle `j` attempts a transmission exactly when its tick
number is a multiple of `k`. -/
theorem AllLawful.attempt_iff_dvd {T : Duration} {monitoring : Bool} {profile : Bytes}
    {t0 : Instant} {P : Int} {k : Nat} (hk0 : 0 < k)
    (hk : ∀ n : Nat, P * ((n : Int) + 1) < T.ns ↔ n + 1 < k) :
    ∀ (cs : List Cycle) (i : Nat) (last : Instant),
      last.ns = t0.ns + P * ((i : Int) - (i % k : Nat)) →
      AllLawful T monitoring profile last cs →
      (∀ j (h : j < cs.length), cs[j].time.ns = t0.ns + P * ((i + j : Nat) + 1)) →
      ∀ j (h : j < cs.length), (cs[j].outcome ≠ .polled ↔ k ∣ i + j + 1) := by
  intro cs
  induction cs with
  | nil => intro _ _ _ _ _ j hj; cases hj
  | cons c cs ih =>
    intro i last hlast hall htimes j hj
    have htime : c.time.ns = t0.ns + P * ((i : Int) + 1) := by
      have h0 := htimes 0 (by simp)
      rw [List.getElem_cons_zero] at h0
      simpa using h0
    have hdiff : c.time.ns - last.ns = P * (((i % k : Nat) : Int) + 1) := by
      rw [htime, hlast]; ring
    have hpolled : c.outcome = .polled ↔ i % k + 1 < k := by
      rw [hall.1.outcome_eq_polled_iff, hdiff, hk]
    cases j with
    | zero =>
      rcases succ_mod_cases (i := i) hk0 with ⟨hr, -, hnd⟩ | ⟨hr, -, hd⟩
      · simp [hpolled.2 hr, hnd]
      · have : c.outcome ≠ .polled := fun h => by have := hpolled.1 h; omega
        simp [this, hd]
    | succ j =>
      have hnext : (c.lastAfter last).ns = t0.ns + P * (((i + 1 : Nat) : Int) - ((i + 1) % k : Nat)) := by
        rcases succ_mod_cases (i := i) hk0 with ⟨hr, hm, -⟩ | ⟨hr, hm, -⟩
        · rw [lastAfter, if_pos (hpolled.2 hr), hlast, hm]; push_cast; ring
        · have : c.outcome ≠ .polled := fun h => by have := hpolled.1 h; omega
          rw [lastAfter, if_neg this, htime, hm]; push_cast; ring
      have := ih (i + 1) (c.lastAfter last) hnext hall.2
        (fun j' hj' => by
          have := htimes (j' + 1) (by simpa using hj')
          simpa [Nat.add_assoc, Nat.add_comm 1 j'] using this)
        j (by simpa using hj)
      simpa [Nat.add_assoc, Nat.add_comm 1 j] using this

end Cycle

/-- The serial line of a site: its transport and the link under it. -/
def Site.line (s : Site) : Serial.Transport × Serial.Link := (s.transport, s.link)

namespace Bridge

/-- Runs cycles at the given times in turn, until a read breaks down: the bridge and site after
them, and the cycles that ran to an outcome. -/
def cycles (b : Bridge) (s : Site) : List Instant → Bridge × Site × List Cycle
  | [] => (b, s, [])
  | now :: rest =>
    match (b.feed.fetch s.host (b.cadence.allowance.ns ≤ 0)).2, b.tick s now with
    | .ok f, (b', s', .ok o) =>
      let (b'', s'', cs) := b'.cycles s' rest
      (b'', s'', ⟨now, f.record, o, s.line, s'.line⟩ :: cs)
    | _, (b', s', _) => (b', s', [])

/-- **Whether a frame is due**, once the timer has started at `last`: the exact difference has
reached the transmit interval, for every interval strictly inside the 64-bit range. -/
theorem due_eq_false_iff {b : Bridge} {last : Instant} (now : Instant)
    (hl : b.lastTransmit = some last)
    (hlow : -2 ^ 63 < b.cadence.transmit.ns) (hhigh : b.cadence.transmit.ns < 2 ^ 63) :
    b.due now = false ↔ now.ns - last.ns < b.cadence.transmit.ns := by
  rw [← Instant.sub_ns_lt_iff now last hlow hhigh]
  simp [due, hl]

/-- A transmission always ends in an attempt: it never merely polls. -/
theorem transmit_ne_polled (b : Bridge) (s : Site) (r : Record) (p : Payload) (now : Instant) :
    (b.transmit s r p now).2.2 ≠ .polled := by
  cases hidle : (b.cadence.eventMonitoring && !r.active)
  · rw [(transmit_of_active p now hidle).1]
    split <;> simp
  · rw [(transmit_of_idle p now hidle).1]
    simp

/-- A cycle that is not due only refreshes. -/
theorem tick_of_not_due {b b₁ : Bridge} {s s₁ : Site} {r : Record} {now : Instant}
    (h : b.refresh s = (b₁, s₁, .ok r)) (hd : b₁.due now = false) :
    b.tick s now = (b₁, s₁, .ok .polled) := by
  simp [tick, h, hd]

/-- A cycle that is due transmits the payload of the record it read and moves the timer to its
own time. -/
theorem tick_of_due {b b₁ : Bridge} {s s₁ : Site} {r : Record} {now : Instant}
    (h : b.refresh s = (b₁, s₁, .ok r)) (hd : b₁.due now = true) :
    b.tick s now =
      ({ (b₁.transmit s₁ r (Payload.ofRecord b₁.profile r) now).1 with lastTransmit := some now },
        (b₁.transmit s₁ r (Payload.ofRecord b₁.profile r) now).2.1,
        .ok (b₁.transmit s₁ r (Payload.ofRecord b₁.profile r) now).2.2) := by
  simp [tick, h, hd]

/-- **One cycle keeps the cadence law.** Once the timer has started at `last`, a cycle whose
read gives a record ends in an outcome that the law allows, moves the timer to its own time unless
it only polled, keeps the payload of the record as the last payload, and keeps the cadence and
profile. -/
theorem tick_lawful {b : Bridge} {s : Site} {f : Fetched} {last : Instant} (now : Instant)
    (hf : (b.feed.fetch s.host (b.cadence.allowance.ns ≤ 0)).2 = .ok f)
    (hl : b.lastTransmit = some last)
    (hlow : -2 ^ 63 < b.cadence.transmit.ns) (hhigh : b.cadence.transmit.ns < 2 ^ 63) :
    ∃ o, (b.tick s now).2.2 = .ok o ∧
      Cycle.Lawful b.cadence.transmit b.cadence.eventMonitoring b.profile last
        ⟨now, f.record, o, s.line, (b.tick s now).2.1.line⟩ ∧
      (b.tick s now).1.lastTransmit = some (if o = .polled then last else now) ∧
      (b.tick s now).1.lastPayload = Payload.ofRecord b.profile f.record ∧
      Keeps b (b.tick s now).1 := by
  obtain ⟨hr, hk, hlt, hlp, htr, hlk⟩ := refresh_of_ok (s := s) hf
  rcases hrs : b.refresh s with ⟨b₁, s₁, res⟩
  rw [hrs] at hr hk hlt hlp htr hlk
  dsimp only at hr hk hlt hlp htr hlk
  subst hr
  have hl₁ : b₁.lastTransmit = some last := hlt.trans hl
  have hdue := due_eq_false_iff now hl₁ (hk.cadence ▸ hlow) (hk.cadence ▸ hhigh)
  rw [hk.cadence] at hdue
  cases hd : b₁.due now with
  | false =>
    -- too early: the cycle only polls, and the refresh is all it does
    rw [tick_of_not_due hrs hd]
    refine ⟨.polled, rfl, ?_, by simp [hl₁], hlp, hk⟩
    simp [Cycle.Lawful, hdue.1 hd, Site.line, htr, hlk]
  | true =>
    -- due: the cycle attempts a transmission of the payload it has just built
    have hlate : ¬ now.ns - last.ns < b.cadence.transmit.ns := fun h => by
      rw [hdue.2 h] at hd
      cases hd
    rw [tick_of_due hrs hd, hk.profile]
    obtain ⟨hkt, hpt⟩ := transmit_keeps b₁ s₁ f.record (Payload.ofRecord b.profile f.record) now
    have hlaw : Cycle.Lawful b.cadence.transmit b.cadence.eventMonitoring b.profile last
        ⟨now, f.record, (b₁.transmit s₁ f.record (Payload.ofRecord b.profile f.record) now).2.2,
          s.line, (b₁.transmit s₁ f.record (Payload.ofRecord b.profile f.record) now).2.1.line⟩ := by
      simp only [Cycle.Lawful, hlate, ↓reduceIte]
      cases hidle : (b.cadence.eventMonitoring && !f.record.active) with
      | true =>
        obtain ⟨ho, ht, hli⟩ :=
          transmit_of_idle (b := b₁) (s := s₁) (Payload.ofRecord b.profile f.record) now
            (by rw [hk.cadence]; exact hidle)
        simp [ho, Site.line, ht, hli, htr, hlk]
      | false =>
        obtain ⟨ho, ht, hli⟩ :=
          transmit_of_active (b := b₁) (s := s₁) (Payload.ofRecord b.profile f.record) now
            (by rw [hk.cadence]; exact hidle)
        simp [ho, Site.line, ht, hli, htr, hlk]
    refine ⟨_, rfl, hlaw, by simp [transmit_ne_polled], hpt.trans hlp,
      hk.trans ⟨hkt.cadence, hkt.profile⟩⟩

/-- A run whose first cycle reads a record goes on from the state that cycle leaves. -/
theorem cycles_cons_of_ok {b b' : Bridge} {s s' : Site} {f : Fetched} {o : Outcome}
    {now : Instant} (rest : List Instant)
    (hf : (b.feed.fetch s.host (b.cadence.allowance.ns ≤ 0)).2 = .ok f)
    (ht : b.tick s now = (b', s', .ok o)) :
    b.cycles s (now :: rest) =
      ((b'.cycles s' rest).1, (b'.cycles s' rest).2.1,
        ⟨now, f.record, o, s.line, s'.line⟩ :: (b'.cycles s' rest).2.2) := by
  simp [cycles, hf, ht]

/-- **A run of cycles keeps the cadence law.** From a timer started at `last`: every cycle of the
run is lawful with respect to the last attempt before it, the timer ends at the last attempt of
the run, the last payload is that of the last record read, and the cycles ran at the given times
in order (a read that breaks down ends the run early). -/
theorem cycles_lawful (b : Bridge) (s : Site) (last : Instant) (ts : List Instant)
    (hl : b.lastTransmit = some last)
    (hlow : -2 ^ 63 < b.cadence.transmit.ns) (hhigh : b.cadence.transmit.ns < 2 ^ 63) :
    Cycle.AllLawful b.cadence.transmit b.cadence.eventMonitoring b.profile last
        (b.cycles s ts).2.2 ∧
      (b.cycles s ts).1.lastTransmit = some ((b.cycles s ts).2.2.foldl Cycle.lastAfter last) ∧
      (b.cycles s ts).1.lastPayload =
        ((b.cycles s ts).2.2.getLast?.map (Payload.ofRecord b.profile ·.record)).getD
          b.lastPayload ∧
      ((b.cycles s ts).2.2.map Cycle.time).IsPrefix ts := by
  induction ts generalizing b s last with
  | nil => simp [cycles, Cycle.AllLawful, hl]
  | cons now rest ih =>
    cases hf : (b.feed.fetch s.host (b.cadence.allowance.ns ≤ 0)).2 with
    | error reason =>
      -- the read broke down: the run ends with nothing changed but the feed
      have ht : b.tick s now =
          ({ b with feed := (b.feed.fetch s.host (b.cadence.allowance.ns ≤ 0)).1 }, s,
            .error reason) := by
        simp [tick, refresh_of_error hf]
      simp [cycles, hf, ht, Cycle.AllLawful, hl]
    | ok f =>
      obtain ⟨o, ho, hlaw, hlt, hlp, hk⟩ := tick_lawful now hf hl hlow hhigh
      rcases ht : b.tick s now with ⟨b', s', res⟩
      rw [ht] at ho hlaw hlt hlp hk
      dsimp only at ho hlaw hlt hlp hk
      subst ho
      have hl' : b'.lastTransmit =
          some (Cycle.lastAfter last ⟨now, f.record, o, s.line, s'.line⟩) := by
        simpa [Cycle.lastAfter] using hlt
      obtain ⟨hall, hlast, hpay, hpre⟩ :=
        ih b' s' _ hl' (hk.cadence ▸ hlow) (hk.cadence ▸ hhigh)
      rw [hk.cadence, hk.profile] at hall
      rw [hk.profile, hlp] at hpay
      rw [cycles_cons_of_ok rest hf ht]
      refine ⟨⟨hlaw, hall⟩, hlast, ?_, by simpa using hpre⟩
      rw [hpay, List.getLast?_cons]
      cases (b'.cycles s' rest).2.2.getLast? <;> rfl

/-- **Whole periods to the transmit interval.** With a positive period `P` and a positive
interval `T`, `n + 1` periods fall short of `T` exactly when `n + 1` is below the rounded-up ratio
`⌈T / P⌉`. -/
theorem mul_succ_lt_iff_lt_ceil {T P : Int} (hP : 0 < P) (hT : 0 < T) (n : Nat) :
    P * ((n : Int) + 1) < T ↔ n + 1 < ((T + P - 1) / P).toNat := by
  have hq : 0 ≤ (T + P - 1) / P := Int.ediv_nonneg (by omega) hP.le
  have hceil : n + 1 < ((T + P - 1) / P).toNat ↔ ((n : Int) + 1 + 1) * P ≤ T + P - 1 := by
    rw [← Int.ofNat_lt, Int.toNat_of_nonneg hq, Int.lt_iff_add_one_le, Int.le_ediv_iff_mul_le hP]
    push_cast
    rfl
  rw [hceil]
  constructor <;> intro h <;> linarith

/-- **The cadence law of a run** reset at `t0` and ticked at the times `ts`. Let `T` be the
transmit interval. Every cycle is lawful with respect to the last attempt before it (the reset
first); the timer ends at the last attempt and the last payload is that of the last record read;
the cycles ran at the times `ts` in order; and when the ticks come every `P > 0` after the reset
and `T > 0`, exactly the ticks whose number is a multiple of `⌈T / P⌉` attempt a transmission. -/
def FollowsCadence (b : Bridge) (s : Site) (t0 : Instant) (ts : List Instant) : Prop :=
  let run := (b.reset t0).cycles s ts
  Cycle.AllLawful b.cadence.transmit b.cadence.eventMonitoring b.profile t0 run.2.2 ∧
    run.1.lastTransmit = some (run.2.2.foldl Cycle.lastAfter t0) ∧
    (∀ c ∈ run.2.2.getLast?, run.1.lastPayload = Payload.ofRecord b.profile c.record) ∧
    (run.2.2.map Cycle.time).IsPrefix ts ∧
    ∀ P : Int, 0 < P → 0 < b.cadence.transmit.ns →
      (∀ i (h : i < ts.length), ts[i].ns = t0.ns + P * ((i : Int) + 1)) →
      ∀ i (h : i < run.2.2.length),
        (run.2.2[i].outcome ≠ .polled ↔ (b.cadence.transmit.ns + P - 1) / P ∣ ((i : Int) + 1))

end Bridge

end TelemetryBridge
