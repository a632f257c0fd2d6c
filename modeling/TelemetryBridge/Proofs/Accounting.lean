import TelemetryBridge.Proofs.Cadence
import TelemetryBridge.Proofs.Utf8Text

/-! # What the bridge counts

The bridge reports itself twice: through its metrics (reads, frames sent, failed sends,
suppressed transmissions) and through its status board (counters of frames and failures, the
last frame, the last payload). This file shows that both keep exact accounts of every run.

* **`Cycle.tally`** — how many cycles of a run ended in an outcome.
* **`Slot.counterOf`** — a board counter after `k` increments: absent at zero, and `k` held as a
  signed 64-bit integer otherwise, which is `k` itself for fewer than `2^63` increments.
* **`Accounted`** — the accounts a bridge's metrics and board keep of a run of cycles.
* **`Bridge.tick_observed`** — what one cycle counts, by its outcome: the inversion lemma every
  later step uses, so no proof unfolds a cycle again.
* **`Accounted.tick`**, **`Accounted.cycles`** — one cycle keeps the accounts, hence a run does.
* **`Bridge.run_accounted`** — a bridge given fresh metrics and an empty board accounts for every
  run, whatever its feed, outlets and serial line.

Board names are told apart through their text (`Bytes.ofString_inj`), and a board lookup after a
write is computed once (`StatusBoard.get?_set`).
-/

namespace TelemetryBridge

/-! ## The status board -/

/-- Board names the bridge writes are told apart by their text. -/
theorem Bytes.ofString_ne {s t : String} (h : s ≠ t) : Bytes.ofString s ≠ Bytes.ofString t :=
  fun e => h (Bytes.ofString_inj.mp e)

namespace StatusBoard

/-- Dropping the slots under a name leaves none under it, and finds under any other name what
was found before. -/
theorem find?_filter_name (l : List (Bytes × Slot)) (k k' : Bytes) :
    (l.filter (·.1 != k)).find? (·.1 == k') = if k' = k then none else l.find? (·.1 == k') := by
  induction l with
  | nil => simp
  | cons e l ih =>
    by_cases he : e.1 = k
    · rw [List.filter_cons_of_neg (by simp [he]), ih]
      by_cases h : k' = k
      · simp [h]
      · simp [he, h, Ne.symm h]
    · rw [List.filter_cons_of_pos (by simp [he]), List.find?_cons, ih]
      by_cases h : k' = k
      · subst h
        simp [show (e.1 == k') = false by simpa using he]
      · by_cases hk : e.1 = k'
        · simp [hk, h]
        · simp [show (e.1 == k') = false by simpa using hk, h]

theorem get?_set (B : StatusBoard) (k k' : Bytes) (v : Slot) :
    (B.set k v).get? k' = if k' = k then some v else B.get? k' := by
  unfold get? set
  rw [List.find?_append, find?_filter_name]
  by_cases h : k' = k
  · simp [h]
  · simp [h, Ne.symm h]

/-- Incrementing a name leaves every other name as it was. -/
theorem get?_increment_ne (B : StatusBoard) {k k' : Bytes} (h : k' ≠ k) :
    (B.increment k).get? k' = B.get? k' := by
  unfold increment
  split <;> rw [get?_set, if_neg h]

end StatusBoard

/-! ## Counters that count in 64 bits -/

/-- **A board counter after `k` increments** of a name that held nothing: absent while `k` is
zero, and otherwise `k` as a signed 64-bit integer, which is `k` itself below `2^63`. -/
def Slot.counterOf (k : Nat) : Option Slot :=
  if k = 0 then none else some (.count (Int.bmod k (2 ^ 64)))

example : Slot.counterOf (2 ^ 63) = some (.count (-2 ^ 63)) := rfl

/-- One more than a count held in 64 bits is the next count held in 64 bits. -/
theorem Slot.successor_bmod (k : Nat) :
    Slot.successor (Int.bmod k (2 ^ 64)) = Int.bmod (k + 1 : Nat) (2 ^ 64) := by
  simp only [Slot.successor, countLimit, Int.bmod]
  split_ifs <;> omega

theorem StatusBoard.get?_increment_counterOf (B : StatusBoard) {k : Bytes} {n : Nat}
    (h : B.get? k = Slot.counterOf n) : (B.increment k).get? k = Slot.counterOf (n + 1) := by
  unfold StatusBoard.increment
  cases n with
  | zero =>
    rw [Slot.counterOf, if_pos rfl] at h
    rw [h, StatusBoard.get?_set, if_pos rfl]
    rfl
  | succ n =>
    rw [Slot.counterOf, if_neg (Nat.add_one_ne_zero n)] at h
    rw [h, StatusBoard.get?_set, if_pos rfl, Slot.successor_bmod]
    simp [Slot.counterOf]

/-! ## Counting outcomes -/

namespace Cycle

/-- How many cycles of a run ended in an outcome. -/
def tally (o : Outcome) (cs : List Cycle) : Nat := cs.countP fun c => decide (c.outcome = o)

@[simp] theorem tally_nil (o : Outcome) : tally o [] = 0 := rfl

@[simp] theorem tally_append (o : Outcome) (cs cs' : List Cycle) :
    tally o (cs ++ cs') = tally o cs + tally o cs' :=
  List.countP_append

@[simp] theorem tally_singleton (o : Outcome) (c : Cycle) :
    tally o [c] = if c.outcome = o then 1 else 0 := by
  simp [tally, List.countP_cons]

/-- **Every attempt ends in one of three ways**: the cycles that sent, failed and were
suppressed are together the cycles that did more than poll. -/
theorem tally_attempts (cs : List Cycle) :
    tally .sent cs + tally .failed cs + tally .suppressed cs =
      cs.countP fun c => decide (c.outcome ≠ .polled) := by
  induction cs with
  | nil => rfl
  | cons c cs ih =>
    rw [← List.singleton_append, tally_append, tally_append, tally_append, List.countP_append, ← ih]
    cases h : c.outcome <;> simp [h] <;> omega

end Cycle

/-! ## What one cycle counts -/

namespace Metrics

/-- Counting a degraded read moves the degraded counts only. -/
theorem observeDegraded_eq (m : Metrics) (kind : String) :
    m.observeDegraded kind = { m with degraded := (m.observeDegraded kind).degraded } := by
  unfold observeDegraded
  split <;> rfl

/-- Counting the degraded reads of a cycle moves the degraded counts only. -/
theorem foldl_observeDegraded (ds : List Degradation) (m : Metrics) :
    ∃ counts, ds.foldl (fun m d => m.observeDegraded d.kind) m = { m with degraded := counts } := by
  induction ds generalizing m with
  | nil => exact ⟨m.degraded, rfl⟩
  | cons d ds ih =>
    obtain ⟨counts, h⟩ := ih (m.observeDegraded d.kind)
    refine ⟨counts, ?_⟩
    rw [List.foldl_cons, h, observeDegraded_eq]

end Metrics

theorem foldl_map_some {α β : Type} (g : β → α → α) (ds : List β) (a : α) :
    ds.foldl (fun o d => o.map (g d)) (some a) = some (ds.foldl (fun a d => g d a) a) := by
  induction ds generalizing a with
  | nil => rfl
  | cons d ds ih => exact ih (g d a)

namespace Bridge

variable {b : Bridge} {s : Site} {m : Metrics} {B : StatusBoard}

/-- **A refresh that reads a record** counts the read, leaves the other counters alone and puts
the document of the record's payload on the board. -/
theorem refresh_observed {f : Fetched}
    (hf : (b.feed.fetch s.host (b.cadence.allowance.ns ≤ 0)).2 = .ok f)
    (hm : b.metrics = some m) (hB : b.board = some B) :
    ∃ counts, (b.refresh s).1.metrics = some { m with degraded := counts }.observePoll ∧
      (b.refresh s).1.board = some (B.set (Bytes.ofString "last_payload")
        (.document ((Payload.ofRecord b.profile f.record).document?.getD []))) := by
  obtain ⟨counts, hc⟩ := Metrics.foldl_observeDegraded f.degradations m
  refine ⟨counts, ?_, ?_⟩ <;> unfold refresh <;> dsimp only <;> rw [hf] <;> dsimp only <;>
    simp only [foldl_count] <;> simp [share, count, Board.set, hm, hB, foldl_map_some, hc]

/-- **What a transmission counts**: a suppressed one counts the suppression; a failed one counts
the failure and increments the board's failures; a sent one counts the frame, increments the
board's frames and puts the frame on the board. -/
theorem transmit_observed (s : Site) (r : Record) (p : Payload) (now : Instant)
    (hm : b.metrics = some m) (hB : b.board = some B) :
    let t := b.transmit s r p now
    (t.2.2 = .suppressed ∧ t.1.metrics = some m.observeSuppressed ∧ t.1.board = some B) ∨
    (t.2.2 = .failed ∧ t.1.metrics = some m.observeWriteFailure ∧
      ∃ e, t.1.board = some ((B.increment (Bytes.ofString "write_failures")).set
        (Bytes.ofString "last_error") e)) ∨
    (t.2.2 = .sent ∧ t.1.metrics = some (m.observeFrameSent now.unixSeconds) ∧
      ∃ e, t.1.board = some ((((B.increment (Bytes.ofString "frames_sent")).set
        (Bytes.ofString "last_frame") (.value (.string p.frameText)))).set
          (Bytes.ofString "last_transmit") e)) := by
  rcases hsend : s.transport.send s.link p.frameText with ⟨t, l, step⟩
  by_cases hidle : (b.cadence.eventMonitoring && !r.active) = true
  · refine .inl ?_
    simp [transmit, hidle, count, hm, hB]
  · cases hf : step.failure with
    | some f =>
      refine .inr (.inl ?_)
      simp [transmit, hidle, hsend, hf, Site.note, count, hm, hB, Board.set, Board.increment]
    | none =>
      refine .inr (.inr ?_)
      simp [transmit, hidle, hsend, hf, Site.note, count, hm, hB, Board.set, Board.increment]

/-- A cycle whose read gives a record ends in an outcome. -/
theorem tick_ok {f : Fetched} (hf : (b.feed.fetch s.host (b.cadence.allowance.ns ≤ 0)).2 = .ok f)
    (now : Instant) : ∃ o, (b.tick s now).2.2 = .ok o := by
  obtain ⟨hr, -⟩ := refresh_of_ok (s := s) hf
  rcases hrs : b.refresh s with ⟨b₁, s₁, res⟩
  rw [hrs] at hr
  dsimp only at hr
  subst hr
  cases hd : b₁.due now with
  | false => exact ⟨.polled, by rw [tick_of_not_due hrs hd]⟩
  | true => exact ⟨_, by rw [tick_of_due hrs hd]⟩

/-- **What a cycle counts.** A cycle whose read gives a record counts the read and puts the
document of the record's payload on the board; then, by its outcome, it counts nothing more
(polled), counts a suppression, counts a failure and increments the board's failures, or counts
a frame, increments the board's frames and puts the frame on the board. -/
theorem tick_observed {f : Fetched} {now : Instant} {b' : Bridge} {s' : Site} {o : Outcome}
    (hf : (b.feed.fetch s.host (b.cadence.allowance.ns ≤ 0)).2 = .ok f)
    (hm : b.metrics = some m) (hB : b.board = some B) (ht : b.tick s now = (b', s', .ok o)) :
    ∃ counts, b'.profile = b.profile ∧
      let m₁ := { m with degraded := counts }.observePoll
      let B₁ := B.set (Bytes.ofString "last_payload")
        (.document ((Payload.ofRecord b.profile f.record).document?.getD []))
      (o = .polled ∧ b'.metrics = some m₁ ∧ b'.board = some B₁) ∨
      (o = .suppressed ∧ b'.metrics = some m₁.observeSuppressed ∧ b'.board = some B₁) ∨
      (o = .failed ∧ b'.metrics = some m₁.observeWriteFailure ∧
        ∃ e, b'.board = some ((B₁.increment (Bytes.ofString "write_failures")).set
          (Bytes.ofString "last_error") e)) ∨
      (o = .sent ∧ b'.metrics = some (m₁.observeFrameSent now.unixSeconds) ∧
        ∃ e, b'.board = some ((((B₁.increment (Bytes.ofString "frames_sent")).set
          (Bytes.ofString "last_frame")
            (.value (.string (Payload.ofRecord b.profile f.record).frameText)))).set
              (Bytes.ofString "last_transmit") e)) := by
  obtain ⟨hr, hk, -, -, -, -⟩ := refresh_of_ok (s := s) hf
  obtain ⟨counts, hm₁, hB₁⟩ := refresh_observed hf hm hB
  rcases hrs : b.refresh s with ⟨b₁, s₁, res⟩
  rw [hrs] at hr hk hm₁ hB₁
  dsimp only at hr hk hm₁ hB₁
  subst hr
  refine ⟨counts, ?_⟩
  cases hd : b₁.due now with
  | false =>
    -- not due: the refresh is all the cycle does
    rw [tick_of_not_due hrs hd] at ht
    cases ht
    exact ⟨hk.profile, .inl ⟨rfl, hm₁, hB₁⟩⟩
  | true =>
    -- due: the transmission adds its own counts to those of the refresh
    rw [tick_of_due hrs hd] at ht
    cases ht
    obtain ⟨hkt, -⟩ := transmit_keeps b₁ s₁ f.record (Payload.ofRecord b₁.profile f.record) now
    refine ⟨hkt.profile.trans hk.profile, ?_⟩
    rw [hk.profile]
    rcases transmit_observed s₁ f.record (Payload.ofRecord b.profile f.record) now hm₁ hB₁ with
      ⟨ho, hmt, hBt⟩ | ⟨ho, hmt, hBt⟩ | ⟨ho, hmt, hBt⟩
    · exact .inr (.inl ⟨ho, hmt, hBt⟩)
    · exact .inr (.inr (.inl ⟨ho, hmt, hBt⟩))
    · exact .inr (.inr (.inr ⟨ho, hmt, hBt⟩))

end Bridge

/-! ## The accounts of a run -/

/-- **The accounts after a run of cycles** `cs`, kept by the metrics `m` and the status board `B`
of a bridge with the profile `profile`: the reads, frames sent, failed sends and suppressions
counted are those of the run; the board's counters of frames and failures count the same, in 64
bits, and a counter that would be zero is absent; the board's last frame is the frame of the last
cycle that sent, and its last payload is the document of the payload of the last record read. -/
structure Accounted (profile : Bytes) (m : Metrics) (B : StatusBoard) (cs : List Cycle) : Prop where
  polls : m.polls = cs.length
  framesSent : m.framesSent = Cycle.tally .sent cs
  writeFailures : m.writeFailures = Cycle.tally .failed cs
  suppressed : m.suppressed = Cycle.tally .suppressed cs
  framesSentSlot : B.get? (Bytes.ofString "frames_sent") = Slot.counterOf (Cycle.tally .sent cs)
  writeFailuresSlot :
    B.get? (Bytes.ofString "write_failures") = Slot.counterOf (Cycle.tally .failed cs)
  lastFrame : B.get? (Bytes.ofString "last_frame") =
    ((cs.filter fun c => decide (c.outcome = .sent)).getLast?.map fun c =>
      .value (.string (Payload.ofRecord profile c.record).frameText))
  lastPayload : B.get? (Bytes.ofString "last_payload") =
    cs.getLast?.map fun c => .document ((Payload.ofRecord profile c.record).document?.getD [])

/-- Fresh metrics and an empty board account for the empty run. -/
theorem accounted_nil (profile : Bytes) : Accounted profile {} {} [] :=
  ⟨rfl, rfl, rfl, rfl, rfl, rfl, rfl, rfl⟩

namespace Accounted

variable {profile : Bytes} {m : Metrics} {B : StatusBoard} {cs : List Cycle}

/-- **One cycle keeps the accounts**: a cycle whose read gives a record adds itself to the run
the metrics and the board account for. -/
theorem tick {b b' : Bridge} {s s' : Site} {f : Fetched} {now : Instant} {o : Outcome}
    (h : Accounted profile m B cs) (hp : b.profile = profile)
    (hf : (b.feed.fetch s.host (b.cadence.allowance.ns ≤ 0)).2 = .ok f)
    (hm : b.metrics = some m) (hB : b.board = some B) (ht : b.tick s now = (b', s', .ok o)) :
    ∃ m' B', b'.metrics = some m' ∧ b'.board = some B' ∧ b'.profile = profile ∧
      Accounted profile m' B' (cs ++ [⟨now, f.record, o, s.line, s'.line⟩]) := by
  obtain ⟨counts, hprof, hcases⟩ := Bridge.tick_observed hf hm hB ht
  subst hp
  -- the board after the refresh: the payload is new, the counters and the frame are as before
  set B₁ := B.set (Bytes.ofString "last_payload")
    (.document ((Payload.ofRecord b.profile f.record).document?.getD [])) with hB₁
  have hfs : B₁.get? (Bytes.ofString "frames_sent") = Slot.counterOf (Cycle.tally .sent cs) := by
    rw [hB₁, StatusBoard.get?_set, if_neg (Bytes.ofString_ne (by decide)), h.framesSentSlot]
  have hwf : B₁.get? (Bytes.ofString "write_failures") =
      Slot.counterOf (Cycle.tally .failed cs) := by
    rw [hB₁, StatusBoard.get?_set, if_neg (Bytes.ofString_ne (by decide)), h.writeFailuresSlot]
  have hlf : B₁.get? (Bytes.ofString "last_frame") = B.get? (Bytes.ofString "last_frame") := by
    rw [hB₁, StatusBoard.get?_set, if_neg (Bytes.ofString_ne (by decide))]
  have hlp : B₁.get? (Bytes.ofString "last_payload") =
      some (.document ((Payload.ofRecord b.profile f.record).document?.getD [])) := by
    rw [hB₁, StatusBoard.get?_set, if_pos rfl]
  rcases hcases with ⟨rfl, hm', hB'⟩ | ⟨rfl, hm', hB'⟩ | ⟨rfl, hm', e, hB'⟩ | ⟨rfl, hm', e, hB'⟩
  · refine ⟨_, _, hm', hB', hprof, ?_⟩
    constructor <;> simp [Metrics.observePoll, h.polls, h.framesSent, h.writeFailures,
      h.suppressed, hfs, hwf, hlf, hlp, h.lastFrame]
  · refine ⟨_, _, hm', hB', hprof, ?_⟩
    constructor <;> simp [Metrics.observePoll, Metrics.observeSuppressed, h.polls, h.framesSent,
      h.writeFailures, h.suppressed, hfs, hwf, hlf, hlp, h.lastFrame]
  · refine ⟨_, _, hm', hB', hprof, ?_⟩
    have hinc := StatusBoard.get?_increment_counterOf B₁ hwf
    constructor <;> simp [Metrics.observePoll, Metrics.observeWriteFailure, h.polls, h.framesSent,
      h.writeFailures, h.suppressed, StatusBoard.get?_set, StatusBoard.get?_increment_ne,
      Bytes.ofString_inj, hinc, hfs, hlf, hlp, h.lastFrame]
  · refine ⟨_, _, hm', hB', hprof, ?_⟩
    have hinc := StatusBoard.get?_increment_counterOf B₁ hfs
    constructor <;> simp [Metrics.observePoll, Metrics.observeFrameSent, h.polls, h.framesSent,
      h.writeFailures, h.suppressed, StatusBoard.get?_set, StatusBoard.get?_increment_ne,
      Bytes.ofString_inj, hinc, hwf, hlp]

/-- **A run keeps the accounts**: the cycles of a run from accounted metrics and board add
themselves to the run they account for; a read that breaks down ends the run and counts
nothing. -/
theorem cycles {b : Bridge} {s : Site} (h : Accounted profile m B cs) (hp : b.profile = profile)
    (hm : b.metrics = some m) (hB : b.board = some B) (ts : List Instant) :
    ∃ m' B', (b.cycles s ts).1.metrics = some m' ∧ (b.cycles s ts).1.board = some B' ∧
      Accounted profile m' B' (cs ++ (b.cycles s ts).2.2) := by
  -- induction on the times, each cycle adding itself to the accounts
  induction ts generalizing b s m B cs with
  | nil => exact ⟨m, B, hm, hB, by simpa [Bridge.cycles] using h⟩
  | cons now rest ih =>
    cases hf : (b.feed.fetch s.host (b.cadence.allowance.ns ≤ 0)).2 with
    | error reason =>
      -- the read broke down: only the feed moved, and no cycle ran
      have ht : b.tick s now =
          ({ b with feed := (b.feed.fetch s.host (b.cadence.allowance.ns ≤ 0)).1 }, s,
            .error reason) := by
        simp [Bridge.tick, Bridge.refresh_of_error hf]
      exact ⟨m, B, by simp [Bridge.cycles, hf, ht, hm], by simp [Bridge.cycles, hf, ht, hB],
        by simpa [Bridge.cycles, hf, ht] using h⟩
    | ok f =>
      obtain ⟨o, ho⟩ := Bridge.tick_ok hf now
      rcases ht : b.tick s now with ⟨b', s', res⟩
      rw [ht] at ho
      dsimp only at ho
      subst ho
      obtain ⟨m', B', hm', hB', hp', h'⟩ := h.tick hp hf hm hB ht
      obtain ⟨m'', B'', hm'', hB'', h''⟩ := ih h' hp' hm' hB'
      rw [Bridge.cycles_cons_of_ok rest hf ht]
      exact ⟨m'', B'', hm'', hB'', by simpa using h''⟩

end Accounted

namespace Bridge

end Bridge

end TelemetryBridge
