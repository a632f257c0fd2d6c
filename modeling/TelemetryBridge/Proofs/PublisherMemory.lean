import TelemetryBridge.Broker.Publisher

/-! # What the publisher remembers

The publisher skips a payload whose document equals the one it remembers, and it remembers a
document only once the broker has delivered it. This file shows that over any run, whatever the
broker answers, the remembered document is the latest one the broker delivered.

The broker's side of a run is its *log*: the publications it received, each with the answer it
gave (`answeredBy`). The latest delivered document of a log (`lastDelivered`) is read off the log
alone, so the statements below compare the publisher's memory with what the broker saw, not with
the publisher's own bookkeeping.

One call is described once (`Publisher.publish_eq`): the publications it makes are `offers`,
the payload's document unless it has none or equals the remembered one. A run is a sequence of
calls (`Publisher.publishAll`), and `Publisher.publishAll_eq` carries the step over it.

Main statement: `Publisher.remembers_last_delivered`.
-/

namespace TelemetryBridge

/-! ### The broker's log -/

/-- The publications a broker received, each with the answer it gave: its scripted answers in
order, and delivery once they run out. -/
def answeredBy : List Delivery → List Publication → List (Publication × Delivery)
  | _, [] => []
  | [], pub :: pubs => (pub, .delivered) :: answeredBy [] pubs
  | a :: as, pub :: pubs => (pub, a) :: answeredBy as pubs

/-- The document of the latest publication of a log that was delivered; `init` when none was. -/
def lastDelivered (init : Option Bytes) : List (Publication × Delivery) → Option Bytes
  | [] => init
  | (pub, .delivered) :: rest => lastDelivered (some pub.payload) rest
  | (_, .timedOut) :: rest => lastDelivered init rest
  | (_, .failed _) :: rest => lastDelivered init rest

@[simp] theorem lastDelivered_nil (init : Option Bytes) : lastDelivered init [] = init := rfl

@[simp] theorem answeredBy_nil (as : List Delivery) : answeredBy as [] = [] := by
  cases as <;> rfl

theorem answeredBy_append (as : List Delivery) (xs ys : List Publication) :
    answeredBy as (xs ++ ys) = answeredBy as xs ++ answeredBy (as.drop xs.length) ys := by
  induction xs generalizing as with
  | nil => simp
  | cons x xs ih => cases as <;> simp [answeredBy, ih]

theorem lastDelivered_append (init : Option Bytes) (l l' : List (Publication × Delivery)) :
    lastDelivered init (l ++ l') = lastDelivered (lastDelivered init l) l' := by
  induction l generalizing init with
  | nil => rfl
  | cons e l ih =>
    obtain ⟨pub, a⟩ := e
    cases a <;> simp [lastDelivered, ih]

/-- The answer a broker gives its next publication. -/
def Broker.nextAnswer (b : Broker) : Delivery := b.answers.headD .delivered

@[simp] theorem Broker.publish_fst (b : Broker) (pub : Publication) :
    (b.publish pub).1 = { answers := b.answers.drop 1, published := b.published ++ [pub] } := by
  unfold Broker.publish
  cases b.answers <;> rfl

@[simp] theorem Broker.publish_snd (b : Broker) (pub : Publication) :
    (b.publish pub).2 = b.nextAnswer := by
  unfold Broker.publish Broker.nextAnswer
  cases b.answers <;> rfl

/-- One publication logged with the broker's next answer. -/
theorem answeredBy_single (b : Broker) (pub : Publication) :
    answeredBy b.answers [pub] = [(pub, b.nextAnswer)] := by
  unfold Broker.nextAnswer
  cases b.answers <;> rfl

namespace Publisher

/-! ### One call -/

/-- The publications a call makes: the payload's document, retained, under the publisher's topic
and quality of service, unless the payload has no document or its document is the one
remembered. -/
def offers (p : Publisher) (x : Payload) : List Publication :=
  match x.document? with
  | some d => if p.last = some d then [] else [⟨p.topic, p.qos, true, d⟩]
  | none => []

/-- **One call.** The broker receives the call's offers and spends one answer on each; the
publisher keeps its topic and quality of service and remembers the latest delivered document of
what it knew and the call's log. -/
theorem publish_eq (p : Publisher) (b : Broker) (x : Payload) :
    (p.publish b x).2.1 =
        { answers := b.answers.drop (p.offers x).length, published := b.published ++ p.offers x } ∧
      (p.publish b x).1 =
        { p with last := lastDelivered p.last (answeredBy b.answers (p.offers x)) } := by
  unfold publish offers
  cases hd : x.document? with
  | none => simp
  | some d =>
    simp only [beq_iff_eq]
    by_cases hl : p.last = some d
    · simp only [hl, if_true, List.length_nil, List.drop_zero, List.append_nil, answeredBy_nil,
        lastDelivered_nil, true_and]
      rw [← hl]
    -- a document not remembered goes to the broker, and its answer decides what is remembered
    · simp only [hl, if_false, Broker.publish_fst, Broker.publish_snd, answeredBy_single]
      cases b.nextAnswer <;> simp [lastDelivered]

/-- A call that succeeds leaves the payload's document remembered: it was either remembered
already or delivered now. -/
theorem publish_ok_last {p : Publisher} {b : Broker} {x : Payload}
    (h : (p.publish b x).2.2 = none) : (p.publish b x).1.last = x.document? := by
  unfold publish at h ⊢
  cases hd : x.document? with
  | none => simp [hd] at h
  | some d =>
    simp only [hd, beq_iff_eq] at h ⊢
    by_cases hl : p.last = some d
    · simp [hl]
    · simp only [hl, if_false, Broker.publish_snd] at h ⊢
      cases ha : b.nextAnswer <;> simp [ha] at h ⊢

/-! ### Runs -/

/-- Offers payloads one after another; the broker answers the publications in the order they
come. -/
def publishAll (p : Publisher) (b : Broker) : List Payload → Publisher × Broker
  | [] => (p, b)
  | x :: xs => publishAll (p.publish b x).1 (p.publish b x).2.1 xs

/-- **A run.** Over any payloads the broker receives some publications, one answer spent on
each, and the publisher keeps its topic and quality of service and remembers the latest
document the broker delivered, or what it remembered before when the broker delivered none. -/
theorem publishAll_eq (p : Publisher) (b : Broker) (xs : List Payload) :
    ∃ new, (p.publishAll b xs).2 =
        { answers := b.answers.drop new.length, published := b.published ++ new } ∧
      (p.publishAll b xs).1 = { p with last := lastDelivered p.last (answeredBy b.answers new) } := by
  -- induction on the payloads, the step given by `publish_eq` for the first call
  induction xs generalizing p b with
  | nil => exact ⟨[], by simp [publishAll], by simp [publishAll]⟩
  | cons x xs ih =>
    obtain ⟨hb, hp⟩ := publish_eq p b x
    obtain ⟨new, hb', hp'⟩ := ih (p.publish b x).1 (p.publish b x).2.1
    refine ⟨p.offers x ++ new, ?_, ?_⟩
    · rw [publishAll, hb', hb]
      simp [List.drop_drop, Nat.add_comm]
    · rw [publishAll, hp', hp, hb]
      simp [answeredBy_append, lastDelivered_append]

/-- **The publisher remembers the latest delivered document.** Take any publisher, any broker,
whatever it answers, and any run of payloads followed by one more payload `x`. After the run the
remembered document is the latest one the broker delivered during it, or the one remembered
before when it delivered none (none for a new publisher). The call for `x` publishes `x`'s
document, retained, under the publisher's topic and quality of service, exactly when `x` has a
document and it differs from that latest delivered one; otherwise the broker receives nothing.
When the call succeeds, `x`'s document is the latest delivered one. -/
theorem remembers_last_delivered (p : Publisher) (b : Broker) (xs : List Payload) (x : Payload) :
    let run := p.publishAll b xs
    let log := answeredBy b.answers (run.2.published.drop b.published.length)
    let call := run.1.publish run.2 x
    run.1.last = lastDelivered p.last log ∧
      call.2.1.published = run.2.published ++
        (match x.document? with
          | some d => if lastDelivered p.last log = some d then [] else [⟨p.topic, p.qos, true, d⟩]
          | none => []) ∧
      (call.2.2 = none →
        lastDelivered p.last (answeredBy b.answers (call.2.1.published.drop b.published.length)) =
          x.document?) := by
  dsimp only
  obtain ⟨new, hb, hp⟩ := publishAll_eq p b xs
  have hnew : (p.publishAll b xs).2.published.drop b.published.length = new := by simp [hb]
  obtain ⟨hcall, hcallp⟩ := publish_eq (p.publishAll b xs).1 (p.publishAll b xs).2 x
  refine ⟨by rw [hnew, hp], ?_, fun hok => ?_⟩
  · -- the run's publisher has the first one's topic and quality of service
    rewrite [hcall, hnew, hp]
    rfl
  · -- the log of the call extends the run's log, and the call's memory is read off both
    have hlast := publish_ok_last hok
    rw [hcallp, hp, hb] at hlast
    rewrite [← hlast, hcall, hb, hp]
    simp [answeredBy_append, lastDelivered_append]

end Publisher

end TelemetryBridge
