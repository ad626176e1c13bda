import LanProxyGateway.Concurrency.Admission
import LanProxyGateway.Foundation.Line

/-!
# Order and conservation in the admission queue

The queue of `connection_admitter` is a waiting line in which reconnecting requests have precedence.
Next to the admitter runs such a line, whose entrants have numbers: a request that is queued enters
it, as many as `dequeue_connections` hands back are served, and the line drops whoever the admitter
finds to have timed out. The two stay together step by step, so what is known of the line is known
of the queue.

Nobody waits while there is room: a request is queued when there is none, and a release admits from
the queue until there is none again.
-/

open Foundation

namespace LanProxyGateway

namespace ConnectionAdmitter

variable {a : ConnectionAdmitter}

/-! ## What the operations do to the queue -/

/-- The configuration stays as `init` left it. -/
structure SameLimits (a b : ConnectionAdmitter) : Prop where
  maxConnections : b.maxConnections = a.maxConnections
  maxQueueSize : b.maxQueueSize = a.maxQueueSize
  queueTimeoutSeconds : b.queueTimeoutSeconds = a.queueTimeoutSeconds

theorem SameLimits.trans {b c : ConnectionAdmitter} (h : SameLimits a b) (h' : SameLimits b c) :
    SameLimits a c where
  maxConnections := h'.maxConnections.trans h.maxConnections
  maxQueueSize := h'.maxQueueSize.trans h.maxQueueSize
  queueTimeoutSeconds := h'.queueTimeoutSeconds.trans h.queueTimeoutSeconds

/-- The loop takes a part off the front, and goes on until nobody is left or there is no room. -/
theorem admitFromQueue_spec (qs : List QueuedConnection) (a : ConnectionAdmitter) :
    (admitFromQueue qs a).1 ++ (admitFromQueue qs a).2.queue = qs ∧
      SameLimits a (admitFromQueue qs a).2 ∧
      ((admitFromQueue qs a).2.queue ≠ [] →
        a.maxConnections ≤ (admitFromQueue qs a).2.activeConnections) := by
  induction qs generalizing a with
  | nil => exact ⟨rfl, ⟨rfl, rfl, rfl⟩, fun h ↦ absurd rfl h⟩
  | cons q qs ih =>
    rw [admitFromQueue]
    split
    · obtain ⟨hqueue, hlimits, hfull⟩ := ih (a.takeSlot q.username)
      exact ⟨congrArg (q :: ·) hqueue, ⟨hlimits.1, hlimits.2, hlimits.3⟩, hfull⟩
    · exact ⟨rfl, ⟨rfl, rfl, rfl⟩, fun _ ↦ not_lt.mp ‹_›⟩

/-- What is given back before the queue is looked at. -/
theorem releaseSlot_queue (a : ConnectionAdmitter) (username : ByteString) :
    (a.releaseSlot username).queue = a.queue ∧ SameLimits a (a.releaseSlot username) := by
  rw [releaseSlot, releaseUser]
  split
  · split <;> exact ⟨rfl, rfl, rfl, rfl⟩
  · exact ⟨rfl, rfl, rfl, rfl⟩

/-- How a request can be answered, and what the admitter is then: the queue stays, or the request
goes into it, where there is no room but a place. -/
inductive Requested (a : ConnectionAdmitter) (q : QueuedConnection) :
    AdmitResult → ConnectionAdmitter → Prop
  | answered {result : AdmitResult} {b : ConnectionAdmitter} (hne : result ≠ .queued)
    (hqueue : b.queue = a.queue) (hlimits : SameLimits a b)
    (hactive : a.activeConnections ≤ b.activeConnections) : Requested a q result b
  | queued (hfull : a.maxConnections ≤ a.activeConnections)
    (hplace : (a.queue.length : Int) < a.maxQueueSize) : Requested a q .queued (a.enqueue q)

theorem requested_self (q : QueuedConnection) {result : AdmitResult} (hne : result ≠ .queued) :
    Requested a q result a := .answered hne rfl ⟨rfl, rfl, rfl⟩ le_rfl

theorem requested_requestAdmit (a : ConnectionAdmitter) (limiter : RateLimiter) (overloaded : Bool)
    (q : QueuedConnection) : Requested a q (a.requestAdmit limiter overloaded q).1.result
      (a.requestAdmit limiter overloaded q).2.1 := by
  rw [requestAdmit]
  rcases limiter.checkConnectionRate q.enqueueTime q.clientIp with ⟨ok, limiter⟩
  simp only [requestSlot]
  split_ifs
  · exact requested_self q (show AdmitResult.rejectedRate ≠ .queued by decide)
  · exact requested_self q (show AdmitResult.rejectedBanned ≠ .queued by decide)
  · exact requested_self q (show AdmitResult.rejectedOverload ≠ .queued by decide)
  · exact requested_self q (show AdmitResult.rejectedUser ≠ .queued by decide)
  · exact requested_self q (show AdmitResult.rejectedTotal ≠ .queued by decide)
  · exact requested_self q (show AdmitResult.rejectedTotal ≠ .queued by decide)
  · exact .queued ‹_› (not_le.mp ‹_›)
  · exact .answered (show AdmitResult.accepted ≠ .queued by decide) rfl ⟨rfl, rfl, rfl⟩
      (Int.le_add_one le_rfl)

theorem SameLimits.hasTimedOut {b : ConnectionAdmitter} (h : SameLimits a b) (now : SteadyTime) :
    b.hasTimedOut now = a.hasTimedOut now := by
  funext q
  rw [ConnectionAdmitter.hasTimedOut, ConnectionAdmitter.hasTimedOut, h.queueTimeoutSeconds]

end ConnectionAdmitter

/-! ## The admitter and its line -/

/-- The admitter, the line next to it, and everybody whom the admitter has handed back, admitted or
timed out. -/
structure Desk where
  admitter : ConnectionAdmitter
  line : Line QueuedConnection := {}
  admitted : List QueuedConnection := []
  timedOut : List QueuedConnection := []

/-- A call of the admitter. The callbacks it makes do not call it back. -/
inductive AdmitterCall
  | requestAdmit (limiter : RateLimiter) (overloaded : Bool) (q : QueuedConnection)
  | releaseConnection (now : SteadyTime) (username : ByteString)
  | checkQueueTimeouts (now : SteadyTime)

namespace Desk

open ConnectionAdmitter

def step (d : Desk) : AdmitterCall → Desk
  | .requestAdmit limiter overloaded q =>
    let r := d.admitter.requestAdmit limiter overloaded q
    { d with
      admitter := r.2.1
      line := if r.1.result = .queued then d.line.enter (·.isReconnect) q else d.line }
  | .releaseConnection now username =>
    let r := d.admitter.releaseConnection now username
    { admitter := r.2.2
      line := (Line.serve^[r.1.length] d.line).drop (d.admitter.hasTimedOut now)
      admitted := d.admitted ++ r.1
      timedOut := d.timedOut ++ r.2.1 }
  | .checkQueueTimeouts now =>
    let r := d.admitter.checkQueueTimeouts now
    { d with
      admitter := r.2
      line := d.line.drop (d.admitter.hasTimedOut now)
      timedOut := d.timedOut ++ r.1 }

/-- The line and the queue are together, and nobody waits while there is room. -/
structure Together (d : Desk) : Prop where
  orderly : d.line.Orderly (·.isReconnect)
  queue : d.line.items = d.admitter.queue
  admitted : d.line.gone .served = d.admitted
  timedOut : d.line.gone .dropped = d.timedOut
  length_le : (d.admitter.queue.length : Int) ≤ max d.admitter.maxQueueSize 0
  full : d.admitter.queue ≠ [] → d.admitter.maxConnections ≤ d.admitter.activeConnections

variable {d : Desk}

theorem Together.requestAdmit (h : d.Together) (limiter : RateLimiter) (overloaded : Bool)
    (q : QueuedConnection) : (d.step (.requestAdmit limiter overloaded q)).Together := by
  have hrequested := requested_requestAdmit d.admitter limiter overloaded q
  rw [step]
  generalize (d.admitter.requestAdmit limiter overloaded q).1.result = result at hrequested
  generalize (d.admitter.requestAdmit limiter overloaded q).2.1 = b at hrequested
  cases hrequested with
  | answered hne hqueue hlimits hactive =>
    simp only [if_neg hne]
    refine ⟨h.orderly, h.queue.trans hqueue.symm, h.admitted, h.timedOut, ?_, ?_⟩
    · simp only [hqueue, hlimits.maxQueueSize]
      exact h.length_le
    · simp only [hqueue, hlimits.maxConnections]
      exact fun hne ↦ (h.full hne).trans hactive
  | queued hfull hplace =>
    simp only [if_true]
    have henqueue : (d.admitter.enqueue q).queue =
        if q.isReconnect then d.admitter.queue.takeWhile (·.isReconnect) ++
          q :: d.admitter.queue.dropWhile (·.isReconnect) else d.admitter.queue ++ [q] := by
      rw [enqueue]
      split <;> rfl
    have hsame : (d.admitter.enqueue q).maxQueueSize = d.admitter.maxQueueSize ∧
        (d.admitter.enqueue q).maxConnections = d.admitter.maxConnections ∧
        (d.admitter.enqueue q).activeConnections = d.admitter.activeConnections := by
      rw [enqueue]
      split <;> exact ⟨rfl, rfl, rfl⟩
    refine ⟨h.orderly.enter q, ?_, h.admitted, h.timedOut, ?_, ?_⟩
    · rw [Line.items_enter, h.queue, henqueue]
    · have hlength : (d.admitter.enqueue q).queue.length = d.admitter.queue.length + 1 := by
        rw [henqueue]
        split
        · rw [List.length_append, List.length_cons, ← Nat.add_assoc, ← List.length_append,
            List.takeWhile_append_dropWhile]
        · exact List.length_append
      simp only [hlength, hsame.1]
      push_cast
      omega
    · simp only [hsame]
      exact fun _ ↦ hfull

theorem Together.checkQueueTimeouts (h : d.Together) (now : SteadyTime) :
    (d.step (.checkQueueTimeouts now)).Together := by
  have hgone := Line.gone_drop (d.admitter.hasTimedOut now) d.line
  refine ⟨h.orderly.drop _, ?_, hgone.2.trans h.admitted, ?_, ?_, ?_⟩
  · rw [step, Line.items_drop, h.queue]
    rfl
  · rw [step, hgone.1, h.timedOut, h.queue]
    rfl
  · refine le_trans ?_ h.length_le
    exact Int.ofNat_le.mpr (List.length_filter_le _ _)
  · intro hne
    apply h.full
    intro hnil
    apply hne
    rw [step]
    simp only [ConnectionAdmitter.checkQueueTimeouts, hnil, List.filter_nil]

/-- A release is the loop over the queue, and then the timeouts. -/
theorem step_releaseConnection (now : SteadyTime) (username : ByteString) :
    d.step (.releaseConnection now username) =
      step { admitter := (admitFromQueue (d.admitter.releaseSlot username).queue
               (d.admitter.releaseSlot username)).2
             line := Line.serve^[(admitFromQueue (d.admitter.releaseSlot username).queue
               (d.admitter.releaseSlot username)).1.length] d.line
             admitted := d.admitted ++ (admitFromQueue (d.admitter.releaseSlot username).queue
               (d.admitter.releaseSlot username)).1
             timedOut := d.timedOut } (.checkQueueTimeouts now) := by
  have hlimits := (releaseSlot_queue d.admitter username).2.trans
    (admitFromQueue_spec (d.admitter.releaseSlot username).queue
      (d.admitter.releaseSlot username)).2.1
  simp only [step, ConnectionAdmitter.releaseConnection, dequeueConnections,
    hlimits.hasTimedOut now]

theorem Together.releaseConnection (h : d.Together) (now : SteadyTime) (username : ByteString) :
    (d.step (.releaseConnection now username)).Together := by
  obtain ⟨hqueue, hlimits⟩ := releaseSlot_queue d.admitter username
  obtain ⟨hsplit, hlimits', hfull⟩ :=
    admitFromQueue_spec (d.admitter.releaseSlot username).queue (d.admitter.releaseSlot username)
  rw [step_releaseConnection]
  apply Together.checkQueueTimeouts
  generalize admitFromQueue (d.admitter.releaseSlot username).queue
    (d.admitter.releaseSlot username) = r at hsplit hlimits' hfull
  rw [hqueue] at hsplit
  have hitems : d.line.items = r.1 ++ r.2.queue := h.queue.trans hsplit.symm
  have hgone := Line.gone_serve_iterate d.line r.1.length
  refine ⟨h.orderly.serve_iterate _, ?_, ?_, hgone.2.trans h.timedOut, ?_, ?_⟩
  · rw [Line.items_serve_iterate, hitems, List.drop_left]
  · rw [hgone.1, h.admitted, hitems, List.take_left]
  · show (r.2.queue.length : Int) ≤ max r.2.maxQueueSize 0
    have hle := h.length_le
    rw [← hsplit, List.length_append] at hle
    rw [hlimits'.maxQueueSize, hlimits.maxQueueSize]
    push_cast at hle
    omega
  · intro hne
    rw [hlimits'.maxConnections]
    exact hfull hne

/-! ## Runs -/

/-- The admitter as `init` leaves it. -/
def opened (maxConnections maxConnectionsPerUser : Int) (queueEnabled : Bool)
    (maxQueueSize queueTimeoutSeconds : Int) : Desk where
  admitter := { maxConnections, maxConnectionsPerUser, queueEnabled, maxQueueSize,
                queueTimeoutSeconds }

theorem Together.step (h : d.Together) (c : AdmitterCall) : (d.step c).Together := by
  cases c with
  | requestAdmit limiter overloaded q => exact h.requestAdmit limiter overloaded q
  | releaseConnection now username => exact h.releaseConnection now username
  | checkQueueTimeouts now => exact h.checkQueueTimeouts now

theorem Together.foldl (h : d.Together) (calls : List AdmitterCall) :
    (calls.foldl Desk.step d).Together := by
  induction calls generalizing d with
  | nil => exact h
  | cons c calls ih => exact ih (h.step c)

theorem together_opened (maxConnections maxConnectionsPerUser : Int) (queueEnabled : Bool)
    (maxQueueSize queueTimeoutSeconds : Int) : Together (opened maxConnections maxConnectionsPerUser
      queueEnabled maxQueueSize queueTimeoutSeconds) where
  orderly := Line.orderly_empty
  queue := rfl
  admitted := rfl
  timedOut := rfl
  length_le := le_max_right _ _
  full h := absurd rfl h

/-- What holds of the queue, in terms of the numbers that the queued requests have drawn. -/
structure QueueKept (d : Desk) : Prop where
  /-- The reconnecting requests that still wait, and then the others. -/
  queue : d.admitter.queue = ((d.line.waiting.filter (·.item.isReconnect)) ++
    d.line.waiting.filter (!·.item.isReconnect)).map (·.item)
  /-- Each kind in the order of arrival. -/
  reconnects : (d.line.waiting.filter (·.item.isReconnect)).Pairwise fun s t ↦ s.number < t.number
  others : (d.line.waiting.filter (!·.item.isReconnect)).Pairwise fun s t ↦ s.number < t.number
  /-- Whoever was queued has left once or is still there, and no two have one number. -/
  conserved : (d.line.left.map Prod.fst ++ d.line.waiting).Perm d.line.entered
  distinct : d.line.entered.Pairwise fun s t ↦ s.number < t.number
  /-- Those who have left are the ones that the admitter has admitted and found to be late. -/
  admitted : d.line.gone .served = d.admitted
  timedOut : d.line.gone .dropped = d.timedOut
  /-- Whoever is admitted finds everybody of its kind who came before it gone. -/
  fair : ∀ pre t post, d.line.left = pre ++ (t, .served) :: post → ∀ s ∈ d.line.entered,
    s.item.isReconnect = t.item.isReconnect → s.number < t.number → ∃ how, (s, how) ∈ pre
  length_le : (d.admitter.queue.length : Int) ≤ max d.admitter.maxQueueSize 0
  /-- Nobody waits while there is room. -/
  full : d.admitter.queue ≠ [] → d.admitter.maxConnections ≤ d.admitter.activeConnections

/-- **The admission queue**, after any calls from any configuration. -/
theorem queueKept_of_calls (maxConnections maxConnectionsPerUser : Int) (queueEnabled : Bool)
    (maxQueueSize queueTimeoutSeconds : Int) (calls : List AdmitterCall) :
    QueueKept (calls.foldl step (opened maxConnections maxConnectionsPerUser queueEnabled
      maxQueueSize queueTimeoutSeconds)) := by
  have h := (together_opened maxConnections maxConnectionsPerUser queueEnabled maxQueueSize
    queueTimeoutSeconds).foldl calls
  generalize calls.foldl step _ = d at h
  obtain ⟨hsplit, hreconnects, hothers⟩ := h.orderly.waiting_eq
  refine ⟨?_, hreconnects, hothers, h.orderly.conserved, h.orderly.arrival, h.admitted, h.timedOut,
    ?_, h.length_le, h.full⟩
  · rw [← hsplit, ← h.queue]
    rfl
  · intro pre t post hleft s hs hsame hlt
    obtain ⟨y, hy, rfl⟩ := h.orderly.fair s hs pre (t, .served) post hleft ⟨rfl, hsame.symm, hlt⟩
    exact ⟨y.2, hy⟩

end Desk

end LanProxyGateway
