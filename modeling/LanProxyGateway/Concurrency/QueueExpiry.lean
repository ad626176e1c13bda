import LanProxyGateway.Concurrency.AdmissionQueue

/-!
# Waiting too long

`dequeue_connections` admits from the front of the queue as long as there is room, and only then
calls `check_queue_timeouts`. Whoever stands at the front is admitted by the next release, however
long ago it was queued (`neverAdmitsExpired_iff`); from anywhere else in the queue it is taken out
in time.
-/

open Foundation

namespace LanProxyGateway

/-- The time of a call. -/
def AdmitterCall.time : AdmitterCall → SteadyTime
  | .requestAdmit _ _ q => q.enqueueTime
  | .releaseConnection now _ => now
  | .checkQueueTimeouts now => now

namespace ConnectionAdmitter

variable {a : ConnectionAdmitter} {q : QueuedConnection} {now : SteadyTime}

/-! ## A release -/

/-- The entry has waited for the timeout or longer. -/
def Overdue (timeoutSeconds : Int) (now : SteadyTime) (q : QueuedConnection) : Prop :=
  timeoutSeconds * 1000000000 ≤ now - q.enqueueTime

instance (timeoutSeconds : Int) (now : SteadyTime) (q : QueuedConnection) :
    Decidable (Overdue timeoutSeconds now q) := inferInstanceAs (Decidable (_ ≤ _))

/-- To compare whole seconds is to compare the times, once they are in order. -/
theorem hasTimedOut_iff (h : q.enqueueTime ≤ now) :
    a.hasTimedOut now q = true ↔ Overdue a.queueTimeoutSeconds now q := by
  have hseconds : wholeSeconds (now - q.enqueueTime) = (now - q.enqueueTime) / 1000000000 :=
    Int.tdiv_eq_ediv_of_nonneg (Int.sub_nonneg.mpr h)
  rw [hasTimedOut, decide_eq_true_eq, hseconds, Int.le_ediv_iff_mul_le (by omega), Overdue]

/-- The loop admits as many as there is room for. -/
theorem admitFromQueue_eq (qs : List QueuedConnection) (a : ConnectionAdmitter) :
    (admitFromQueue qs a).1 = qs.take (a.maxConnections - a.activeConnections).toNat ∧
      (admitFromQueue qs a).2.queue = qs.drop (a.maxConnections - a.activeConnections).toNat ∧
      (admitFromQueue qs a).2.activeConnections ≤ max a.activeConnections a.maxConnections := by
  induction qs generalizing a with
  | nil => exact ⟨List.take_nil.symm, List.drop_nil.symm, le_max_left _ _⟩
  | cons q qs ih =>
    rw [admitFromQueue]
    split
    · rename_i hroom
      obtain ⟨htake, hdrop, hle⟩ := ih (a.takeSlot q.username)
      have hcount : (a.maxConnections - a.activeConnections).toNat =
          ((a.takeSlot q.username).maxConnections -
            (a.takeSlot q.username).activeConnections).toNat + 1 := by
        simp only [takeSlot]
        omega
      rw [hcount, List.take_succ_cons, List.drop_succ_cons]
      refine ⟨congrArg (q :: ·) htake, hdrop, hle.trans ?_⟩
      simp only [takeSlot]
      omega
    · rename_i hfull
      have hcount : (a.maxConnections - a.activeConnections).toNat = 0 := by omega
      rw [hcount, List.take_zero, List.drop_zero]
      exact ⟨rfl, rfl, le_max_left _ _⟩

/-- The slots that are free once one has been given back. -/
def room (a : ConnectionAdmitter) : ℕ :=
  (a.maxConnections - decrementClamped a.activeConnections).toNat

/-- The parts of the queue that a release admits, finds to be late and leaves. -/
theorem releaseConnection_eq (a : ConnectionAdmitter) (now : SteadyTime) (username : ByteString) :
    (a.releaseConnection now username).1 = a.queue.take a.room ∧
      (a.releaseConnection now username).2.1 =
        (a.queue.drop a.room).filter (a.hasTimedOut now) ∧
      (a.releaseConnection now username).2.2.queue =
        (a.queue.drop a.room).filter (fun q ↦ !a.hasTimedOut now q) ∧
      (a.releaseConnection now username).2.2.activeConnections ≤
        max (decrementClamped a.activeConnections) a.maxConnections := by
  obtain ⟨hqueue, hlimits⟩ := releaseSlot_queue a username
  have hactive : (a.releaseSlot username).activeConnections =
      decrementClamped a.activeConnections := by
    rw [releaseSlot, releaseUser]
    split
    · split <;> rfl
    · rfl
  obtain ⟨htake, hdrop, hle⟩ := admitFromQueue_eq (a.releaseSlot username).queue
    (a.releaseSlot username)
  have hlimits' := hlimits.trans (admitFromQueue_spec (a.releaseSlot username).queue
    (a.releaseSlot username)).2.1
  have hrelease : a.releaseConnection now username =
      ((admitFromQueue (a.releaseSlot username).queue (a.releaseSlot username)).1,
        (admitFromQueue (a.releaseSlot username).queue
          (a.releaseSlot username)).2.checkQueueTimeouts now) := rfl
  rw [hrelease]
  generalize admitFromQueue (a.releaseSlot username).queue (a.releaseSlot username) = r at *
  rw [hactive, hlimits.maxConnections] at htake hdrop hle
  rw [hqueue] at htake hdrop
  simp only [checkQueueTimeouts, hlimits'.hasTimedOut now, hdrop]
  exact ⟨htake, rfl, rfl, hle⟩

/-- A release that is in time: nobody who is overdue is admitted or stays, and all of them leave
because they are. -/
structure Timely (a : ConnectionAdmitter) (now : SteadyTime) (username : ByteString) : Prop where
  admitted : ∀ q ∈ (a.releaseConnection now username).1, ¬ Overdue a.queueTimeoutSeconds now q
  remaining : ∀ q ∈ (a.releaseConnection now username).2.2.queue,
    ¬ Overdue a.queueTimeoutSeconds now q
  left : ∀ q ∈ a.queue, Overdue a.queueTimeoutSeconds now q →
    q ∈ (a.releaseConnection now username).2.1

theorem timely_iff (hqueued : ∀ q ∈ a.queue, q.enqueueTime ≤ now) (username : ByteString) :
    a.Timely now username ↔
      ∀ q ∈ a.queue.take a.room, ¬ Overdue a.queueTimeoutSeconds now q := by
  obtain ⟨hadmitted, hexpired, hqueue, -⟩ := releaseConnection_eq a now username
  constructor
  · intro h q hq
    exact h.admitted q (hadmitted ▸ hq)
  · intro h
    refine ⟨fun q hq ↦ h q (hadmitted ▸ hq), fun q hq ↦ ?_, fun q hq hoverdue ↦ ?_⟩
    · rw [hqueue, List.mem_filter, Bool.not_eq_true'] at hq
      rw [← hasTimedOut_iff (hqueued q (List.mem_of_mem_drop hq.1)), hq.2]
      exact Bool.false_ne_true
    · rw [hexpired, List.mem_filter]
      refine ⟨?_, (hasTimedOut_iff (hqueued q hq)).mpr hoverdue⟩
      rw [← List.take_append_drop a.room a.queue, List.mem_append] at hq
      exact hq.resolve_left fun hfront ↦ h q hfront hoverdue

/-! ## A request -/

theorem mem_enqueue {q' : QueuedConnection} (h : q' ∈ (a.enqueue q).queue) :
    q' = q ∨ q' ∈ a.queue := by
  rw [enqueue] at h
  split at h
  · rw [List.mem_append, List.mem_cons] at h
    obtain hfront | rfl | hback := h
    · exact .inr ((List.takeWhile_sublist _).subset hfront)
    · exact .inl rfl
    · exact .inr ((List.dropWhile_sublist _).subset hback)
  · rw [List.mem_append, List.mem_singleton] at h
    exact h.symm

theorem sameLimits_enqueue (a : ConnectionAdmitter) (q : QueuedConnection) :
    SameLimits a (a.enqueue q) ∧ (a.enqueue q).activeConnections = a.activeConnections := by
  rw [enqueue]
  split <;> exact ⟨⟨rfl, rfl, rfl⟩, rfl⟩

/-- A slot is taken only where there is one. -/
theorem activeConnections_requestAdmit_le (a : ConnectionAdmitter) (limiter : RateLimiter)
    (overloaded : Bool) (q : QueuedConnection) :
    (a.requestAdmit limiter overloaded q).2.1.activeConnections ≤
      max a.activeConnections a.maxConnections := by
  rw [requestAdmit]
  rcases limiter.checkConnectionRate q.enqueueTime q.clientIp with ⟨ok, limiter⟩
  simp only [requestSlot]
  split_ifs with hok hbanned hoverloaded huser hfull henabled hplace
  · exact le_max_left _ _
  · exact le_max_left _ _
  · exact le_max_left _ _
  · exact le_max_left _ _
  · exact le_max_left _ _
  · exact le_max_left _ _
  · rw [(sameLimits_enqueue a q).2]
    exact le_max_left _ _
  · exact (Int.add_one_le_of_lt (not_le.mp hfull)).trans (le_max_right _ _)

end ConnectionAdmitter

/-! ## Runs -/

namespace Desk

open ConnectionAdmitter

variable {d : Desk} {calls : List AdmitterCall}

/-- Whoever is queued came with one of the calls, and no more are active than may be. -/
structure Arrived (start : ConnectionAdmitter) (d : Desk) (calls : List AdmitterCall) : Prop where
  limits : SameLimits start d.admitter
  queued : ∀ q ∈ d.admitter.queue, ∃ c ∈ calls, c.time = q.enqueueTime
  active_le : d.admitter.activeConnections ≤ max 0 d.admitter.maxConnections

variable {start : ConnectionAdmitter}

/-- The queue only loses entries. -/
theorem Arrived.of_subset {d' : Desk} (h : d.Arrived start calls) (c : AdmitterCall)
    (hlimits : SameLimits d.admitter d'.admitter) (hqueue : d'.admitter.queue ⊆ d.admitter.queue)
    (hactive : d'.admitter.activeConnections ≤
      max d.admitter.activeConnections d.admitter.maxConnections) :
    d'.Arrived start (calls ++ [c]) := by
  refine ⟨h.limits.trans hlimits, fun q hq ↦ ?_, ?_⟩
  · obtain ⟨c', hc', htime⟩ := h.queued q (hqueue hq)
    exact ⟨c', List.mem_append_left _ hc', htime⟩
  · have hle := h.active_le
    rw [hlimits.maxConnections]
    omega

theorem Arrived.step (h : d.Arrived start calls) (c : AdmitterCall) :
    (d.step c).Arrived start (calls ++ [c]) := by
  cases c with
  | requestAdmit limiter overloaded q =>
    have hrequested := requested_requestAdmit d.admitter limiter overloaded q
    have hactive := activeConnections_requestAdmit_le d.admitter limiter overloaded q
    rw [Desk.step]
    generalize (d.admitter.requestAdmit limiter overloaded q).1.result = result at hrequested
    generalize (d.admitter.requestAdmit limiter overloaded q).2.1 = b at hrequested hactive
    cases hrequested with
    | answered hne hqueue hlimits hle =>
      exact h.of_subset _ hlimits (List.Perm.of_eq hqueue).subset hactive
    | queued hfull hplace =>
      have hlimits := (sameLimits_enqueue d.admitter q).1
      refine ⟨h.limits.trans hlimits, fun q' hq' ↦ ?_, ?_⟩
      · obtain rfl | hold := mem_enqueue hq'
        · exact ⟨_, List.mem_append_right _ (List.mem_singleton_self _), rfl⟩
        · obtain ⟨c', hc', htime⟩ := h.queued q' hold
          exact ⟨c', List.mem_append_left _ hc', htime⟩
      · have hle := h.active_le
        rw [hlimits.maxConnections]
        simp only
        omega
  | releaseConnection now username =>
    obtain ⟨-, -, hqueue, hactive⟩ := releaseConnection_eq d.admitter now username
    have hlimits : SameLimits d.admitter (d.admitter.releaseConnection now username).2.2 := by
      obtain ⟨-, hlimits⟩ := releaseSlot_queue d.admitter username
      obtain ⟨-, hadmit, -⟩ := admitFromQueue_spec (d.admitter.releaseSlot username).queue
        (d.admitter.releaseSlot username)
      exact ⟨(hlimits.trans hadmit).1, (hlimits.trans hadmit).2, (hlimits.trans hadmit).3⟩
    refine h.of_subset _ hlimits ?_ (hactive.trans ?_)
    · exact hqueue ▸ fun q hq ↦ List.mem_of_mem_drop (List.mem_of_mem_filter hq)
    · rw [decrementClamped]
      split <;> omega
  | checkQueueTimeouts now =>
    refine h.of_subset _ ⟨rfl, rfl, rfl⟩ ?_ (le_max_left _ _)
    exact List.filter_subset_self _

theorem Arrived.foldl (h : d.Arrived start []) (calls : List AdmitterCall) :
    (calls.foldl Desk.step d).Arrived start calls := by
  induction calls using List.reverseRecOn with
  | nil => exact h
  | append_singleton calls c ih =>
    rw [List.foldl_append]
    exact ih.step c

theorem arrived_opened (maxConnections maxConnectionsPerUser : Int) (queueEnabled : Bool)
    (maxQueueSize queueTimeoutSeconds : Int) :
    let d := opened maxConnections maxConnectionsPerUser queueEnabled maxQueueSize
      queueTimeoutSeconds
    d.Arrived d.admitter [] where
  limits := ⟨rfl, rfl, rfl⟩
  queued _ hq := absurd hq List.not_mem_nil
  active_le := le_max_left _ _

/-- Where the queue is as a run leaves it, a release admits its first entry. -/
theorem forall_take_room_iff (htogether : d.Together) (hle : d.admitter.activeConnections ≤
    max 0 d.admitter.maxConnections) (p : QueuedConnection → Prop) :
    (∀ q ∈ d.admitter.queue.take d.admitter.room, p q) ↔
      (0 < d.admitter.maxConnections → ∀ q ∈ d.admitter.queue.head?, p q) := by
  have hfull := htogether.full
  cases hqueue : d.admitter.queue with
  | nil => simp
  | cons first rest =>
    have hge : d.admitter.maxConnections ≤ d.admitter.activeConnections :=
      hfull (hqueue ▸ List.cons_ne_nil first rest)
    by_cases hpos : 0 < d.admitter.maxConnections
    · have hroom : d.admitter.room = 1 := by
        rw [room, decrementClamped_of_pos (by omega)]
        omega
      simp [hroom, hpos]
    · have hroom : d.admitter.room = 0 := by
        rw [room, decrementClamped, if_neg (by omega)]
        omega
      simp [hroom, hpos]

/-- Every release of a run is in time. -/
def NeverAdmitsExpired (d : Desk) (calls : List AdmitterCall) : Prop :=
  ∀ pre now username post, calls = pre ++ .releaseConnection now username :: post →
    (pre.foldl step d).admitter.Timely now username

/-- At every release of a run the entry at the front of the queue is not overdue, unless nobody is
ever admitted. -/
def FrontInTime (d : Desk) (calls : List AdmitterCall) : Prop :=
  ∀ pre now username post, calls = pre ++ .releaseConnection now username :: post →
    0 < (pre.foldl step d).admitter.maxConnections →
    ∀ q ∈ (pre.foldl step d).admitter.queue.head?,
      ¬ Overdue (pre.foldl step d).admitter.queueTimeoutSeconds now q

/-- **When no expired request is admitted**, of calls in the order of their times. -/
theorem neverAdmitsExpired_iff (maxConnections maxConnectionsPerUser : Int) (queueEnabled : Bool)
    (maxQueueSize queueTimeoutSeconds : Int) (calls : List AdmitterCall)
    (hordered : (calls.map AdmitterCall.time).Pairwise (· ≤ ·)) :
    NeverAdmitsExpired (opened maxConnections maxConnectionsPerUser queueEnabled maxQueueSize
        queueTimeoutSeconds) calls ↔
      FrontInTime (opened maxConnections maxConnectionsPerUser queueEnabled maxQueueSize
        queueTimeoutSeconds) calls := by
  refine forall_congr' fun pre ↦ forall_congr' fun now ↦ forall_congr' fun username ↦
    forall_congr' fun post ↦ forall_congr' fun hcalls ↦ ?_
  have htogether := (together_opened maxConnections maxConnectionsPerUser queueEnabled maxQueueSize
    queueTimeoutSeconds).foldl pre
  have harrived := (arrived_opened maxConnections maxConnectionsPerUser queueEnabled maxQueueSize
    queueTimeoutSeconds).foldl pre
  rw [timely_iff, forall_take_room_iff htogether harrived.active_le]
  intro q hq
  obtain ⟨c, hc, htime⟩ := harrived.queued q hq
  rw [hcalls, List.map_append, List.pairwise_append] at hordered
  rw [← htime]
  exact hordered.2.2 c.time (List.mem_map_of_mem hc) now List.mem_cons_self

def sampleRequest : QueuedConnection where
  sessionId := []
  username := ByteString.ofString "alice"
  clientIp := ByteString.ofString "10.0.0.9"
  enqueueTime := 0
  onAdmit := some 1
  onTimeout := some 2
  isReconnect := false

/-- One slot, taken, and a request that waits for it as long as it may. -/
def sampleWait : List AdmitterCall :=
  [.requestAdmit {} false { sampleRequest with sessionId := ByteString.ofString "s" },
    .requestAdmit {} false { sampleRequest with sessionId := ByteString.ofString "t" },
    .releaseConnection 60000000000 sampleRequest.username]

theorem neverAdmitsExpired_sampleWait : NeverAdmitsExpired (opened 1 50 true 200 60) sampleWait ↔
    FrontInTime (opened 1 50 true 200 60) sampleWait :=
  neverAdmitsExpired_iff 1 50 true 200 60 sampleWait (by decide)

/-- It is admitted. -/
theorem not_neverAdmitsExpired_sampleWait :
    ¬ NeverAdmitsExpired (opened 1 50 true 200 60) sampleWait := by
  intro h
  have hadmitted := (h (sampleWait.take 2) _ _ [] rfl).admitted
  exact absurd hadmitted (by decide)

end Desk

end LanProxyGateway
