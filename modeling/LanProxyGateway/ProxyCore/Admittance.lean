import LanProxyGateway.ProxyCore.Exceptions
import LanProxyGateway.ProxyCore.Slots

/-!
# What happens at the connection limit?

`start` passes two gates. The overload protector is asked first; then the session counts itself, and
the admitter asks the protector again before it compares its own count with its own limit. The
second question finds the count one higher than the first, so with the same limit `N` in both
components the `N`-th client is turned away as overload, and a client above the limit never reaches
the queue (`capacity_iff`).

With a larger limit in the protector the queue is reached, and then it does not hold anybody back:
the session is given no callback and goes on with its handshake at once, while its entry waits
(`queueing_iff`). Only where nobody is queued is the limit of the admitter a limit on the sessions
that are being served.
-/

open Foundation ByteString

namespace LanProxyGateway

/-! ## The checks in front of the limits -/

/-- A client at this address passes the rate check of `start`, the same check in `request_admit`,
the check for a ban, and the limit for the empty user name. -/
structure Gateway.Passes (g : Gateway) (now : SteadyTime) (ip : ByteString) : Prop where
  rate : (g.limiter.checkConnectionRate now ip).1 = true
  rateAgain : ((g.limiter.checkConnectionRate now ip).2.checkConnectionRate now ip).1 = true
  notBanned : ((g.limiter.checkConnectionRate now ip).2.checkConnectionRate now ip).2.checkAuthRate
    now ip = true
  user : g.admitter.userLimitReached [] = false

/-- The overload protector lets a client through, before and after the session has counted
itself. -/
structure Gateway.NotOverloaded (g : Gateway) (usage : SystemUsage) : Prop where
  before : g.overload.isOverloaded usage = false
  after : g.overload.incTotalConnections.isOverloaded usage = false

namespace Session

open SessionM

variable {env : Environment} {a : Arrival} {g : Gateway} {ep : Endpoint}

/-- What the admitter answers when `start` asks it. -/
def answer (env : Environment) (g : Gateway) (s : Session) (ip : AsciiText) :
    AdmitResponse × ConnectionAdmitter × RateLimiter :=
  g.admitter.requestAdmit (g.limiter.checkConnectionRate env.now ip.bytes).2
    (g.overload.incTotalConnections.isOverloaded env.usage) (admitRequest env s ip)

/-- The session after `start` and the admitter match the answer. -/
structure Answered (r : AdmitResponse × ConnectionAdmitter × RateLimiter) (a : Arrival) (t : Ctx) :
    Prop where
  letIn : isRejection r.1.result = false → LetIn t r.1.result
  turnedAway : isRejection r.1.result = true → TurnedAway t [.requestAdmit r.1.result]
  admitter : t.gateway.admitter = r.2.1
  sessionId : t.self.sessionId = a.sessionId

theorem closeSession_keeps_sessionId (reason : Text) (s : Ctx) :
    wp (closeSession env reason) (fun _ t ↦ t.self.sessionId = s.self.sessionId)
      (fun _ ↦ True) s := by
  simp only [closeSession, logClose, dumpStats, wp_bind, wp_modifySelf, wp_call, wp_get,
    wp_modifyGateway, wp_ite, wp_log, wp_pure, wp_throw, implies_true, and_true]

theorem onAdmission_keeps_sessionId (response : AdmitResponse) (s : Ctx) :
    wp (onAdmission env response) (fun _ t ↦ t.self.sessionId = s.self.sessionId)
      (fun _ ↦ True) s := by
  simp only [onAdmission, doHandshake, wp_bind, wp_get, wp_ite, wp_log, wp_modifySelf,
    wp_modifyGateway, wp_post, implies_true, and_true]
  exact fun _ _ ↦ closeSession_keeps_sessionId _ _

theorem onAdmission_answered {r : AdmitResponse × ConnectionAdmitter × RateLimiter} {s : Ctx}
    (hadmitter : s.gateway.admitter = r.2.1) (hid : s.self.sessionId = a.sessionId)
    (htrace : s.self.trace = [.requestAdmit r.1.result]) (hpending : s.self.pending = [])
    (hopen : s.self.isOpen = true) (hadmitted : s.self.admitted = false)
    (husername : s.self.username = []) :
    wp (onAdmission env r.1) (fun _ t ↦ Answered r a t) (fun _ ↦ True) s := by
  have hkeep : wp (onAdmission env r.1) (fun _ t ↦ t.self.sessionId = s.self.sessionId)
      (fun _ ↦ True) s := onAdmission_keeps_sessionId r.1 s
  rcases hr : isRejection r.1.result with _ | _
  · refine wp_mono (wp_and (letIn_of_onAdmission r.1 hr htrace hpending hopen husername) hkeep) ?_
      fun _ h ↦ h
    rintro _ t ⟨⟨ht, hledger⟩, hsame⟩
    refine ⟨fun _ ↦ ht, fun h ↦ ?_, ?_, hsame.trans hid⟩
    · rw [hr] at h
      cases h
    · exact (congrArg Ledger.admitter hledger).trans hadmitter
  · have hturned : wp (onAdmission env r.1) (fun _ t ↦ TurnedAway t [.requestAdmit r.1.result] ∧
        t.gateway.admitter = r.2.1) (fun _ ↦ True) s := by
      simp only [onAdmission, hr, wp_bind, wp_get, wp_ite, wp_log, wp_modifyGateway, implies_true,
        and_true, not_true_eq_false, false_imp_iff, forall_const]
      intro _
      refine wp_mono (closeSession_turnsAway r.1.reason hpending hadmitted husername) ?_ fun _ h ↦ h
      rintro _ t ⟨ht, hledger⟩
      rw [htrace] at ht
      exact ⟨ht, (congrArg Ledger.admitter hledger).trans hadmitter⟩
    refine wp_mono (wp_and hturned hkeep) ?_ fun _ h ↦ h
    rintro _ t ⟨⟨ht, ha⟩, hsame⟩
    refine ⟨fun h ↦ ?_, fun _ ↦ ht, ha, hsame.trans hid⟩
    rw [hr] at h
    cases h

/-- `start` asks the admitter where the first two checks let it. -/
theorem start_answered (hremote : a.remote = some ep)
    (hfree : g.overload.isOverloaded env.usage = false)
    (hrate : (g.limiter.checkConnectionRate env.now (ep.address.text env.v6Text).bytes).1 = true) :
    wp (start env a.remote)
      (fun _ t ↦ Answered (answer env g a.session (ep.address.text env.v6Text)) a t)
      (fun _ ↦ True) ⟨a.session, g⟩ := by
  rw [hremote]
  simp only [start, wp_bind, wp_modifySelf, wp_get, wp_ite, wp_modifyGateway, hfree, hrate,
    Bool.false_eq_true, false_imp_iff, true_and, not_false_eq_true, forall_const, not_true_eq_false,
    and_true, requestAdmission, wp_call]
  exact onAdmission_answered rfl rfl rfl rfl rfl rfl rfl

/-- Elsewhere it turns the client away and leaves the admitter alone. -/
theorem start_unasked (hremote : a.remote = some ep)
    (h : g.overload.isOverloaded env.usage = true ∨
      (g.limiter.checkConnectionRate env.now (ep.address.text env.v6Text).bytes).1 = false) :
    wp (start env a.remote) (fun _ t ↦ t.gateway.admitter = g.admitter) (fun _ ↦ True)
      ⟨a.session, g⟩ := by
  have hclose : ∀ (reason : Text) (s : Ctx), s.self.pending = [] → s.self.admitted = false →
      s.self.username = [] → s.gateway.admitter = g.admitter →
      wp (closeSession env reason) (fun _ t ↦ t.gateway.admitter = g.admitter)
        (fun _ ↦ True) s := by
    intro reason s hpending hadmitted husername hadmitter
    refine wp_mono (closeSession_turnsAway reason hpending hadmitted husername) ?_ fun _ h ↦ h
    exact fun _ t ht ↦ (congrArg Ledger.admitter ht.2).trans hadmitter
  rw [hremote]
  simp only [start, wp_bind, wp_modifySelf, wp_get, wp_ite, wp_log, wp_modifyGateway, implies_true,
    and_true]
  refine ⟨fun _ _ ↦ hclose _ _ rfl rfl rfl rfl, fun hfree ↦ ⟨fun hrate ↦ ?_, fun _ _ ↦ ?_⟩⟩
  · rcases h with hover | hslow
    · exact absurd hover hfree
    · rw [hslow] at hrate
      cases hrate
  · exact hclose _ _ rfl rfl rfl rfl

/-! ### The answers -/

theorem answer_of_passes {s : Session} {ip : AsciiText} (hp : g.Passes env.now ip.bytes)
    (hn : g.overload.incTotalConnections.isOverloaded env.usage = false) :
    answer env g s ip = ((g.admitter.requestSlot (admitRequest env s ip)).1,
      (g.admitter.requestSlot (admitRequest env s ip)).2,
      ((g.limiter.checkConnectionRate env.now ip.bytes).2.checkConnectionRate env.now
        ip.bytes).2) := by
  have hrate := hp.rateAgain
  have hbanned := hp.notBanned
  rw [answer, ConnectionAdmitter.requestAdmit, hn]
  simp only [admitRequest] at hrate hbanned ⊢
  simp only [hrate, hbanned, Bool.not_true, Bool.false_eq_true, if_false]

theorem answer_of_overloaded {s : Session} {ip : AsciiText} (hp : g.Passes env.now ip.bytes)
    (ho : g.overload.incTotalConnections.isOverloaded env.usage = true) :
    (answer env g s ip).1.result = .rejectedOverload := by
  have hrate := hp.rateAgain
  have hbanned := hp.notBanned
  rw [answer, ConnectionAdmitter.requestAdmit, ho]
  simp only [admitRequest] at hrate hbanned ⊢
  simp only [hrate, hbanned, Bool.not_true, Bool.false_eq_true, if_false, if_true]

theorem requestSlot_of_room {a : ConnectionAdmitter} {q : QueuedConnection}
    (hu : a.userLimitReached q.username = false)
    (hroom : a.activeConnections < a.maxConnections) : (a.requestSlot q).1.result = .accepted := by
  rw [ConnectionAdmitter.requestSlot, hu, if_neg Bool.false_ne_true, if_neg (not_le.mpr hroom)]

theorem requestSlot_of_wouldQueue {a : ConnectionAdmitter} {q : QueuedConnection}
    (hu : a.userLimitReached q.username = false) (hw : a.WouldQueue) :
    (a.requestSlot q).1.result = .queued ∧ (a.requestSlot q).2 = a.enqueue q := by
  obtain ⟨hfull, henabled, hspace⟩ := hw
  rw [ConnectionAdmitter.requestSlot, hu, if_neg Bool.false_ne_true, if_pos hfull, henabled,
    Bool.not_true, if_neg Bool.false_ne_true, if_neg (not_le.mpr hspace)]
  exact ⟨rfl, rfl⟩

theorem Answers.queue {a b : ConnectionAdmitter} {q : QueuedConnection} {result : AdmitResult}
    (h : Answers a q result b) :
    b.queue = a.queue ∨ a.userLimitReached q.username = false ∧ a.WouldQueue := by
  rcases h with - | - | ⟨hlimit, hfull, henabled, hspace⟩
  · exact .inl rfl
  · exact .inl rfl
  · exact .inr ⟨hlimit, hfull, henabled, hspace⟩

/-- An answer leaves the queue alone, or it is `queued` and every check in front of it was
passed. -/
theorem answer_queue (env : Environment) (g : Gateway) (s : Session) (ip : AsciiText)
    (hrate : (g.limiter.checkConnectionRate env.now ip.bytes).1 = true) :
    (answer env g s ip).2.1.queue = g.admitter.queue ∨ g.Passes env.now ip.bytes ∧
      g.overload.incTotalConnections.isOverloaded env.usage = false ∧ g.admitter.WouldQueue := by
  rw [answer, ConnectionAdmitter.requestAdmit]
  simp only [admitRequest]
  have hif : ∀ {c : Bool} {x y : AdmitResponse × ConnectionAdmitter × RateLimiter} {P : Prop},
      x.2.1.queue = g.admitter.queue → (c = false → y.2.1.queue = g.admitter.queue ∨ P) →
      (if c then x else y).2.1.queue = g.admitter.queue ∨ P := by
    intro c x y P hx hy
    rcases c with _ | _
    · exact hy rfl
    · exact .inl hx
  refine hif rfl fun hagain ↦ hif rfl fun hbanned ↦ hif rfl fun hover ↦ ?_
  rw [Bool.not_eq_false'] at hagain hbanned
  rcases (answers_requestSlot g.admitter _).queue with hsame | ⟨hu, hwould⟩
  · exact .inl hsame
  · exact .inr ⟨⟨hrate, hagain, hbanned, hu⟩, hover, hwould⟩

end Session

namespace World

variable {w t : World} {e : Event} {env : Environment} {a : Arrival} {ep : Endpoint}

/-- A client that is still there is started without an exception. -/
theorem exists_step_start (w : World) (env : Environment) (hremote : a.remote = some ep) :
    ∃ c, Session.start env a.remote ⟨a.session, w.gateway⟩ = .ok ((), c) ∧
      w.step (.start env a) = .ok ⟨c.gateway, w.sessions ++ [c.self]⟩ := by
  have hok : (∃ x c, Session.start env a.remote ⟨a.session, w.gateway⟩ = .ok (x, c)) ↔
      a.remote ≠ none := exists_ok_iff_of_wp (Session.start_decides a w.gateway)
  obtain ⟨⟨⟩, c, hc⟩ := hok.mpr (hremote ▸ Option.some_ne_none ep)
  refine ⟨c, hc, ?_⟩
  rw [World.step, hc]
  rfl

/-! ## The configured capacity -/

/-- `start` lets the client in, with this answer of the admitter. -/
def Admits (w : World) (env : Environment) (a : Arrival) (result : AdmitResult) : Prop :=
  ∃ t s, w.step (.start env a) = .ok t ∧ t.sessions = w.sessions ++ [s] ∧
    s.trace = [.requestAdmit result] ∧ s.admitted = true

/-- The three counters agree with the number of live sessions, and the two limits are `N`. -/
structure Consistent (w : World) (N : Int) : Prop where
  total : w.gateway.overload.totalConnections = w.live
  active : w.gateway.admitter.activeConnections = w.live
  overloadLimit : w.gateway.overload.maxTotalConnections = N
  admitterLimit : w.gateway.admitter.maxConnections = N

/-- The queue is enabled and has room. -/
def QueueHasRoom (w : World) : Prop :=
  w.gateway.admitter.queueEnabled = true ∧
    (w.gateway.admitter.queue.length : Int) < w.gateway.admitter.maxQueueSize

theorem not_admits_of_trace {result : AdmitResult}
    (h : wp (Session.start env a.remote)
      (fun _ t ↦ t.self.trace ≠ [.requestAdmit result]) (fun _ ↦ True) ⟨a.session, w.gateway⟩) :
    ¬w.Admits env a result := by
  rintro ⟨t, s, ht, hsessions, htrace, -⟩
  rw [World.step] at ht
  rcases hr : Session.start env a.remote ⟨a.session, w.gateway⟩ with x | ⟨⟨⟩, c⟩
  · rw [hr] at ht
    cases ht
  · rw [hr] at ht
    obtain rfl := Except.ok.inj ht
    obtain rfl := List.singleton_inj.mp (List.append_cancel_left hsessions)
    exact wp_of_ok h hr htrace

theorem admits_of_answer {result : AdmitResult} (hremote : a.remote = some ep)
    (hfree : w.gateway.overload.isOverloaded env.usage = false)
    (hrate : (w.gateway.limiter.checkConnectionRate env.now
      (ep.address.text env.v6Text).bytes).1 = true)
    (hanswer : (Session.answer env w.gateway a.session
      (ep.address.text env.v6Text)).1.result = result)
    (hlet : Session.isRejection result = false) : w.Admits env a result := by
  obtain ⟨c, hc, hstep⟩ := exists_step_start w env hremote
  have hanswered := wp_of_ok (Session.start_answered hremote hfree hrate) hc
  subst hanswer
  have hin := hanswered.letIn hlet
  exact ⟨_, c.self, hstep, rfl, hin.trace, hin.admitted⟩

section Capacity

variable {N : Int} (hw : w.Consistent N) (hremote : a.remote = some ep)
  (hfd : env.usage.fdExceeded = false) (hmem : env.usage.memExceeded = false)

include hw hfd hmem

/-- The protector has counted the live sessions. -/
theorem Consistent.isOverloaded_iff :
    w.gateway.overload.isOverloaded env.usage = true ↔ N ≤ w.live := by
  rw [OverloadProtector.isOverloaded, hfd, hmem, ← hw.overloadLimit, ← hw.total]
  simp

/-- A session that asks has been counted itself. -/
theorem Consistent.isOverloaded_inc_iff :
    w.gateway.overload.incTotalConnections.isOverloaded env.usage = true ↔
      N ≤ (w.live : Int) + 1 := by
  have hinc : w.gateway.overload.incTotalConnections.totalConnections = w.live + 1 :=
    congrArg (· + 1) hw.total
  have hmax : w.gateway.overload.incTotalConnections.maxTotalConnections = N := hw.overloadLimit
  rw [OverloadProtector.isOverloaded, hfd, hmem, ← hinc, ← hmax]
  simp

include hremote

/-- With no slot free the first question is answered with overload, and the second is not asked. -/
theorem Consistent.not_admits_queued (hfull : N ≤ w.live) : ¬w.Admits env a .queued := by
  have hover := (hw.isOverloaded_iff hfd hmem).mpr hfull
  refine not_admits_of_trace ?_
  rw [hremote]
  simp only [Session.start, wp_bind, SessionM.wp_modifySelf, wp_get, wp_ite, SessionM.wp_log,
    hover, not_true_eq_false, false_imp_iff, and_true, forall_const, implies_true]
  intro _
  refine wp_mono (Session.closeSession_turnsAway _ rfl rfl rfl) (fun _ t ht ↦ ?_) fun _ h ↦ h
  obtain ⟨reason, htrace⟩ := ht.1.trace
  rw [htrace]
  intro heq
  cases List.singleton_inj.mp heq

variable (hpass : w.gateway.Passes env.now (ep.address.text env.v6Text).bytes)

include hpass

/-- With two slots free the session passes the second question as well. -/
theorem Consistent.admits_accepted (hroom : (w.live : Int) + 1 < N) :
    w.Admits env a .accepted := by
  have hfree : w.gateway.overload.isOverloaded env.usage = false := by
    rw [← Bool.not_eq_true, hw.isOverloaded_iff hfd hmem]
    omega
  have hstill : w.gateway.overload.incTotalConnections.isOverloaded env.usage = false := by
    rw [← Bool.not_eq_true, hw.isOverloaded_inc_iff hfd hmem]
    omega
  refine admits_of_answer hremote hfree hpass.rate ?_ rfl
  rw [Session.answer_of_passes hpass hstill]
  refine Session.requestSlot_of_room hpass.user ?_
  rw [hw.active, hw.admitterLimit]
  omega

/-- With one slot free the session itself makes the protector say overload. -/
theorem Consistent.not_admits_accepted (hlt : (w.live : Int) < N)
    (hlast : N ≤ (w.live : Int) + 1) : ¬w.Admits env a .accepted := by
  have hfree : w.gateway.overload.isOverloaded env.usage = false := by
    rw [← Bool.not_eq_true, hw.isOverloaded_iff hfd hmem]
    omega
  have hrejected := Session.answer_of_overloaded (s := a.session) hpass
    ((hw.isOverloaded_inc_iff hfd hmem).mpr hlast)
  refine not_admits_of_trace (wp_mono (Session.start_answered hremote hfree hpass.rate)
    (fun _ t ht ↦ ?_) fun _ h ↦ h)
  obtain ⟨reason, htrace⟩ := (ht.turnedAway (by rw [hrejected]; rfl)).trace
  rw [htrace]
  exact fun heq ↦ absurd (congrArg List.length heq) (by simp)

end Capacity

/-- **Which part of the capacity can be used.** With the same limit `N` in the protector and in the
admitter, consistent counters and at most `N` live sessions, a client that passes every other check
is accepted below the limit and queued at the limit exactly when two slots are free, or when there
is no room in the queue to speak of. -/
theorem capacity_iff {N : Int} (hw : w.Consistent N) (hle : (w.live : Int) ≤ N)
    (hremote : a.remote = some ep) (hfd : env.usage.fdExceeded = false)
    (hmem : env.usage.memExceeded = false)
    (hpass : w.gateway.Passes env.now (ep.address.text env.v6Text).bytes) :
    (((w.live : Int) < N → w.Admits env a .accepted) ∧
      ((w.live : Int) = N → w.QueueHasRoom → w.Admits env a .queued)) ↔
      (w.live : Int) + 1 < N ∨ (w.live : Int) = N ∧ ¬w.QueueHasRoom := by
  rcases lt_or_eq_of_le hle with hlt | heq
  · rcases lt_or_ge ((w.live : Int) + 1) N with hroom | hlast
    · exact iff_of_true ⟨fun _ ↦ hw.admits_accepted hremote hfd hmem hpass hroom,
        fun heq ↦ absurd heq hlt.ne⟩ (.inl hroom)
    · refine iff_of_false (fun h ↦ ?_) fun h ↦ ?_
      · exact hw.not_admits_accepted hremote hfd hmem hpass hlt hlast (h.1 hlt)
      · rcases h with h | ⟨h, -⟩
        · exact absurd h (not_lt.mpr hlast)
        · exact absurd h hlt.ne
  · have hnot := hw.not_admits_queued hremote hfd hmem heq.ge
    constructor
    · exact fun h ↦ .inr ⟨heq, fun hspace ↦ hnot (h.2 heq hspace)⟩
    · intro h
      refine ⟨fun hlt ↦ absurd heq hlt.ne, fun _ hspace ↦ ?_⟩
      rcases h with h | ⟨-, hnone⟩
      · omega
      · exact absurd hspace hnone

/-- An empty proxy with the limit `N` in both components. -/
def limitedTo (N : Int) : World where
  gateway := { overload := { maxTotalConnections := N }, admitter := { maxConnections := N } }

theorem passes_limitedTo (N : Int) : (limitedTo N).gateway.Passes
    (sampleEnvironment .direct).now ((sampleEndpoint 5000).address.text
      (sampleEnvironment .direct).v6Text).bytes := by
  -- the limits are no part of these checks
  have hpass : Gateway.Passes {} (sampleEnvironment .direct).now
      ((sampleEndpoint 5000).address.text (sampleEnvironment .direct).v6Text).bytes :=
    ⟨rfl, by decide +kernel, by decide +kernel, rfl⟩
  exact ⟨hpass.rate, hpass.rateAgain, hpass.notBanned, rfl⟩

theorem consistent_limitedTo (N : Int) : (limitedTo N).Consistent N := ⟨rfl, rfl, rfl, rfl⟩

/-- A client at `sampleEndpoint`. -/
def otherArrival : Arrival := ⟨.lit "0c0ffee0", zeroBuffer, zeroBuffer, some (sampleEndpoint 5000)⟩

/-- With a limit of two the first client is accepted. -/
theorem limitedTo_two_admits : (limitedTo 2).Admits (sampleEnvironment .direct) otherArrival
    .accepted :=
  ((capacity_iff (consistent_limitedTo 2) (by decide) rfl rfl rfl (passes_limitedTo 2)).mpr
    (.inl (by decide))).1 (by decide)

/-- With a limit of one it is not: the only slot there is cannot be used. -/
theorem limitedTo_one_rejects : (limitedTo 1).Consistent 1 ∧ ((limitedTo 1).live : Int) < 1 ∧
    ¬(limitedTo 1).Admits (sampleEnvironment .direct) otherArrival .accepted := by
  refine ⟨consistent_limitedTo 1, by decide, ?_⟩
  have hrun : ((limitedTo 1).step (.start (sampleEnvironment .direct) otherArrival)).toOption.map
      (fun w ↦ w.sessions.map fun s ↦ s.admitted) = some [false] := by decide +kernel
  rintro ⟨t, s, ht, hsessions, -, hadmitted⟩
  rw [ht] at hrun
  have hobs : t.sessions.map (fun s ↦ s.admitted) = [false] := Option.some.inj hrun
  rw [hsessions, show (limitedTo 1).sessions = [] from rfl, List.nil_append, List.map_singleton,
    List.singleton_inj, hadmitted] at hobs
  cases hobs

/-! ## The queue -/

/-- The admitter has answered `queued`, and the entry of the session is still in the queue. -/
def Queueing (a : ConnectionAdmitter) (s : Session) : Prop :=
  .requestAdmit .queued ∈ s.trace ∧ ∃ q ∈ a.queue, q.sessionId = s.sessionId.bytes

/-- Whoever is in the queue has not started anything. -/
def QueuedWait (w : World) : Prop :=
  ∀ s ∈ w.sessions, Queueing w.gateway.admitter s → s.pending = []

/-- A client passes every check and finds no slot left, but a place in the queue. -/
def Queues (w : World) (e : Event) : Prop :=
  ∃ env a ep, e = .start env a ∧ a.remote = some ep ∧
    w.gateway.Passes env.now (ep.address.text env.v6Text).bytes ∧
    w.gateway.NotOverloaded env.usage ∧ w.gateway.admitter.WouldQueue

theorem queue_releaseConnection_of_nil {a : ConnectionAdmitter} (h : a.queue = [])
    (now : SteadyTime) (username : ByteString) :
    (a.releaseConnection now username).2.2.queue = [] := by
  obtain ⟨users, hslot⟩ := ConnectionAdmitter.releaseSlot_eq a username
  rw [ConnectionAdmitter.releaseConnection, ConnectionAdmitter.dequeueConnections, hslot, h]
  rfl

/-- Nobody gets into the queue but by a step of this kind. -/
theorem queue_nil_of_step (hq : w.gateway.admitter.queue = []) (hn : ¬Queues w e)
    (ht : w.step e = .ok t) : t.gateway.admitter.queue = [] := by
  rcases step_cases ht with rfl | ⟨env, a, c, rfl, hstart, rfl⟩ |
    ⟨i, k, completion, env, s, p, m, c, rfl, hs, hp, hm, hrun, rfl⟩
  · exact hq
  · show c.gateway.admitter.queue = []
    rcases hremote : a.remote with _ | ep
    · rw [hremote] at hstart
      cases hstart
    by_cases hasked : w.gateway.overload.isOverloaded env.usage = false ∧
      (w.gateway.limiter.checkConnectionRate env.now (ep.address.text env.v6Text).bytes).1 = true
    · have hanswered := wp_of_ok (Session.start_answered hremote hasked.1 hasked.2) hstart
      rw [hanswered.admitter]
      rcases Session.answer_queue env w.gateway a.session (ep.address.text env.v6Text) hasked.2 with
        hsame | ⟨hpass, hafter, hwould⟩
      · exact hsame.trans hq
      · exact absurd ⟨env, a, ep, rfl, hremote, hpass, ⟨hasked.1, hafter⟩, hwould⟩ hn
    · rw [not_and_or, Bool.not_eq_false, Bool.not_eq_true] at hasked
      rw [wp_of_ok (Session.start_unasked hremote hasked) hstart]
      exact hq
  · obtain ⟨calls, ops, hy⟩ := wp_of_ok (Session.dispatch_reacts hm _) hrun
    have hadmitter : c.gateway.admitter = c.gateway.ledger.admitter := rfl
    rw [hadmitter]
    rcases hy.settles with ⟨-, -, hledger⟩ | ⟨reason, -, -, hledger⟩
    · rw [hledger]
      exact hq
    · rw [hledger]
      split
      · exact queue_releaseConnection_of_nil hq _ _
      · exact hq

/-- A client that is queued reads its first bytes while its entry waits. -/
theorem not_queuedWait_of_queues (hn : Queues w e) : ∃ t, w.step e = .ok t ∧ ¬t.QueuedWait := by
  obtain ⟨env, a, ep, rfl, hremote, hpass, hover, hwould⟩ := hn
  obtain ⟨c, hc, hstep⟩ := exists_step_start w env hremote
  have hanswered := wp_of_ok (Session.start_answered hremote hover.before hpass.rate) hc
  have hslot := Session.requestSlot_of_wouldQueue (q := Session.admitRequest env a.session
    (ep.address.text env.v6Text)) hpass.user hwould
  have hanswer := Session.answer_of_passes (s := a.session) hpass hover.after
  rw [hanswer] at hanswered
  have hin := hanswered.letIn (by rw [hslot.1]; rfl)
  rw [hslot.1] at hin
  have hadmitter := hanswered.admitter
  rw [hslot.2] at hadmitter
  refine ⟨_, hstep, fun hwait ↦ ?_⟩
  have hmem : c.self ∈ w.sessions ++ [c.self] :=
    List.mem_append_right _ (List.mem_singleton_self _)
  have hpending := hwait c.self hmem ⟨?_, Session.admitRequest env a.session
    (ep.address.text env.v6Text), ?_, ?_⟩
  · rw [hin.pending] at hpending
    cases hpending
  · rw [hin.trace]
    exact List.mem_singleton_self _
  · rw [hadmitter]
    exact List.mem_append_right _ (List.mem_singleton_self _)
  · rw [hanswered.sessionId]
    rfl

/-- The invariant of runs in which nobody is queued and nobody closed twice. -/
structure Unqueued (w : World) : Prop where
  orderly : ∀ s ∈ w.sessions, s.Orderly
  seats : w.gateway.admitter.Seats w.live
  queue : w.gateway.admitter.queue = []

theorem Unqueued.step (hw : w.Unqueued) (hn : ¬Queues w e) (hc : ¬ClosesAgain w e)
    (ht : w.step e = .ok t) : t.Unqueued := by
  have hm := moves_of_step ht
  have hfresh : ¬OutwaitsQueue w e := by
    rintro ⟨i, k, c, env, -, q, hq, -⟩
    rw [hw.queue] at hq
    exact absurd hq List.not_mem_nil
  exact ⟨hm.orderly hw.orderly, (hm.accounts hw.orderly hc).seats hfresh hw.seats,
    queue_nil_of_step hw.queue hn ht⟩

theorem Unqueued.live_le (hw : w.Unqueued) (hmax : 0 ≤ w.gateway.admitter.maxConnections) :
    (w.live : Int) ≤ w.gateway.admitter.maxConnections := by
  rw [← hw.seats.eq_of_queue_nil hw.queue]
  rcases hmax.lt_or_eq with hpos | hzero
  · exact (hw.seats.seated hpos).2.1
  · rw [(hw.seats.closed hzero.ge).1]
    exact hmax

/-- **Who waits.** From an initial state, whoever is in the queue has not started anything in every
state of a run exactly when nobody is queued in the run. Where in addition no session is closed
twice, the live sessions are within the limit of the admitter. -/
theorem queueing_iff {w₀ : World} (h₀ : w₀.Initial) (es : List Event) :
    (Along World.step (fun w e ↦ ¬Queues w e) w₀ es ↔ Throughout World.step QueuedWait w₀ es) ∧
      (Along World.step (fun w e ↦ ¬Queues w e ∧ ¬ClosesAgain w e) w₀ es →
        Throughout World.step (fun w ↦ 0 ≤ w.gateway.admitter.maxConnections →
          (w.live : Int) ≤ w.gateway.admitter.maxConnections) w₀ es) := by
  constructor
  · refine along_iff_throughout (I := fun w : World ↦ w.gateway.admitter.queue = [])
      (fun w hq s _ hs ↦ ?_) (fun w e t hq hn ht ↦ queue_nil_of_step hq hn ht)
      (fun w e _ hn ↦ not_queuedWait_of_queues (not_not.mp hn)) h₀.queue
    obtain ⟨-, q, hmem, -⟩ := hs
    rw [hq] at hmem
    exact absurd hmem List.not_mem_nil
  · intro hc
    have hinit : w₀.Unqueued := by
      refine ⟨?_, seats_of_initial h₀, h₀.queue⟩
      rw [h₀.sessions]
      exact fun s hs ↦ absurd hs List.not_mem_nil
    exact hc.throughout (fun w hw ↦ hw.live_le) (fun w e t hw hce ht ↦ hw.step hce.1 hce.2 ht) hinit

/-- A proxy whose admitter has one slot, and whose protector has many. -/
def oneSlot : World where
  gateway := { admitter := { maxConnections := 1 } }

/-- Two clients connect. -/
def queueRun : List Event :=
  [.start (sampleEnvironment .direct) sampleArrival,
    .start (sampleEnvironment .direct) otherArrival]

/-- For two clients and one slot the two sides are equivalent, and as the next theorem shows,
false. -/
theorem queueRun_queueing_iff : Along World.step (fun w e ↦ ¬Queues w e) oneSlot queueRun ↔
    Throughout World.step QueuedWait oneSlot queueRun :=
  (queueing_iff ⟨rfl, rfl, rfl, rfl, rfl, rfl⟩ queueRun).1

/-- The second client is queued and served at the same time: two sessions are live with one slot. -/
theorem queueRun_not_queuedWait : ∃ w, Reachable World.step oneSlot w ∧ ¬w.QueuedWait ∧
    w.live = 2 ∧ w.gateway.admitter.maxConnections = 1 := by
  have hcounts : (run World.step oneSlot queueRun).toOption.map (fun w ↦ (w.live,
      w.gateway.admitter.maxConnections, w.gateway.admitter.queue.map (·.sessionId))) =
      some (2, 1, [otherArrival.sessionId.bytes]) := by decide +kernel
  have hstates : (run World.step oneSlot queueRun).toOption.map (fun w ↦
      (w.sessions.map (·.sessionId.bytes), w.sessions.map (·.trace), w.sessions.map (·.pending))) =
      some ([sampleArrival.sessionId.bytes, otherArrival.sessionId.bytes],
        [[.requestAdmit .accepted], [.requestAdmit .queued]],
        [[.read .handshake], [.read .handshake]]) := by decide +kernel
  obtain ⟨w, hw, hobs⟩ := exists_run_of_observation hcounts
  obtain ⟨w', hw', hobs'⟩ := exists_run_of_observation hstates
  obtain rfl := Except.ok.inj (hw.symm.trans hw')
  simp only [Prod.mk.injEq] at hobs hobs'
  obtain ⟨hlive, hmax, hqueue⟩ := hobs
  obtain ⟨hids, htraces, hpendings⟩ := hobs'
  refine ⟨w, ⟨queueRun, hw⟩, fun hwait ↦ ?_, hlive, hmax⟩
  obtain ⟨q, hq, hid⟩ : ∃ q ∈ w.gateway.admitter.queue,
      q.sessionId = otherArrival.sessionId.bytes :=
    List.mem_map.mp (hqueue ▸ List.mem_singleton_self _)
  -- the second session
  have hsecond : w.sessions[1]?.map (·.sessionId.bytes) = some otherArrival.sessionId.bytes := by
    rw [← List.getElem?_map, hids]
    rfl
  obtain ⟨s, hs, hsid⟩ := Option.map_eq_some_iff.mp hsecond
  have htrace : s.trace = [.requestAdmit .queued] := by
    have h := congrArg (fun l ↦ l[1]?) htraces
    simpa only [List.getElem?_map, hs, Option.map_some, List.getElem?_cons_succ,
      List.getElem?_cons_zero, Option.some.injEq] using h
  have hpending : s.pending = [.read .handshake] := by
    have h := congrArg (fun l ↦ l[1]?) hpendings
    simpa only [List.getElem?_map, hs, Option.map_some, List.getElem?_cons_succ,
      List.getElem?_cons_zero, Option.some.injEq] using h
  have hmem : s ∈ w.sessions := List.mem_of_getElem? hs
  have hnil := hwait s hmem ⟨htrace ▸ List.mem_singleton_self _, q, hq, hid.trans hsid.symm⟩
  rw [hpending] at hnil
  cases hnil

end World

end LanProxyGateway
