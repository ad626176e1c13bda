import LanProxyGateway.ProxyCore.Admittance

/-!
# Who is turned away for the rate?

`start` asks the rate limiter about the address of a client, and `request_admit`, which it calls
next, asks it again. Asking counts, so every connection that gets past the overload protector counts
twice, and one that finds room for only one more in the window of its address is turned away by the
second question. A limit of one connection per second lets nobody in.
-/

open Foundation ByteString

namespace LanProxyGateway

namespace RateLimiter

variable {r : RateLimiter} {now : SteadyTime} {ip : ByteString}

/-- The connections counted in the window of an address, if it is still open. -/
def windowCount (r : RateLimiter) (now : SteadyTime) (clientIp : ByteString) : Int :=
  match r.rates.lookup clientIp with
  | none => 0
  | some info => if 1 ≤ wholeSeconds (now - info.connWindowStart) then 0 else info.connCount

/-- Two questions at one time are both answered with yes exactly when there is room for two. -/
theorem checkConnectionRate_twice_iff :
    (r.checkConnectionRate now ip).1 = true ∧
        ((r.checkConnectionRate now ip).2.checkConnectionRate now ip).1 = true ↔
      r.windowCount now ip + 2 ≤ r.maxConnPerIpPerSec := by
  -- a window that has just been opened is open
  have hopen : ¬1 ≤ wholeSeconds (now - now) := by
    rw [Int.sub_self]
    decide
  rw [windowCount]
  rcases hlookup : r.rates.lookup ip with _ | info
  · simp only [checkConnectionRate, hlookup, AList.lookup_insert, hopen, if_false, true_and,
      decide_eq_true_eq]
    rfl
  · by_cases hold : 1 ≤ wholeSeconds (now - info.connWindowStart)
    · simp only [checkConnectionRate, hlookup, hold, if_true, AList.lookup_insert, hopen, if_false,
        true_and, decide_eq_true_eq]
      rfl
    · simp only [checkConnectionRate, hlookup, hold, if_false, AList.lookup_insert,
        decide_eq_true_eq]
      omega

end RateLimiter

namespace Session

open SessionM

/-- The session was turned away for the rate, by `start` or by `request_admit`. -/
def RateRejected (s : Session) : Prop :=
  s.trace.head? = some (.close (.lit "rate limited")) ∨
    s.trace.head? = some (.requestAdmit .rejectedRate)

variable {env : Environment} {a : Arrival} {g : Gateway} {ep : Endpoint}

theorem trace_closeSession (reason : Text) (s : Ctx) :
    wp (closeSession env reason) (fun _ t ↦ t.self.trace = s.self.trace ++ [.close reason])
      (fun _ ↦ True) s := by
  simp only [closeSession, logClose, dumpStats, wp_bind, wp_modifySelf, wp_call, wp_get,
    wp_modifyGateway, wp_ite, wp_log, wp_pure, wp_throw, implies_true, and_true]

/-- The first call of a session that `start` closes. -/
theorem head?_closeSession (reason : Text) {s : Ctx} (hs : s.self.trace = []) :
    wp (closeSession env reason) (fun _ t ↦ t.self.trace.head? = some (.close reason))
      (fun _ ↦ True) s := by
  refine wp_mono (trace_closeSession reason s) (fun _ t ht ↦ ?_) fun _ h ↦ h
  rw [ht, hs]
  rfl

/-- The admitter rejects for the rate when the limiter says so, and for no other reason. -/
theorem requestAdmit_eq_rejectedRate_iff (admitter : ConnectionAdmitter) (limiter : RateLimiter)
    (overloaded : Bool) (q : QueuedConnection) :
    (admitter.requestAdmit limiter overloaded q).1.result = .rejectedRate ↔
      (limiter.checkConnectionRate q.enqueueTime q.clientIp).1 = false := by
  rw [ConnectionAdmitter.requestAdmit]
  rcases limiter.checkConnectionRate q.enqueueTime q.clientIp with ⟨_ | _, limiter⟩
  · exact iff_of_true rfl rfl
  · refine iff_of_false ?_ Bool.true_eq_false.mp
    simp only [Bool.not_true, Bool.false_eq_true, if_false, ConnectionAdmitter.requestSlot]
    split_ifs <;> decide

/-- **Who is turned away for the rate**: whoever gets past the overload protector and does not find
room for two. -/
theorem start_rateRejected_iff (hremote : a.remote = some ep) :
    wp (start env a.remote) (fun _ t ↦ t.self.RateRejected ↔
      g.overload.isOverloaded env.usage = false ∧
        g.limiter.maxConnPerIpPerSec <
          g.limiter.windowCount env.now (ep.address.text env.v6Text).bytes + 2)
      (fun _ ↦ True) ⟨a.session, g⟩ := by
  set ip := ep.address.text env.v6Text with hip
  rcases hfree : g.overload.isOverloaded env.usage with _ | _
  rotate_left
  · -- the overload protector comes first
    rw [hremote]
    simp only [start, wp_bind, wp_modifySelf, wp_get, wp_ite, wp_log, hfree, not_true_eq_false,
      false_imp_iff, and_true, forall_const, implies_true]
    intro _
    refine wp_mono (head?_closeSession (.lit "system overloaded") rfl) (fun _ t ht ↦ ?_)
      fun _ h ↦ h
    rw [RateRejected, ht]
    exact iff_of_false (by decide) fun h ↦ absurd h.1 (by decide)
  rw [← not_le, ← RateLimiter.checkConnectionRate_twice_iff, hip, eq_self, true_and]
  rcases hrate : (g.limiter.checkConnectionRate env.now ip.bytes).1 with _ | _
  · rw [hremote]
    simp only [start, wp_bind, wp_modifySelf, wp_get, wp_ite, wp_log, wp_modifyGateway, hfree,
      ← hip, hrate, Bool.false_eq_true, false_imp_iff, true_and, not_false_eq_true, forall_const,
      implies_true, and_true]
    intro _
    refine wp_mono (head?_closeSession (.lit "rate limited") rfl) (fun _ t ht ↦ ?_) fun _ h ↦ h
    exact iff_of_true (.inl ht) fun h ↦ h.1
  · refine wp_mono (start_answered hremote hfree hrate) (fun _ t ht ↦ ?_) fun _ h ↦ h
    have hhead : t.self.trace.head? =
        some (.requestAdmit (answer env g a.session ip).1.result) := by
      rcases hr : isRejection (answer env g a.session ip).1.result with _ | _
      · rw [(ht.letIn hr).trace]
        rfl
      · obtain ⟨reason, htrace⟩ := (ht.turnedAway hr).trace
        rw [htrace]
        rfl
    have hclose : ∀ (result : AdmitResult) (reason : Text),
        some (Call.requestAdmit result) ≠ some (Call.close reason) :=
      fun _ _ h ↦ Call.noConfusion (Option.some.inj h)
    rw [RateRejected, hhead, or_iff_right (hclose _ _), Option.some.injEq, Call.requestAdmit.injEq,
      answer, requestAdmit_eq_rejectedRate_iff, ← Bool.not_eq_true]
    exact ⟨fun hnot hboth ↦ hnot hboth.2, fun hnot hsecond ↦ hnot ⟨rfl, hsecond⟩⟩

end Session

namespace World

/-- The event is a connection from the address. -/
def ConnectsFrom (ip : ByteString) (env : Environment) (a : Arrival) : Prop :=
  ∃ ep, a.remote = some ep ∧ (ep.address.text env.v6Text).bytes = ip

/-- A connection from the address that gets past the overload protector finds room for two. -/
def FindsRoom (ip : ByteString) (w : World) (e : Event) : Prop :=
  ∀ env a, e = .start env a → ConnectsFrom ip env a →
    w.gateway.overload.isOverloaded env.usage = false →
      w.gateway.limiter.windowCount env.now ip + 2 ≤ w.gateway.limiter.maxConnPerIpPerSec

/-- No connection from the address is turned away for the rate. -/
def NoneRateRejected (ip : ByteString) (w : World) (es : List Event) : Prop :=
  ∀ pre env a, pre ++ [.start env a] <+: es → ConnectsFrom ip env a →
    ∀ t, run step w (pre ++ [.start env a]) = .ok t →
      ∀ s, t.sessions.getLast? = some s → ¬s.RateRejected

/-- Whoever finds room for two is not turned away. -/
theorem noneRateRejected_of_along {w : World} {ip : ByteString} {es : List Event}
    (h : Along step (FindsRoom ip) w es) : NoneRateRejected ip w es := by
  rw [along_iff_forall_concat] at h
  rintro pre env a hpre ⟨ep, hremote, rfl⟩ t ht s hs
  obtain ⟨u, hu, hut⟩ := run_concat_iff.mp ht
  obtain ⟨c, hc, hstep⟩ := exists_step_start u env hremote
  obtain rfl := Except.ok.inj (hstep.symm.trans hut)
  obtain rfl : c.self = s := by rwa [List.getLast?_concat, Option.some.injEq] at hs
  rw [wp_of_ok (Session.start_rateRejected_iff hremote) hc, not_and, not_lt]
  exact h pre _ hpre u hu env a rfl ⟨ep, hremote, rfl⟩

/-- **Who is not turned away for the rate.** In every run from any state of the limiter, no
connection of an address is rejected for its rate exactly when each of them finds room for two. -/
theorem noneRateRejected_iff (w : World) (ip : ByteString) (es : List Event) :
    NoneRateRejected ip w es ↔ Along step (FindsRoom ip) w es := by
  refine ⟨fun h ↦ ?_, noneRateRejected_of_along⟩
  rw [along_iff_forall_concat]
  rintro pre _ hpre u hu env a rfl ⟨ep, hremote, rfl⟩ hfree
  obtain ⟨c, hc, hstep⟩ := exists_step_start u env hremote
  have hnot := h pre env a hpre ⟨ep, hremote, rfl⟩ _ (run_concat_iff.mpr ⟨u, hu, hstep⟩) c.self
    List.getLast?_concat
  rw [wp_of_ok (Session.start_rateRejected_iff hremote) hc, not_and, not_lt] at hnot
  exact hnot hfree

/-! ## One connection per second -/

/-- When a connection comes from the address, if the event is one. -/
def connectionTime (ip : ByteString) : Event → Option SteadyTime
  | .start env a =>
    a.remote.bind fun ep ↦ if (ep.address.text env.v6Text).bytes = ip then some env.now else none
  | .complete _ _ _ _ => none

/-- At most `m` connections of the address come in every interval of one second. -/
def AtMostPerSecond (m : ℕ) (ip : ByteString) (es : List Event) : Prop :=
  ∀ t : SteadyTime, (es.filterMap (connectionTime ip)).countP
    (fun u ↦ decide (t ≤ u ∧ u < t + 1000000000)) ≤ m

/-- An empty proxy that allows one connection per second. -/
def onePerSecond : World where
  gateway := { limiter := { maxConnPerIpPerSec := 1 } }

/-- One connection is one too many. -/
theorem onePerSecond_rejects :
    AtMostPerSecond 1 (ofString "10.0.0.1") [.start (sampleEnvironment .direct) sampleArrival] ∧
      ¬NoneRateRejected (ofString "10.0.0.1") onePerSecond
        [.start (sampleEnvironment .direct) sampleArrival] := by
  have hrun : (run step onePerSecond
      [.start (sampleEnvironment .direct) sampleArrival]).toOption.map
        (fun w ↦ w.sessions.map fun s ↦ s.trace.head?) =
      some [some (.requestAdmit .rejectedRate)] := by decide +kernel
  obtain ⟨t, ht, hobs⟩ := exists_run_of_observation hrun
  obtain ⟨s, hs, htrace⟩ := List.map_eq_singleton_iff.mp hobs
  refine ⟨fun t ↦ List.countP_le_length.trans (by decide), fun h ↦ ?_⟩
  refine h [] _ _ List.prefix_rfl ⟨⟨.v4 10 0 0 1, 5000⟩, rfl, by decide +kernel⟩ t ht s ?_
    (.inr htrace)
  rw [hs]
  rfl

end World

end LanProxyGateway
