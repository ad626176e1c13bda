import LanProxyGateway.Concurrency.RateWindows
import LanProxyGateway.ProxyCore.RateLimiting

/-!
# How often may an address connect?

Who is turned away for the rate is decided by the count in the window of the address at that moment
(`noneRateRejected_iff`). Here the count is bounded by the arrivals. Nobody but `start` asks the
limiter about connections, and it asks at most twice for each; a failed login changes the record of
an address but not its window. So the count never exceeds twice the arrivals since the window began,
which all fall into one second: an address that connects at most `n` times in every second is never
turned away where `2 * n` connections are allowed (`noneRateRejected_of_rare`).
-/

open Foundation ByteString

namespace LanProxyGateway

namespace RateLimiter

variable {r : RateLimiter} {now : SteadyTime} {ip : ByteString} {asked : List SteadyTime}

/-! ## The window of an address -/

/-- The beginning of the window of an address and the connections counted in it. -/
def window (r : RateLimiter) (clientIp : ByteString) : SteadyTime × Int :=
  match r.rates.lookup clientIp with
  | none => (0, 0)
  | some info => (info.connWindowStart, info.connCount)

/-- What the limiter goes by when it is asked about a connection. -/
def windows (r : RateLimiter) : Int × (ByteString → SteadyTime × Int) :=
  (r.maxConnPerIpPerSec, r.window)

theorem windowCount_eq (r : RateLimiter) (now : SteadyTime) (ip : ByteString) :
    r.windowCount now ip =
      if (r.window ip).1 + oneSecond ≤ now then 0 else (r.window ip).2 := by
  rw [windowCount, window]
  rcases r.rates.lookup ip with _ | info
  · exact (ite_self 0).symm
  · simp only [window_over_iff Int.one_pos, Int.one_mul]

theorem window_of_lookup {s : RateLimiter} (h : s.rates.lookup ip = r.rates.lookup ip) :
    s.window ip = r.window ip := by
  rw [window, h, window]

/-- A failed login changes no window. -/
theorem window_recordAuthFailure (r : RateLimiter) (now : SteadyTime) (clientIp ip : ByteString) :
    (r.recordAuthFailure now clientIp).window ip = r.window ip := by
  by_cases hip : clientIp = ip
  rotate_left
  · have hsame : (r.after (.recordAuthFailure now clientIp)).rates.lookup ip =
        r.rates.lookup ip := lookup_after_of_ne hip
    exact window_of_lookup hsame
  subst hip
  rcases hlookup : r.rates.lookup clientIp with _ | info
  · rw [window, lookup_recordAuthFailure_of_none now hlookup, window, hlookup]
  · obtain ⟨info', hlookup', hcount, hstart, -⟩ := lookup_recordAuthFailure now hlookup
    rw [window, hlookup', window, hlookup]
    exact Prod.ext hstart hcount

theorem window_checkConnectionRate_of_ne {clientIp : ByteString} (hip : clientIp ≠ ip) :
    (r.checkConnectionRate now clientIp).2.window ip = r.window ip := by
  have hsame : (r.after (.checkConnectionRate now clientIp)).rates.lookup ip =
      r.rates.lookup ip := lookup_after_of_ne hip
  exact window_of_lookup hsame

/-- A question begins a window or counts in the one that is open. -/
theorem window_checkConnectionRate (r : RateLimiter) (now : SteadyTime) (ip : ByteString) :
    (r.checkConnectionRate now ip).2.window ip = (now, 1) ∨
      now < (r.window ip).1 + oneSecond ∧
        (r.checkConnectionRate now ip).2.window ip = ((r.window ip).1, (r.window ip).2 + 1) := by
  rcases hlookup : r.rates.lookup ip with _ | info
  · rw [window, lookup_checkConnectionRate_of_none now hlookup]
    exact .inl rfl
  · simp only [window, lookup_checkConnectionRate now hlookup, hlookup]
    by_cases hover : 1 ≤ wholeSeconds (now - info.connWindowStart)
    · rw [if_pos hover]
      exact .inl rfl
    · rw [if_neg hover]
      rw [window_over_iff Int.one_pos, Int.one_mul, not_le] at hover
      exact .inr ⟨hover, rfl⟩

/-- The limiter after some questions about an address, all at one time. -/
def asking (now : SteadyTime) (ip : ByteString) (k : ℕ) (r : RateLimiter) : RateLimiter :=
  (fun r ↦ (r.checkConnectionRate now ip).2)^[k] r

theorem asking_succ (now : SteadyTime) (ip : ByteString) (k : ℕ) (r : RateLimiter) :
    r.asking now ip (k + 1) = ((r.asking now ip k).checkConnectionRate now ip).2 :=
  Function.iterate_succ_apply' _ k r

theorem maxConnPerIpPerSec_asking (now : SteadyTime) (ip : ByteString) (k : ℕ) (r : RateLimiter) :
    (r.asking now ip k).maxConnPerIpPerSec = r.maxConnPerIpPerSec := by
  induction k with
  | zero => rfl
  | succ k ih =>
    rw [asking_succ]
    exact (settings_after _ (.checkConnectionRate now ip)).1.trans ih

theorem window_asking_of_ne {clientIp : ByteString} (hip : clientIp ≠ ip) (k : ℕ) :
    (r.asking now clientIp k).window ip = r.window ip := by
  induction k with
  | zero => rfl
  | succ k ih => rw [asking_succ, window_checkConnectionRate_of_ne hip, ih]

/-! ## Bounding the count -/

/-- The time falls into the second that begins with the window. -/
def inWindow (start u : SteadyTime) : Bool := decide (start ≤ u ∧ u < start + oneSecond)

/-- The window counts no more than was asked about the address since it began. -/
structure Backed (r : RateLimiter) (ip : ByteString) (asked : List SteadyTime) : Prop where
  count : (r.window ip).2 ≤ asked.countP (inWindow (r.window ip).1)
  start : (r.window ip).1 = 0 ∨ (r.window ip).1 ∈ asked

theorem Backed.congr {s : RateLimiter} (h : r.Backed ip asked) (hs : s.window ip = r.window ip) :
    s.Backed ip asked :=
  ⟨hs ▸ h.count, hs ▸ h.start⟩

theorem Backed.unasked (h : r.Backed ip asked) (now : SteadyTime) :
    r.Backed ip (asked ++ [now]) := by
  refine ⟨h.count.trans ?_, h.start.imp id fun hmem ↦ List.mem_append_left _ hmem⟩
  rw [List.countP_append]
  exact Int.ofNat_le.mpr (Nat.le_add_right _ _)

/-- A question that comes after the beginning of the window is backed by its own time. -/
theorem Backed.asks (h : r.Backed ip asked) (hnow : 0 ≤ now) (hlast : ∀ u ∈ asked, u ≤ now) :
    (r.checkConnectionRate now ip).2.Backed ip (asked ++ [now]) := by
  have hle : (r.window ip).1 ≤ now := by
    rcases h.start with hzero | hmem
    · rw [hzero]
      exact hnow
    · exact hlast _ hmem
  have hsecond : (0 : SteadyTime) < oneSecond := by decide
  rcases window_checkConnectionRate r now ip with hbegun | ⟨hopen, hcounted⟩
  · have hin : inWindow now now = true :=
      decide_eq_true ⟨le_refl now, lt_add_of_pos_right now hsecond⟩
    constructor
    · rw [hbegun, List.countP_append, List.countP_singleton, if_pos hin]
      push_cast
      omega
    · rw [hbegun]
      exact .inr (List.mem_append_right _ (List.mem_singleton_self now))
  · have hin : inWindow (r.window ip).1 now = true := decide_eq_true ⟨hle, hopen⟩
    constructor
    · rw [hcounted, List.countP_append, List.countP_singleton, if_pos hin]
      have hcount := h.count
      push_cast
      omega
    · rw [hcounted]
      exact h.start.imp id fun hmem ↦ List.mem_append_left _ hmem

theorem Backed.asking (h : r.Backed ip asked) (hnow : 0 ≤ now) (hlast : ∀ u ∈ asked, u ≤ now)
    (k : ℕ) : (r.asking now ip k).Backed ip (asked ++ List.replicate k now) := by
  induction k with
  | zero => rwa [List.replicate_zero, List.append_nil]
  | succ k ih =>
    rw [asking_succ, List.replicate_succ', ← List.append_assoc]
    refine ih.asks hnow fun u hu ↦ ?_
    rcases List.mem_append.mp hu with hu | hu
    · exact hlast u hu
    · exact (List.eq_of_mem_replicate hu).le

/-- Where two questions were possible, fewer are backed too. -/
theorem Backed.asking_le (h : r.Backed ip asked) (hnow : 0 ≤ now) (hlast : ∀ u ∈ asked, u ≤ now)
    {k m : ℕ} (hk : k ≤ m) : (r.asking now ip k).Backed ip (asked ++ List.replicate m now) := by
  induction m, hk using Nat.le_induction with
  | base => exact h.asking hnow hlast k
  | succ m _ ih =>
    rw [List.replicate_succ', ← List.append_assoc]
    exact ih.unasked now

end RateLimiter

/-! ## Who asks -/

namespace Session

open SessionM

variable {env : Environment}

def windows (c : Ctx) : Int × (ByteString → SteadyTime × Int) := c.gateway.limiter.windows

theorem keeps_modifySelf (g : Session → Session) : Keeps windows (modifySelf g) := fun _ ↦ rfl

theorem keeps_call (x : Call) : Keeps windows (call x) := fun _ ↦ rfl

theorem keeps_post (p : Pending) : Keeps windows (post p) := fun _ ↦ rfl

theorem keeps_serve (x : Service) : Keeps windows (serve x) := fun _ ↦ rfl

theorem keeps_log (msg : ByteString) : Keeps windows (log msg) := .ite (.pure ()) (.throw _)

theorem keeps_modifyGateway {g : Gateway → Gateway} (h : ∀ x, (g x).limiter = x.limiter) :
    Keeps windows (modifyGateway g) := by
  intro c
  rw [wp_modifyGateway]
  exact congrArg RateLimiter.windows (h c.gateway)

theorem keeps_closeSession (reason : Text) : Keeps windows (closeSession env reason) := by
  have hrelease : ∀ (s : Session) (g : Gateway), (s.release env g).limiter = g.limiter := by
    intro s g
    simp only [release]
    split_ifs <;> rfl
  have htraffic : ∀ (s : Session) (g : Gateway), (s.addTraffic g).limiter = g.limiter := by
    intro s g
    rw [addTraffic]
    split <;> rfl
  have hlog : ∀ s : Session, Keeps windows (logClose s reason) := fun s ↦
    .ite (.bind (.ite (.pure ()) (.throw _)) fun _ ↦ keeps_modifyGateway (htraffic s)) (keeps_log _)
  exact .bind (keeps_modifySelf _) fun _ ↦ .bind (keeps_call _) fun _ ↦ .bind .get fun c ↦
    .bind (keeps_modifyGateway (hrelease c.self)) fun _ ↦ .bind (hlog c.self) fun _ ↦
    keeps_modifySelf _

theorem keeps_failWith (code : UInt8) (reason : Text) : Keeps windows (failWith code reason) :=
  .bind .get fun _ ↦ .ite (keeps_post _) (keeps_post _)

theorem keeps_doResolve : Keeps windows doResolve :=
  .bind (keeps_serve _) fun _ ↦ .bind .get fun _ ↦ keeps_post _

theorem keeps_doConnectViaV2rayn : Keeps windows doConnectViaV2rayn :=
  .bind (keeps_serve _) fun _ ↦ keeps_post _

theorem keeps_chooseNode (host : ByteString) (result : RouteResult) :
    Keeps windows (chooseNode env host result) := by
  -- with the message a variable, nothing in it is evaluated
  have hchosen : ∀ (tag : Text) (msg : ByteString), Keeps windows (do
      modifySelf fun s ↦ { s with selectedNodeTag := tag }
      modifyGateway fun g ↦ { g with balancer := g.balancer.incNodeConnections tag.bytes }
      log msg) := fun _ _ ↦
    .bind (keeps_modifySelf _) fun _ ↦ .bind (keeps_modifyGateway fun _ ↦ rfl) fun _ ↦ keeps_log _
  refine .bind (keeps_serve _) fun _ ↦ .bind .get fun c ↦ ?_
  split
  · exact hchosen _ _
  · exact keeps_log _

theorem keeps_doRouteDecision : Keeps windows (doRouteDecision env) := by
  refine .bind .get fun c ↦ .bind (keeps_serve _) fun _ ↦ ?_
  dsimp only
  split
  · exact .bind (keeps_modifySelf _) fun _ ↦ .bind (keeps_log _) fun _ ↦ keeps_doResolve
  · exact .bind (keeps_modifySelf _) fun _ ↦ .bind (keeps_chooseNode _ _) fun _ ↦
      keeps_doConnectViaV2rayn

theorem keeps_noteLogin (username : ByteString) : Keeps windows (noteLogin env username) :=
  .bind .get fun _ ↦ keeps_modifyGateway fun _ ↦ rfl

/-- The one handler that calls the limiter. -/
theorem keeps_noteFailedLogin : Keeps windows (noteFailedLogin env) := by
  refine .bind .get fun c c' ↦ ?_
  rw [wp_modifyGateway]
  refine Prod.ext ?_ (funext fun ip ↦ ?_)
  · exact (RateLimiter.settings_after _ (.recordAuthFailure env.now c.self.clientIp)).1
  · exact RateLimiter.window_recordAuthFailure _ _ _ _

theorem keeps_doHttpAuth : Keeps windows (doHttpAuth env) := by
  refine .bind .get fun c ↦ .bind (.ofExcept _) fun ok ↦ .bind (keeps_call _) fun _ ↦ .ite ?_ ?_
  · exact .bind (keeps_log _) fun _ ↦ .bind (keeps_modifySelf _) fun _ ↦
      .bind (keeps_noteLogin _) fun _ ↦ keeps_doRouteDecision
  · exact .bind keeps_noteFailedLogin fun _ ↦ .bind (keeps_log _) fun _ ↦ keeps_post _

theorem keeps_handleSocks5Handshake (length : ℕ) :
    Keeps windows (handleSocks5Handshake env length) := by
  refine .bind .get fun c ↦ ?_
  split
  · exact .bind (keeps_log _) fun _ ↦ keeps_closeSession _
  · exact keeps_post _
  · exact keeps_post _
  · exact .bind (keeps_log _) fun _ ↦ keeps_post _

theorem keeps_onHandshakeRead (length : ℕ) : Keeps windows (onHandshakeRead env length) := by
  refine .bind .get fun c ↦ .ite (.bind (keeps_modifySelf _) fun _ ↦ .bind .get fun c' ↦ ?_) ?_
  · dsimp only
    split
    · exact keeps_post _
    · exact .bind (.ofExcept _) fun _ ↦ .bind (keeps_modifySelf _) fun _ ↦
        .ite (.bind (keeps_log _) fun _ ↦ keeps_post _) (.bind (keeps_modifySelf _) fun _ ↦
          .bind (keeps_log _) fun _ ↦ keeps_doHttpAuth)
  · exact keeps_handleSocks5Handshake length

theorem keeps_onAuthRead (length : ℕ) : Keeps windows (onAuthRead env length) := by
  refine .bind .get fun c ↦ ?_
  split
  · exact keeps_closeSession _
  · exact keeps_post _
  · refine .bind (.ofExcept _) fun ok ↦ .bind (keeps_call _) fun _ ↦ .ite ?_ ?_
    · exact .bind (keeps_modifySelf _) fun _ ↦ .bind (keeps_noteLogin _) fun _ ↦
        .bind (keeps_log _) fun _ ↦ keeps_post _
    · exact .bind keeps_noteFailedLogin fun _ ↦ .bind (keeps_log _) fun _ ↦ keeps_post _

theorem keeps_onRequestRead (length : ℕ) : Keeps windows (onRequestRead env length) := by
  refine .bind .get fun c ↦ ?_
  split
  · exact keeps_closeSession _
  · exact keeps_post _
  · exact keeps_post _
  · exact keeps_post _
  · exact .bind (keeps_modifySelf _) fun _ ↦ .bind (keeps_log _) fun _ ↦ keeps_doRouteDecision

theorem keeps_replyEstablished : Keeps windows replyEstablished :=
  .bind .get fun _ ↦ .ite (keeps_post _) (.bind (.ofExcept _) fun _ ↦ keeps_post _)

theorem keeps_onRead (length : ℕ) (h : ReadHandler) : Keeps windows (onRead env length h) := by
  cases h with
  | handshake => exact keeps_onHandshakeRead length
  | handshakeAgain => exact keeps_handleSocks5Handshake length
  | auth => exact keeps_onAuthRead length
  | authAgain => exact keeps_post _
  | request => exact keeps_onRequestRead length
  | requestAgain => exact keeps_post _
  | v2raynGreeting host port =>
    refine .bind .get fun _ ↦ .ite (keeps_closeSession _) (.ite (keeps_closeSession _) ?_)
    exact keeps_post _
  | v2raynConnect =>
    have hrest : ∀ msg : ByteString, Keeps windows (do log msg; replyEstablished) := fun _ ↦
      .bind (keeps_log _) fun _ ↦ keeps_replyEstablished
    refine .bind .get fun _ ↦ .ite (keeps_closeSession _) (.ite (keeps_closeSession _) ?_)
    exact .bind (keeps_modifySelf _) fun _ ↦ .bind (keeps_modifyGateway fun _ ↦ rfl) fun _ ↦
      .ite (.bind (keeps_modifyGateway fun _ ↦ rfl) fun _ ↦ hrest _) (hrest _)
  | relayClient | relayRemote =>
    exact .bind (keeps_modifySelf _) fun _ ↦ .bind .get fun _ ↦
      .bind (keeps_modifyGateway fun _ ↦ rfl) fun _ ↦ .bind .get fun _ ↦ keeps_post _

theorem keeps_onWritten (h : WriteHandler) : Keeps windows (onWritten env h) := by
  cases h with
  | methodReply | authReply => exact .ite (keeps_post _) (keeps_closeSession _)
  | closing => exact keeps_closeSession _
  | tunnelReply =>
    exact .bind (keeps_serve _) fun _ ↦ .bind (keeps_post _) fun _ ↦ keeps_post _
  | v2raynGreeting | v2raynConnect | relayRemote | relayClient => exact keeps_post _

theorem keeps_onWriteFailed (h : WriteHandler) : Keeps windows (onWriteFailed env h) := by
  cases h with
  | methodReply => exact .pure ()
  | authReply => exact .ite (.pure ()) (keeps_closeSession _)
  | closing | tunnelReply | v2raynGreeting | v2raynConnect | relayRemote | relayClient =>
    exact keeps_closeSession _

/-- No handler of a completed operation moves a window. -/
theorem keeps_dispatch {p : Pending} {c : Completion} {m : SessionM Unit}
    (hm : dispatch env p c = some m) : Keeps windows m := by
  rw [dispatch.eq_def] at hm
  split at hm
  · rename_i h chunk
    obtain rfl := Option.some.inj hm
    have hreceive : ∀ side, Keeps windows (receive side chunk.bytes) := by
      rintro (_ | _)
      · exact .bind (keeps_modifySelf _) fun _ ↦ keeps_call _
      · exact .bind (keeps_modifySelf _) fun _ ↦ keeps_call _
    exact .bind (hreceive h.side) fun _ ↦ keeps_onRead _ h
  · obtain rfl := Option.some.inj hm
    exact keeps_closeSession _
  · obtain rfl := Option.some.inj hm
    exact .bind (keeps_call _) fun _ ↦ keeps_onWritten _
  · obtain rfl := Option.some.inj hm
    exact .bind (keeps_call _) fun _ ↦ .bind (keeps_call _) fun _ ↦ keeps_onWriteFailed _
  · obtain rfl := Option.some.inj hm
    have hconnect : Keeps windows doConnectDirect :=
      .bind (keeps_serve _) fun _ ↦ keeps_post _
    rw [onResolved.eq_def]
    split
    · exact hconnect
    · exact .bind (keeps_modifySelf _) fun _ ↦ hconnect
  · obtain rfl := Option.some.inj hm
    exact .bind (keeps_log _) fun _ ↦ keeps_failWith _ _
  · split at hm
    · obtain rfl := Option.some.inj hm
      exact .bind (keeps_modifySelf _) fun _ ↦ .bind .get fun _ ↦
        .bind (keeps_modifyGateway fun _ ↦ rfl) fun _ ↦ .bind (keeps_log _) fun _ ↦
        keeps_replyEstablished
    · cases hm
  · obtain rfl := Option.some.inj hm
    exact .bind .get fun _ ↦ .bind (keeps_log _) fun _ ↦ keeps_failWith _ _
  · obtain rfl := Option.some.inj hm
    exact keeps_post _
  · obtain rfl := Option.some.inj hm
    exact keeps_closeSession _
  · split at hm
    · obtain rfl := Option.some.inj hm
      exact .bind (keeps_modifySelf _) fun _ ↦ .bind .get fun _ ↦ keeps_post _
    · cases hm
  · obtain rfl := Option.some.inj hm
    exact .bind (keeps_log _) fun _ ↦ keeps_failWith _ _
  · cases hm

theorem limiter_requestAdmit (a : ConnectionAdmitter) (r : RateLimiter) (overloaded : Bool)
    (q : QueuedConnection) : (a.requestAdmit r overloaded q).2.2 =
      (r.checkConnectionRate q.enqueueTime q.clientIp).2 := by
  rw [ConnectionAdmitter.requestAdmit]
  rcases r.checkConnectionRate q.enqueueTime q.clientIp with ⟨ok, limiter⟩
  dsimp only
  split_ifs <;> rfl

theorem keeps_onAdmission (response : AdmitResponse) :
    Keeps windows (onAdmission env response) := by
  refine .bind .get fun c ↦ .ite ?_ (.ite ?_ ?_)
  · exact .bind (keeps_modifyGateway fun _ ↦ rfl) fun _ ↦ .bind (keeps_log _) fun _ ↦
      keeps_closeSession _
  · exact .bind (keeps_log _) fun _ ↦ .bind (keeps_modifySelf _) fun _ ↦
      .bind (keeps_modifyGateway fun _ ↦ rfl) fun _ ↦ .bind (keeps_log _) fun _ ↦ keeps_post _
  · exact .bind (keeps_modifySelf _) fun _ ↦
      .bind (keeps_modifyGateway fun _ ↦ rfl) fun _ ↦ .bind (keeps_log _) fun _ ↦ keeps_post _

/-- **`start` asks at most twice**, about the address of the client and at one time. -/
theorem start_asks (ep : Endpoint) (c : Ctx) :
    wp (start env (some ep)) (fun _ t ↦ ∃ k ≤ 2, windows t =
        (c.gateway.limiter.asking env.now (ep.address.text env.v6Text).bytes k).windows)
      (fun _ ↦ True) c := by
  simp only [start, wp_bind, wp_modifySelf, wp_get, wp_ite, wp_modifyGateway, wp_log]
  refine ⟨fun _ ↦ ⟨fun _ ↦ ?_, fun _ ↦ trivial⟩, fun _ ↦ ⟨fun _ ↦ ?_, fun _ ↦ ⟨fun _ ↦ ?_,
    fun _ ↦ trivial⟩⟩⟩
  · exact wp_mono (keeps_closeSession _ _) (fun _ t ht ↦ ⟨0, by decide, ht⟩) fun _ h ↦ h
  · simp only [requestAdmission, wp_bind, wp_get, wp_modifyGateway, wp_call]
    refine wp_mono (keeps_onAdmission _ _) (fun _ t ht ↦ ⟨2, by decide, ht.trans ?_⟩) fun _ h ↦ h
    exact congrArg RateLimiter.windows (limiter_requestAdmit _ _ _ _)
  · exact wp_mono (keeps_closeSession _ _) (fun _ t ht ↦ ⟨1, by decide, ht⟩) fun _ h ↦ h

end Session

namespace World

variable {w t : World} {e : Event} {ip : ByteString} {es : List Event}

/-- A step leaves the windows alone, or a client has connected. -/
theorem windows_of_step (ht : w.step e = .ok t) :
    t.gateway.limiter.windows = w.gateway.limiter.windows ∨
      ∃ env a ep, e = .start env a ∧ a.remote = some ep ∧ ∃ k ≤ 2, t.gateway.limiter.windows =
        (w.gateway.limiter.asking env.now (ep.address.text env.v6Text).bytes k).windows := by
  rcases step_cases ht with rfl | ⟨env, a, c, rfl, hrun, rfl⟩ |
    ⟨i, k, completion, env, s, p, m, c, -, -, -, hm, hrun, rfl⟩
  · exact .inl rfl
  · rcases hremote : a.remote with _ | ep
    · rw [hremote] at hrun
      cases hrun
    · rw [hremote] at hrun
      exact .inr ⟨env, a, ep, rfl, hremote, wp_of_ok (Session.start_asks ep _) hrun⟩
  · have hkeeps := Session.keeps_dispatch hm ⟨{ s with pending := s.pending.eraseIdx k }, w.gateway⟩
    have hsame := wp_of_ok hkeeps hrun
    exact .inl hsame

theorem connectionTime_eq_some_iff {now : SteadyTime} : connectionTime ip e = some now ↔
    ∃ env a, e = .start env a ∧ ConnectsFrom ip env a ∧ env.now = now := by
  rcases e with ⟨env, a⟩ | _
  · rw [connectionTime]
    constructor
    · intro h
      obtain ⟨ep, hremote, h⟩ := Option.bind_eq_some_iff.mp h
      split at h
      · rename_i hip
        exact ⟨env, a, rfl, ⟨ep, hremote, hip⟩, Option.some.inj h⟩
      · cases h
    · rintro ⟨env', a', he, ⟨ep, hremote, hip⟩, hnow⟩
      obtain ⟨rfl, rfl⟩ := Event.start.inj he
      rw [hremote, Option.bind_some, if_pos hip, hnow]
  · constructor
    · intro h
      cases h
    · rintro ⟨env, a, he, -⟩
      cases he

/-- The times at which the address connects, two questions for each. -/
def questionTimes (ip : ByteString) (es : List Event) : List SteadyTime :=
  (es.filterMap (connectionTime ip)).flatMap (List.replicate 2)

theorem questionTimes_concat (ip : ByteString) (es : List Event) (e : Event) :
    questionTimes ip (es ++ [e]) =
      questionTimes ip es ++ (connectionTime ip e).toList.flatMap (List.replicate 2) := by
  rw [questionTimes, List.filterMap_append, List.flatMap_append, questionTimes]
  rcases h : connectionTime ip e with _ | now
  · rw [List.filterMap_cons_none h]
    rfl
  · rw [List.filterMap_cons_some h]
    rfl

theorem mem_questionTimes {u : SteadyTime} :
    u ∈ questionTimes ip es ↔ u ∈ es.filterMap (connectionTime ip) := by
  simp [questionTimes, List.mem_flatMap]

theorem countP_questionTimes (p : SteadyTime → Bool) :
    (questionTimes ip es).countP p = 2 * (es.filterMap (connectionTime ip)).countP p := by
  rw [questionTimes]
  induction es.filterMap (connectionTime ip) with
  | nil => rfl
  | cons u times ih =>
    rw [List.flatMap_cons, List.countP_append, ih, List.countP_replicate, List.countP_cons]
    split <;> omega

/-- The window stays backed over a step, where the clock has not been put back. -/
theorem backed_of_step {asked : List SteadyTime} (h : w.gateway.limiter.Backed ip asked)
    (hclock : ∀ now ∈ connectionTime ip e, 0 ≤ now ∧ ∀ u ∈ asked, u ≤ now)
    (ht : w.step e = .ok t) : t.gateway.limiter.Backed ip
      (asked ++ (connectionTime ip e).toList.flatMap (List.replicate 2)) := by
  have hunasked : w.gateway.limiter.Backed ip
      (asked ++ (connectionTime ip e).toList.flatMap (List.replicate 2)) := by
    rcases hnow : connectionTime ip e with _ | now
    · rwa [Option.toList_none, List.flatMap_nil, List.append_nil]
    · obtain ⟨hpos, hlast⟩ := hclock now hnow
      rw [Option.toList_some, List.flatMap_singleton]
      exact h.asking_le hpos hlast (Nat.zero_le 2)
  rcases windows_of_step ht with hsame | ⟨env, a, ep, rfl, hremote, k, hk, hasks⟩
  · exact hunasked.congr (congrFun (Prod.ext_iff.mp hsame).2 ip)
  -- a start; its two questions count for this address or for another one
  have hwindow := congrFun (Prod.ext_iff.mp hasks).2 ip
  by_cases hip : (ep.address.text env.v6Text).bytes = ip
  · have hnow : connectionTime ip (.start env a) = some env.now :=
      connectionTime_eq_some_iff.mpr ⟨env, a, rfl, ⟨ep, hremote, hip⟩, rfl⟩
    obtain ⟨hpos, hlast⟩ := hclock env.now hnow
    rw [hnow, Option.toList_some, List.flatMap_singleton]
    refine RateLimiter.Backed.congr ?_ hwindow
    rw [hip]
    exact h.asking_le hpos hlast hk
  · exact hunasked.congr (hwindow.trans (RateLimiter.window_asking_of_ne hip k))

theorem maxConnPerIpPerSec_of_step (ht : w.step e = .ok t) :
    t.gateway.limiter.maxConnPerIpPerSec = w.gateway.limiter.maxConnPerIpPerSec := by
  rcases windows_of_step ht with hsame | ⟨env, a, ep, -, -, k, -, hasks⟩
  · exact (Prod.ext_iff.mp hsame).1
  · exact (Prod.ext_iff.mp hasks).1.trans (RateLimiter.maxConnPerIpPerSec_asking _ _ k _)

/-- The address connects in the order of time, from the epoch of the clock on. -/
structure InOrder (ip : ByteString) (es : List Event) : Prop where
  sorted : (es.filterMap (connectionTime ip)).Pairwise (· ≤ ·)
  nonneg : ∀ now ∈ es.filterMap (connectionTime ip), 0 ≤ now

theorem InOrder.part {fs : List Event} (h : InOrder ip es) (hpart : fs <:+: es) :
    InOrder ip fs :=
  ⟨h.sorted.sublist (hpart.sublist.filterMap _),
    fun now hnow ↦ h.nonneg now ((hpart.sublist.filterMap _).mem hnow)⟩

theorem InOrder.last (h : InOrder ip (es ++ [e])) :
    ∀ now ∈ connectionTime ip e, 0 ≤ now ∧ ∀ u ∈ questionTimes ip es, u ≤ now := by
  intro now hnow
  obtain ⟨hsorted, hnonneg⟩ := h
  rw [List.filterMap_append, List.filterMap_cons_some hnow] at hsorted hnonneg
  have hmem := List.mem_append_right (es.filterMap (connectionTime ip))
    (List.mem_cons_self (a := now) (l := [].filterMap (connectionTime ip)))
  exact ⟨hnonneg now hmem, fun u hu ↦
    (List.pairwise_append.mp hsorted).2.2 u (mem_questionTimes.mp hu) now List.mem_cons_self⟩

/-- All along a run the window of the address is backed by its connections so far. -/
theorem backed_of_run (hnew : w.gateway.limiter.rates.lookup ip = none)
    (horder : InOrder ip es) (ht : run step w es = .ok t) :
    t.gateway.limiter.Backed ip (questionTimes ip es) ∧
      t.gateway.limiter.maxConnPerIpPerSec = w.gateway.limiter.maxConnPerIpPerSec := by
  induction es using List.reverseRecOn generalizing t with
  | nil =>
    obtain rfl := Except.ok.inj ht
    have hwindow : w.gateway.limiter.window ip = (0, 0) := by rw [RateLimiter.window, hnew]
    refine ⟨⟨?_, ?_⟩, rfl⟩
    · rw [hwindow]
      exact le_refl 0
    · rw [hwindow]
      exact .inl rfl
  | append_singleton es e ih =>
    obtain ⟨u, hu, hut⟩ := run_concat_iff.mp ht
    obtain ⟨hbacked, hmax⟩ := ih (horder.part (List.prefix_append es [e]).isInfix) hu
    rw [questionTimes_concat]
    exact ⟨backed_of_step hbacked horder.last hut, (maxConnPerIpPerSec_of_step hut).trans hmax⟩

/-- **Half the limit is always let in.** An address that the limiter does not know, and that
connects at most `n` times in every second, is never turned away for the rate where `2 * n`
connections are allowed, whatever else happens. -/
theorem noneRateRejected_of_rare {w : World} {ip : ByteString} {es : List Event} {n : ℕ}
    (hnew : w.gateway.limiter.rates.lookup ip = none) (horder : InOrder ip es)
    (hrare : AtMostPerSecond n ip es)
    (hroom : 2 * (n : Int) ≤ w.gateway.limiter.maxConnPerIpPerSec) : NoneRateRejected ip w es := by
  refine noneRateRejected_of_along (along_iff_forall_concat.mpr fun pre e hpre t ht ↦ ?_)
  rintro env a rfl hfrom -
  have hnow : connectionTime ip (.start env a) = some env.now :=
    connectionTime_eq_some_iff.mpr ⟨env, a, rfl, hfrom, rfl⟩
  have horder' := horder.part hpre.isInfix
  obtain ⟨hbacked, hmax⟩ :=
    backed_of_run hnew (horder'.part (List.prefix_append pre [_]).isInfix) ht
  -- the connection itself is one of the `n` of its second
  have hcount : ∀ start, start ≤ env.now → env.now < start + oneSecond →
      ((questionTimes ip pre).countP (RateLimiter.inWindow start) : Int) + 2 ≤ 2 * n := by
    intro start hstart hopen
    have hin : RateLimiter.inWindow start env.now = true := decide_eq_true ⟨hstart, hopen⟩
    have hle := ((hpre.sublist.filterMap (connectionTime ip)).countP_le
      (p := RateLimiter.inWindow start)).trans (hrare start)
    rw [List.filterMap_append, List.countP_append, List.filterMap_cons_some hnow,
      List.countP_cons_of_pos hin] at hle
    rw [countP_questionTimes]
    push_cast
    omega
  have hstart : (t.gateway.limiter.window ip).1 ≤ env.now := by
    obtain ⟨hpos, hlast⟩ := horder'.last env.now hnow
    rcases hbacked.start with hzero | hmem
    · rw [hzero]
      exact hpos
    · exact hlast _ hmem
  rw [RateLimiter.windowCount_eq, hmax]
  split
  -- the window is over, and the connection needs room for its own two questions only
  · have hsecond : (0 : SteadyTime) < oneSecond := by decide
    have hone := hcount env.now le_rfl (lt_add_of_pos_right env.now hsecond)
    omega
  · rename_i hopen
    have hwindow := hcount _ hstart (not_le.mp hopen)
    have hbound := hbacked.count
    omega

/-! ## Two pairs of connections -/

/-- An empty proxy that allows four connections per second. -/
def fourPerSecond : World where
  gateway := { limiter := { maxConnPerIpPerSec := 4 } }

/-- Two connections at once, and two more when a second has passed. -/
def twoPairs : List Event :=
  [0, 0, oneSecond, oneSecond].map fun now ↦
    .start { sampleEnvironment .direct with now := now } sampleArrival

theorem twoPairs_noneRateRejected :
    NoneRateRejected (ofString "10.0.0.1") fourPerSecond twoPairs := by
  have htimes : twoPairs.filterMap (connectionTime (ofString "10.0.0.1")) =
      [0, 0, oneSecond, oneSecond] := by decide +kernel
  have hrare : ∀ t : Int, ([0, 0, 1000000000, 1000000000] : List Int).countP
      (fun u ↦ decide (t ≤ u ∧ u < t + 1000000000)) ≤ 2 := by
    intro t
    simp only [List.countP_cons, List.countP_nil, decide_eq_true_eq]
    split_ifs <;> omega
  refine noneRateRejected_of_rare (n := 2) rfl ⟨?_, ?_⟩ (fun t ↦ ?_) (by decide)
  · rw [htimes]
    decide
  · rw [htimes]
    decide
  · rw [htimes]
    exact hrare t

end World

end LanProxyGateway
