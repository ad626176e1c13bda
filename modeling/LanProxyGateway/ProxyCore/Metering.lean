import LanProxyGateway.ProxyCore.Relay

/-!
# What a handler counts

A session counts the bytes it reads in its relay, and `close_session` adds the two counts to the
metrics, under the route of the session and only while the tunnel is marked as active; the mark is
taken off at the end of the same call, which no other handler interrupts here. `Counts` and `Bills`
say this of a handler that leaves the session open and of one that closes it, and `dispatch_metered`
that every handler is one or the other.
-/

open Foundation ByteString

namespace LanProxyGateway

open LanProxy

/-! ## The counters -/

/-- The four sums of the metrics, by route and by the side the bytes came from. -/
def MetricsCollector.bytes (m : MetricsCollector) : SessionRouteAction → Side → ℕ
  | .direct, .client => m.directBytesUp
  | .direct, .remote => m.directBytesDown
  | .proxy, .client => m.proxyBytesUp
  | .proxy, .remote => m.proxyBytesDown

/-- The bytes that the completion of a relay read adds to the count of a side. -/
def arrived : Pending → Completion → Side → ℕ
  | .read h, .received chunk, side => if h = side.relayRead then chunk.bytes.length else 0
  | _, _, _ => 0

/-- The write of the success reply in front of the relay. -/
def Pending.isTunnelReply : Pending → Bool
  | .write _ (.tunnelReply _) => true
  | _ => false

namespace Session

open SessionM

/-- `m_bytes_up` and `m_bytes_down`. -/
def counted (s : Session) : Side → ℕ
  | .client => s.bytesUp
  | .remote => s.bytesDown

/-- What `close_session` adds to a sum. -/
def share (s : Session) (route : SessionRouteAction) (side : Side) : ℕ :=
  if s.tunnelActive ∧ s.routeAction = route then s.counted side else 0

theorem bytes_addTraffic (s : Session) (g : Gateway) (route : SessionRouteAction) (side : Side) :
    (s.addTraffic g).metrics.bytes route side =
      g.metrics.bytes route side + if s.routeAction = route then s.counted side else 0 := by
  rw [addTraffic]
  cases s.routeAction <;> cases route <;> cases side <;> rfl

theorem bytes_release (env : Environment) (s : Session) (g : Gateway) :
    (s.release env g).metrics.bytes = g.metrics.bytes := by
  have hdec : (g.metrics.decActiveConnections).bytes = g.metrics.bytes := by
    funext route side
    cases route <;> cases side <;> rfl
  rw [release]
  split <;> split
  · exact hdec
  · exact hdec
  · rfl
  · rfl

/-! ## What a handler does to them -/

/-- The session is not closed: the sums stay, the bytes of a relay read are counted, and a tunnel
that was up stays up; only the handshake brings one up, before it writes the success reply. -/
structure Counts (p : Pending) (c : Completion) (s t : Ctx) : Prop where
  isOpen : t.self.isOpen = s.self.isOpen
  sums : t.gateway.metrics.bytes = s.gateway.metrics.bytes
  counted : ∀ side, t.self.counted side = s.self.counted side + arrived p c side
  tunnel : t.self.tunnelActive = s.self.tunnelActive ∨
    p.lane = .handshake ∧ t.self.tunnelActive = true
  replies : ∀ q ∈ t.self.pending, q.isTunnelReply = true →
    q ∈ s.self.pending ∨ t.self.tunnelActive = true

/-- The session is closed and billed. -/
structure Bills (s t : Ctx) : Prop where
  isOpen : t.self.isOpen = false
  tunnel : t.self.tunnelActive = false
  sums : ∀ route side, t.gateway.metrics.bytes route side =
    s.gateway.metrics.bytes route side + s.self.share route side

/-- What the traffic is counted by. -/
def meter (c : Ctx) : Bool × Bool × ℕ × ℕ × (SessionRouteAction → Side → ℕ) :=
  (c.self.isOpen, c.self.tunnelActive, c.self.bytesUp, c.self.bytesDown, c.gateway.metrics.bytes)

variable {env : Environment} {p : Pending} {c : Completion}

/-- A step that counts nothing and leaves the tunnel as it is. -/
theorem Counts.of_meter {s t : Ctx} (hmeter : meter t = meter s)
    (harrived : ∀ side, arrived p c side = 0)
    (hreplies : ∀ q ∈ t.self.pending, q.isTunnelReply = true → q ∈ s.self.pending) :
    Counts p c s t := by
  simp only [meter, Prod.mk.injEq] at hmeter
  obtain ⟨hopen, htunnel, hup, hdown, hsums⟩ := hmeter
  refine ⟨hopen, hsums, fun side ↦ ?_, .inl htunnel, fun q hq h ↦ .inl (hreplies q hq h)⟩
  rw [harrived side, Nat.add_zero]
  cases side with
  | client => exact hup
  | remote => exact hdown

theorem mem_of_concat {ops : List Pending} {q : Pending} (hq : q.isTunnelReply = false) :
    ∀ r ∈ ops ++ [q], r.isTunnelReply = true → r ∈ ops := by
  intro r hr hreply
  rcases List.mem_append.mp hr with hr | hr
  · exact hr
  · rw [List.mem_singleton.mp hr, hq] at hreply
    cases hreply

/-- Every run of the handler counts, or closes the session. -/
def IsMetered (p : Pending) (c : Completion) (s : Ctx) (m : SessionM Unit) : Prop :=
  wp m (fun _ t ↦ Counts p c s t ∨ Bills s t) (fun _ ↦ True) s

/-- A silent step in front of a handler. -/
theorem IsMetered.after {m : SessionM Unit} {s s₁ : Ctx} (h : IsMetered p c s₁ m)
    (hmeter : meter s₁ = meter s) (hroute : s₁.self.routeAction = s.self.routeAction)
    (hpending : s₁.self.pending = s.self.pending) :
    wp m (fun _ t ↦ Counts p c s t ∨ Bills s t) (fun _ ↦ True) s₁ := by
  simp only [meter, Prod.mk.injEq] at hmeter
  obtain ⟨hopen, htunnel, hup, hdown, hsums⟩ := hmeter
  have hcounted : ∀ side, s₁.self.counted side = s.self.counted side := by
    rintro (_ | _)
    · exact hup
    · exact hdown
  refine wp_mono h ?_ fun _ h ↦ h
  rintro _ t (ht | ht)
  · refine .inl ⟨ht.isOpen.trans hopen, ht.sums.trans hsums, fun side ↦ ?_, htunnel ▸ ht.tunnel,
      hpending ▸ ht.replies⟩
    rw [ht.counted, hcounted]
  · refine .inr ⟨ht.isOpen, ht.tunnel, fun route side ↦ ?_⟩
    rw [ht.sums, hsums, share, share, htunnel, hroute, hcounted]

theorem arrived_of_lane (hp : p.lane = .handshake) (c : Completion) (side : Side) :
    arrived p c side = 0 := by
  unfold arrived
  split
  · refine if_neg ?_
    rintro rfl
    cases side <;> cases hp
  · rfl

/-! ### Closing -/

/-- **Closing bills the session**, if its tunnel is up, and takes the tunnel down. -/
theorem closeSession_metered (reason : Text) (s : Ctx) :
    IsMetered p c s (closeSession env reason) := by
  simp only [IsMetered, closeSession, logClose, dumpStats, wp_bind, wp_modifySelf, wp_call, wp_get,
    wp_modifyGateway, wp_ite, wp_log, wp_pure, wp_throw, implies_true, and_true]
  refine ⟨fun htunnel _ ↦ .inr ⟨rfl, rfl, fun route side ↦ ?_⟩,
    fun htunnel _ ↦ .inr ⟨rfl, rfl, fun route side ↦ ?_⟩⟩
  · have hshare : s.self.share route side =
        if s.self.routeAction = route then s.self.counted side else 0 := by
      simp only [share, htunnel, true_and]
    rw [hshare, bytes_addTraffic, bytes_release]
    rfl
  · have hshare : s.self.share route side = 0 := if_neg fun h ↦ htunnel h.1
    rw [hshare, bytes_release]
    rfl

/-! ### The handlers of the handshake -/

section

variable (harrived : ∀ side, arrived p c side = 0)

include harrived

theorem post_metered {q : Pending} (hq : q.isTunnelReply = false) (s : Ctx) :
    IsMetered p c s (post q) :=
  .inl (.of_meter rfl harrived (mem_of_concat hq))

theorem failWith_metered (code : UInt8) (reason : Text) (s : Ctx) :
    IsMetered p c s (failWith code reason) := by
  simp only [IsMetered, failWith, wp_bind, wp_get, wp_ite]
  exact ⟨fun _ ↦ post_metered harrived rfl s, fun _ ↦ post_metered harrived rfl s⟩

theorem doRouteDecision_metered (s : Ctx) : IsMetered p c s (doRouteDecision env) := by
  rw [IsMetered, doRouteDecision]
  simp only [wp_bind, wp_get, wp_serve]
  split
  · simp only [doResolve, wp_bind, wp_modifySelf, wp_log, wp_serve, wp_get, wp_post, implies_true,
      and_true]
    exact fun _ ↦ .inl (.of_meter rfl harrived (mem_of_concat rfl))
  · simp only [chooseNode, doConnectViaV2rayn, wp_bind, wp_modifySelf, wp_serve, wp_get]
    split <;>
    · simp only [wp_bind, wp_modifySelf, wp_modifyGateway, wp_log, wp_post, implies_true, and_true]
      exact fun _ ↦ .inl (.of_meter rfl harrived (mem_of_concat rfl))

theorem doHttpAuth_metered (s : Ctx) : IsMetered p c s (doHttpAuth env) := by
  simp only [IsMetered, doHttpAuth, noteLogin, noteFailedLogin, wp_bind, wp_get, wp_ofExcept,
    wp_call, wp_ite, wp_log, wp_modifySelf, wp_modifyGateway, implies_true, and_true]
  refine fun _ _ ↦ ⟨fun _ _ ↦ ?_, fun _ _ ↦ ?_⟩
  · exact (doRouteDecision_metered harrived _).after rfl rfl rfl
  · exact (post_metered harrived rfl _).after rfl rfl rfl

theorem handleHttpConnect_metered (length : ℕ) (s : Ctx) :
    IsMetered p c s (handleHttpConnect env length) := by
  rw [IsMetered, handleHttpConnect]
  simp only [wp_bind, wp_get]
  split
  · exact post_metered harrived rfl s
  · simp only [wp_bind, wp_ofExcept, wp_modifySelf, wp_ite, wp_log, implies_true, and_true]
    refine fun _ _ ↦ ⟨fun _ _ ↦ ?_, fun _ _ ↦ ?_⟩
    · exact (post_metered harrived rfl _).after rfl rfl rfl
    · exact (doHttpAuth_metered harrived _).after rfl rfl rfl

theorem handleSocks5Handshake_metered (length : ℕ) (s : Ctx) :
    IsMetered p c s (handleSocks5Handshake env length) := by
  rw [IsMetered, handleSocks5Handshake]
  simp only [wp_bind, wp_get]
  split
  · simp only [wp_bind, wp_log, implies_true, and_true]
    exact fun _ ↦ closeSession_metered _ s
  · exact post_metered harrived rfl s
  · exact post_metered harrived rfl s
  · simp only [wp_bind, wp_log, implies_true, and_true]
    exact fun _ ↦ post_metered harrived rfl s

theorem onAuthRead_metered (length : ℕ) (s : Ctx) : IsMetered p c s (onAuthRead env length) := by
  rw [IsMetered, onAuthRead]
  simp only [wp_bind, wp_get]
  split
  · exact closeSession_metered _ s
  · exact post_metered harrived rfl s
  · simp only [noteLogin, noteFailedLogin, wp_bind, wp_ofExcept, wp_call, wp_ite, wp_modifySelf,
      wp_get, wp_modifyGateway, wp_log, implies_true, and_true]
    refine fun _ _ ↦ ⟨fun _ _ ↦ ?_, fun _ _ ↦ ?_⟩ <;>
      exact (post_metered harrived rfl _).after rfl rfl rfl

theorem onRequestRead_metered (length : ℕ) (s : Ctx) :
    IsMetered p c s (onRequestRead env length) := by
  rw [IsMetered, onRequestRead]
  simp only [wp_bind, wp_get]
  split
  · exact closeSession_metered _ s
  · exact post_metered harrived rfl s
  · exact post_metered harrived rfl s
  · exact post_metered harrived rfl s
  · simp only [wp_bind, wp_modifySelf, wp_log, implies_true, and_true]
    exact fun _ ↦ (doRouteDecision_metered harrived _).after rfl rfl rfl

theorem onHandshakeRead_metered (length : ℕ) (s : Ctx) :
    IsMetered p c s (onHandshakeRead env length) := by
  simp only [IsMetered, onHandshakeRead, wp_bind, wp_get, wp_ite, wp_modifySelf]
  exact ⟨fun _ ↦ (handleHttpConnect_metered harrived length _).after rfl rfl rfl,
    fun _ ↦ handleSocks5Handshake_metered harrived length s⟩

theorem onV2raynGreetingRead_metered (host : ByteString) (port : UInt16) (length : ℕ) (s : Ctx) :
    IsMetered p c s (onV2raynGreetingRead env host port length) := by
  simp only [IsMetered, onV2raynGreetingRead, wp_bind, wp_get, wp_ite]
  exact ⟨fun _ ↦ closeSession_metered _ s,
    fun _ ↦ ⟨fun _ ↦ closeSession_metered _ s, fun _ ↦ post_metered harrived rfl s⟩⟩

end

/-! ### The tunnel -/

/-- With the tunnel up, the success reply is in order. -/
theorem replyEstablished_counts {s s₁ : Ctx} (hp : p.lane = .handshake)
    (hmeter : meter s₁ = meter { s with self.tunnelActive := true }) :
    wp replyEstablished (fun _ t ↦ Counts p c s t ∨ Bills s t) (fun _ ↦ True) s₁ := by
  simp only [meter, Prod.mk.injEq] at hmeter
  obtain ⟨hopen, htunnel, hup, hdown, hsums⟩ := hmeter
  have hcounted : ∀ side, s₁.self.counted side = s.self.counted side + arrived p c side := by
    intro side
    rw [arrived_of_lane hp c, Nat.add_zero]
    cases side with
    | client => exact hup
    | remote => exact hdown
  simp only [replyEstablished, wp_bind, wp_get, wp_ite, wp_post, wp_ofExcept, implies_true,
    and_true]
  refine ⟨fun _ ↦ .inl ?_, fun _ _ _ ↦ .inl ?_⟩ <;>
    exact ⟨hopen, hsums, hcounted, .inr ⟨hp, htunnel⟩, fun _ _ _ ↦ .inr htunnel⟩

theorem onDirectConnected_metered (hp : p.lane = .handshake) (endpoint localEndpoint : Endpoint)
    (s : Ctx) : IsMetered p c s (onDirectConnected env endpoint localEndpoint) := by
  simp only [IsMetered, onDirectConnected, wp_bind, wp_modifySelf, wp_get, wp_modifyGateway, wp_log,
    implies_true, and_true]
  exact fun _ ↦ replyEstablished_counts hp rfl

theorem onV2raynConnectRead_metered (hp : p.lane = .handshake) (length : ℕ) (s : Ctx) :
    IsMetered p c s (onV2raynConnectRead env length) := by
  simp only [IsMetered, onV2raynConnectRead, wp_bind, wp_get, wp_ite, wp_modifySelf,
    wp_modifyGateway, wp_log, implies_true, and_true]
  refine ⟨fun _ ↦ closeSession_metered _ s,
    fun _ ↦ ⟨fun _ ↦ closeSession_metered _ s, fun _ ↦ ⟨fun _ _ ↦ ?_, fun _ _ ↦ ?_⟩⟩⟩ <;>
    exact replyEstablished_counts hp rfl

/-! ### All completions -/

/-- The read of the relay counts what it got. -/
theorem onRead_metered (h : ReadHandler) (chunk : Chunk) (s : Ctx) :
    IsMetered (.read h) (.received chunk) s (onRead env chunk.bytes.length h) := by
  have hlane : ∀ {h : ReadHandler}, (Pending.read h).lane = .handshake →
      ∀ side, arrived (.read h) (.received chunk) side = 0 :=
    fun hh side ↦ arrived_of_lane hh _ side
  cases h with
  | handshake => exact onHandshakeRead_metered (hlane rfl) _ s
  | handshakeAgain => exact handleSocks5Handshake_metered (hlane rfl) _ s
  | auth => exact onAuthRead_metered (hlane rfl) _ s
  | authAgain => exact post_metered (hlane rfl) rfl s
  | request => exact onRequestRead_metered (hlane rfl) _ s
  | requestAgain => exact post_metered (hlane rfl) rfl s
  | v2raynGreeting host port => exact onV2raynGreetingRead_metered (hlane rfl) host port _ s
  | v2raynConnect => exact onV2raynConnectRead_metered rfl _ s
  | relayClient =>
    simp only [IsMetered, onRead, onRelayClientRead, doWriteRemote, wp_bind, wp_modifySelf, wp_get,
      wp_modifyGateway, wp_post]
    refine .inl ⟨rfl, rfl, ?_, .inl rfl, fun q hq hreply ↦ .inl (mem_of_concat rfl q hq hreply)⟩
    rintro (_ | _) <;> rfl
  | relayRemote =>
    simp only [IsMetered, onRead, onRelayRemoteRead, doWriteClient, wp_bind, wp_modifySelf, wp_get,
      wp_modifyGateway, wp_post]
    refine .inl ⟨rfl, rfl, ?_, .inl rfl, fun q hq hreply ↦ .inl (mem_of_concat rfl q hq hreply)⟩
    rintro (_ | _) <;> rfl

theorem onWritten_metered (harrived : ∀ side, arrived p c side = 0) (h : WriteHandler) (s : Ctx) :
    IsMetered p c s (onWritten env h) := by
  cases h with
  | methodReply supportAuth =>
    cases supportAuth with
    | false => exact closeSession_metered _ s
    | true => exact post_metered harrived rfl s
  | authReply authenticated =>
    cases authenticated with
    | false => exact closeSession_metered _ s
    | true => exact post_metered harrived rfl s
  | closing reason => exact closeSession_metered _ s
  | tunnelReply failure =>
    simp only [IsMetered, onWritten, doStream, doReadClient, doReadRemote, wp_bind,
      wp_serve, wp_post]
    refine .inl (.of_meter rfl harrived fun q hq hreply ↦ ?_)
    exact mem_of_concat rfl q (mem_of_concat rfl q hq hreply) hreply
  | v2raynGreeting host port => exact post_metered harrived rfl s
  | v2raynConnect => exact post_metered harrived rfl s
  | relayRemote => exact post_metered harrived rfl s
  | relayClient => exact post_metered harrived rfl s

theorem onWriteFailed_metered (harrived : ∀ side, arrived p c side = 0) (h : WriteHandler)
    (s : Ctx) : IsMetered p c s (onWriteFailed env h) := by
  have hnothing : IsMetered p c s (pure ()) := .inl (.of_meter rfl harrived fun _ hq _ ↦ hq)
  cases h with
  | methodReply supportAuth => exact hnothing
  | authReply authenticated =>
    cases authenticated with
    | false => exact closeSession_metered _ s
    | true => exact hnothing
  | _ => exact closeSession_metered _ s

/-- **Every handler counts, or closes the session and bills it.** -/
theorem dispatch_metered {m : SessionM Unit} (hm : dispatch env p c = some m) (s : Ctx) :
    IsMetered p c s m := by
  unfold dispatch at hm
  split at hm
  · rename_i h chunk
    obtain rfl := Option.some.inj hm
    rcases hside : h.side with _ | _ <;>
    · simp only [IsMetered, receive, wp_bind, wp_modifySelf, wp_call]
      exact (onRead_metered h chunk _).after rfl rfl rfl
  · obtain rfl := Option.some.inj hm
    exact closeSession_metered _ s
  · rename_i data h
    obtain rfl := Option.some.inj hm
    simp only [IsMetered, wp_bind, wp_call]
    exact (onWritten_metered (fun _ ↦ rfl) h _).after rfl rfl rfl
  · rename_i data h message n
    obtain rfl := Option.some.inj hm
    simp only [IsMetered, wp_bind, wp_call]
    exact (onWriteFailed_metered (fun _ ↦ rfl) h _).after rfl rfl rfl
  · rename_i host results
    obtain rfl := Option.some.inj hm
    rcases results with _ | ⟨ep, results⟩ <;>
    · simp only [IsMetered, onResolved, doConnectDirect, wp_bind, wp_modifySelf, wp_serve, wp_post]
      exact .inl (.of_meter rfl (fun _ ↦ rfl) (mem_of_concat rfl))
  · obtain rfl := Option.some.inj hm
    simp only [IsMetered, onResolveFailed, wp_bind, wp_log, implies_true, and_true]
    exact fun _ ↦ failWith_metered (fun _ ↦ rfl) _ _ s
  · split at hm
    · obtain rfl := Option.some.inj hm
      exact onDirectConnected_metered rfl _ _ s
    · cases hm
  · obtain rfl := Option.some.inj hm
    simp only [IsMetered, onDirectConnectFailed, wp_bind, wp_get, wp_log, implies_true, and_true]
    exact fun _ ↦ failWith_metered (fun _ ↦ rfl) _ _ s
  · obtain rfl := Option.some.inj hm
    exact post_metered (fun _ ↦ rfl) rfl s
  · obtain rfl := Option.some.inj hm
    exact closeSession_metered _ s
  · split at hm
    · obtain rfl := Option.some.inj hm
      simp only [IsMetered, doSocks5ClientHandshake, wp_bind, wp_modifySelf, wp_get]
      exact (post_metered (fun _ ↦ rfl) rfl _).after rfl rfl rfl
    · cases hm
  · obtain rfl := Option.some.inj hm
    simp only [IsMetered, onV2raynConnectFailed, wp_bind, wp_log, implies_true, and_true]
    exact fun _ ↦ failWith_metered (fun _ ↦ rfl) _ _ s
  · cases hm

/-! ### Starting -/

/-- A session begins without a tunnel and without traffic. -/
structure Unbilled (g : Gateway) (t : Ctx) : Prop where
  tunnel : t.self.tunnelActive = false
  sums : t.gateway.metrics.bytes = g.metrics.bytes
  counted : t.self.isOpen = true → ∀ side, t.self.counted side = 0

/-- A client turned away is not billed for anything. -/
theorem closeSession_unbilled (reason : Text) {g : Gateway} {s : Ctx}
    (htunnel : s.self.tunnelActive = false) (hsums : s.gateway.metrics.bytes = g.metrics.bytes) :
    wp (closeSession env reason) (fun _ t ↦ Unbilled g t) (fun _ ↦ True) s := by
  simp only [closeSession, logClose, dumpStats, htunnel, wp_bind, wp_modifySelf, wp_call, wp_get,
    wp_modifyGateway, wp_ite, wp_log, wp_pure, wp_throw, implies_true, and_true,
    Bool.false_eq_true, false_imp_iff, true_and, not_false_eq_true, forall_const]
  refine fun _ ↦ ⟨rfl, ?_, fun h ↦ by cases h⟩
  rw [bytes_release, hsums]

theorem onAdmission_unbilled (response : AdmitResponse) {g : Gateway} {s : Ctx}
    (htunnel : s.self.tunnelActive = false) (hsums : s.gateway.metrics.bytes = g.metrics.bytes)
    (hcounted : ∀ side, s.self.counted side = 0) :
    wp (onAdmission env response) (fun _ t ↦ Unbilled g t) (fun _ ↦ True) s := by
  simp only [onAdmission, doHandshake, wp_bind, wp_get, wp_ite, wp_modifyGateway, wp_log,
    wp_modifySelf, wp_post, implies_true, and_true]
  refine ⟨fun _ _ ↦ closeSession_unbilled _ htunnel hsums,
    fun _ ↦ ⟨fun _ _ _ ↦ ?_, fun _ _ ↦ ?_⟩⟩ <;>
    exact ⟨htunnel, hsums, fun _ ↦ hcounted⟩

theorem start_unbilled (a : Arrival) (g : Gateway) :
    wp (start env a.remote) (fun _ t ↦ Unbilled g t) (fun _ ↦ True) ⟨a.session, g⟩ := by
  have hcounted : ∀ side, a.session.counted side = 0 := by
    rintro (_ | _) <;> rfl
  rcases a.remote with _ | ep
  · trivial
  simp only [start, wp_bind, wp_modifySelf, wp_get, wp_ite, wp_log, wp_modifyGateway, implies_true,
    and_true]
  refine ⟨fun _ _ ↦ ?_, fun _ ↦ ⟨fun _ ↦ ?_, fun _ _ ↦ ?_⟩⟩
  · exact closeSession_unbilled _ rfl rfl
  · simp only [requestAdmission, wp_bind, wp_get, wp_modifyGateway, wp_call]
    exact onAdmission_unbilled _ rfl rfl hcounted
  · exact closeSession_unbilled _ rfl rfl

end Session

end LanProxyGateway
