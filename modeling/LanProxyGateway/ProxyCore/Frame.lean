import LanProxyGateway.ProxyCore.Lifecycle

/-!
# What a handler leaves alone

Most handlers have nothing to do with the destination of a session, with the choice of a node, or
with the list of the sessions. `Steady` says this of a run of such a handler, closing included, and
`dispatch_steady` proves it of all of them but two: the reads of a greeting and of a request, which
may end in a decision about the route. What these two do is `Turns`.

The two relations complete the picture that `Reaction` gives: the reactions name the calls and the
operations, and the relations say where the destinations, the nodes and the ids in them come from.
-/

open Foundation ByteString

namespace LanProxyGateway

open LanProxy

/-! ## What is observed -/

/-- The operations of a session whose destination is still to come. -/
def Pending.isEarly : Pending → Bool
  | .read .handshake | .read .handshakeAgain | .read .auth | .read .authAgain | .read .request
  | .read .requestAgain | .write _ (.methodReply _) | .write _ (.authReply _) => true
  | _ => false

theorem Pending.lane_of_isEarly {p : Pending} (h : p.isEarly = true) : p.lane = .handshake := by
  unfold isEarly at h
  split at h
  all_goals first | rfl | exact absurd h Bool.false_ne_true

def Call.isDecision : Call → Bool
  | .service _ (.routeDecision _ _) => true
  | _ => false

/-- The decisions about a route, in order. -/
def Session.decisions (s : Session) : List Call := s.trace.filter Call.isDecision

/-- The two tables that count the sessions of a node. -/
def Gateway.nodeCounts (g : Gateway) :
    LoadBalancer × AList fun _ : ByteString ↦ ConnectionCounts :=
  (g.balancer, g.concurrency.nodeMetrics)

namespace Session

open SessionM

theorem decisions_append {s t : Session} {calls : List Call} (ht : t.trace = s.trace ++ calls) :
    t.decisions = s.decisions ++ calls.filter Call.isDecision := by
  rw [decisions, ht, List.filter_append]
  rfl

theorem decisions_concat {s t : Session} {x : Call} (ht : t.trace = s.trace ++ [x])
    (hx : x.isDecision = false) : t.decisions = s.decisions := by
  rw [decisions_append ht, List.filter_singleton, hx]
  exact List.append_nil _

/-! ## Handlers without a destination -/

/-- Two states of a session between which no destination and no node has been chosen. An early
session may note a destination that nothing comes of; its address is looked up later. -/
structure Unmoved (p : Pending) (s t : Session) : Prop where
  host : p.isEarly = false → t.targetHost = s.targetHost
  port : p.isEarly = false → t.targetPort = s.targetPort
  resolvedIp : p.isEarly = true → t.resolvedIp = s.resolvedIp
  decisions : t.decisions = s.decisions
  sessionId : t.sessionId = s.sessionId
  nodeTag : t.selectedNodeTag = s.selectedNodeTag
  action : t.routeAction = s.routeAction

theorem Unmoved.trans {p : Pending} {s t u : Session} (h : Unmoved p s t) (h' : Unmoved p t u) :
    Unmoved p s u where
  host hp := (h'.host hp).trans (h.host hp)
  port hp := (h'.port hp).trans (h.port hp)
  resolvedIp hp := (h'.resolvedIp hp).trans (h.resolvedIp hp)
  decisions := h'.decisions.trans h.decisions
  sessionId := h'.sessionId.trans h.sessionId
  nodeTag := h'.nodeTag.trans h.nodeTag
  action := h'.action.trans h.action

/-- The tables of the nodes and the list of the sessions stay as they are. -/
structure Quiet (p : Pending) (s t : Ctx) : Prop where
  unmoved : Unmoved p s.self t.self
  isOpen : t.self.isOpen = s.self.isOpen
  nodes : t.gateway.nodeCounts = s.gateway.nodeCounts
  lists : ∀ id, t.gateway.registry.Lists id ↔ s.gateway.registry.Lists id

/-- The session is closed and off the list; without a node it is not counted anywhere. -/
structure Closed (p : Pending) (s t : Ctx) : Prop where
  unmoved : Unmoved p s.self t.self
  isOpen : t.self.isOpen = false
  nodes : s.self.selectedNodeTag.bytes = [] → t.gateway.nodeCounts = s.gateway.nodeCounts
  lists : ∀ id, t.gateway.registry.Lists id ↔
    id ≠ s.self.sessionId.bytes ∧ s.gateway.registry.Lists id

def Steady (p : Pending) (s t : Ctx) : Prop := Quiet p s t ∨ Closed p s t

variable {env : Environment} {p : Pending}

theorem Steady.unmoved {s t : Ctx} (h : Steady p s t) : Unmoved p s.self t.self := by
  rcases h with h | h
  · exact h.unmoved
  · exact h.unmoved

/-- Where no node has been chosen the tables stay as they are. -/
theorem Steady.nodeCounts {s t : Ctx} (h : Steady p s t)
    (htag : s.self.selectedNodeTag.bytes = []) :
    t.gateway.nodeCounts = s.gateway.nodeCounts := by
  rcases h with h | h
  · exact h.nodes
  · exact h.nodes htag

theorem Quiet.trans {s t u : Ctx} (h : Quiet p s t) (h' : Quiet p t u) : Quiet p s u where
  unmoved := h.unmoved.trans h'.unmoved
  isOpen := h'.isOpen.trans h.isOpen
  nodes := h'.nodes.trans h.nodes
  lists id := (h'.lists id).trans (h.lists id)

theorem Closed.after {s s₁ t : Ctx} (h : Closed p s₁ t) (hs : Quiet p s s₁) : Closed p s t where
  unmoved := hs.unmoved.trans h.unmoved
  isOpen := h.isOpen
  nodes htag := (h.nodes (hs.unmoved.nodeTag ▸ htag)).trans hs.nodes
  lists id := by
    rw [← hs.unmoved.sessionId, ← hs.lists id]
    exact h.lists id

/-- A quiet step in front. -/
theorem Steady.after {s s₁ t : Ctx} (h : Steady p s₁ t) (hs : Quiet p s s₁) : Steady p s t := by
  rcases h with h | h
  · exact .inl (hs.trans h)
  · exact .inr (h.after hs)

/-- Every run of the program is steady. -/
def IsSteady (p : Pending) (s : Ctx) (m : SessionM Unit) : Prop :=
  wp m (fun _ t ↦ Steady p s t) (fun _ ↦ True) s

/-- A quiet step in front of a program. -/
theorem IsSteady.after {m : SessionM Unit} {s s₁ : Ctx} (h : IsSteady p s₁ m) (hs : Quiet p s s₁) :
    wp m (fun _ t ↦ Steady p s t) (fun _ ↦ True) s₁ :=
  wp_mono h (fun _ _ ht ↦ ht.after hs) fun _ h ↦ h

theorem nodeCounts_release (env : Environment) (s : Session) (g : Gateway)
    (htag : s.selectedNodeTag.bytes = []) : (s.release env g).nodeCounts = g.nodeCounts := by
  have hnot : ¬(s.tunnelActive ∧ s.routeAction = .proxy ∧ s.selectedNodeTag.bytes ≠ []) :=
    fun h ↦ h.2.2 htag
  rw [release]
  simp only [hnot, if_false]
  by_cases ha : s.admitted
  · simp only [if_pos ha]
    rfl
  · simp only [if_neg ha]
    rfl

theorem registry_release (env : Environment) (s : Session) (g : Gateway) :
    (s.release env g).registry = g.registry.unregisterConnection s.sessionId.bytes := by
  rw [release]
  split <;> split <;> rfl

theorem nodeCounts_addTraffic (s : Session) (g : Gateway) :
    (s.addTraffic g).nodeCounts = g.nodeCounts := by
  rw [addTraffic]
  split <;> rfl

theorem registry_addTraffic (s : Session) (g : Gateway) :
    (s.addTraffic g).registry = g.registry := by
  rw [addTraffic]
  split <;> rfl

theorem closeSession_closes (reason : Text) (s : Ctx) :
    wp (closeSession env reason) (fun _ t ↦ Closed p s t) (fun _ ↦ True) s := by
  have hend : ∀ t : Ctx, t.self = { s.self with
      isOpen := false, trace := s.self.trace ++ [.close reason], tunnelActive := false } →
      t.gateway.nodeCounts = (s.self.release env s.gateway).nodeCounts →
      t.gateway.registry = (s.self.release env s.gateway).registry → Closed p s t := by
    rintro ⟨self, g⟩ rfl hnodes hregistry
    have hlists : g.registry = s.gateway.registry.unregisterConnection s.self.sessionId.bytes :=
      hregistry.trans (registry_release env s.self s.gateway)
    refine ⟨⟨fun _ ↦ rfl, fun _ ↦ rfl, fun _ ↦ rfl, decisions_concat rfl rfl, rfl, rfl, rfl⟩, rfl,
      fun htag ↦ hnodes.trans (nodeCounts_release env s.self s.gateway htag), fun id ↦ ?_⟩
    rw [hlists]
    exact ConnectionRegistry.lists_unregisterConnection _ _ _
  simp only [closeSession, logClose, dumpStats, wp_bind, wp_modifySelf, wp_call, wp_get,
    wp_modifyGateway, wp_ite, wp_log, wp_pure, wp_throw, implies_true, and_true]
  exact ⟨fun _ _ ↦ hend _ rfl (nodeCounts_addTraffic _ _) (registry_addTraffic _ _),
    fun _ _ ↦ hend _ rfl rfl rfl⟩

theorem closeSession_steady (reason : Text) (s : Ctx) : IsSteady p s (closeSession env reason) :=
  wp_mono (closeSession_closes reason s) (fun _ _ ↦ .inr) fun _ h ↦ h

/-- The fields that a decision about the route reads and writes. -/
def aim (s : Session) :
    ByteString × UInt16 × ByteString × AsciiText × Text × SessionRouteAction :=
  (s.targetHost, s.targetPort, s.resolvedIp, s.sessionId, s.selectedNodeTag, s.routeAction)

theorem Unmoved.of_aim {s t : Session} (haim : t.aim = s.aim)
    (hdecisions : t.decisions = s.decisions) :
    Unmoved p s t := by
  simp only [aim, Prod.mk.injEq] at haim
  obtain ⟨hhost, hport, hip, hid, htag, haction⟩ := haim
  exact ⟨fun _ ↦ hhost, fun _ ↦ hport, fun _ ↦ hip, hdecisions, hid, htag, haction⟩

/-- A step that only fills buffers, counts bytes, notes a name, starts operations or makes a call
that is no decision. -/
theorem Quiet.of_aim {s t : Ctx} (haim : t.self.aim = s.self.aim)
    (hdecisions : t.self.decisions = s.self.decisions) (hopen : t.self.isOpen = s.self.isOpen)
    (hnodes : t.gateway.nodeCounts = s.gateway.nodeCounts)
    (hlists : ∀ id, t.gateway.registry.Lists id ↔ s.gateway.registry.Lists id) : Quiet p s t :=
  ⟨.of_aim haim hdecisions, hopen, hnodes, hlists⟩

theorem post_steady (q : Pending) (s : Ctx) : IsSteady p s (post q) :=
  .inl (.of_aim rfl rfl rfl rfl fun _ ↦ Iff.rfl)

theorem replyEstablished_steady (s : Ctx) : IsSteady p s replyEstablished := by
  simp only [IsSteady, replyEstablished, wp_bind, wp_get, wp_ite, wp_ofExcept,
    implies_true, and_true]
  exact ⟨fun _ ↦ post_steady _ s, fun _ _ _ ↦ post_steady _ s⟩

theorem failWith_steady (code : UInt8) (reason : Text) (s : Ctx) :
    IsSteady p s (failWith code reason) := by
  simp only [IsSteady, failWith, wp_bind, wp_get, wp_ite]
  exact ⟨fun _ ↦ post_steady _ s, fun _ ↦ post_steady _ s⟩

theorem handleSocks5Handshake_steady (length : ℕ) (s : Ctx) :
    IsSteady p s (handleSocks5Handshake env length) := by
  rw [IsSteady, handleSocks5Handshake]
  simp only [wp_bind, wp_get]
  split
  · simp only [wp_bind, wp_log, implies_true, and_true]
    exact fun _ ↦ closeSession_steady _ s
  · exact post_steady _ s
  · exact post_steady _ s
  · simp only [wp_bind, wp_log, implies_true, and_true]
    exact fun _ ↦ post_steady _ s

theorem onAuthRead_steady (length : ℕ) (s : Ctx) : IsSteady p s (onAuthRead env length) := by
  rw [IsSteady, onAuthRead]
  simp only [wp_bind, wp_get]
  split
  · exact closeSession_steady _ s
  · exact post_steady _ s
  · simp only [noteLogin, noteFailedLogin, wp_bind, wp_ofExcept, wp_call, wp_ite, wp_modifySelf,
      wp_get, wp_modifyGateway, wp_log, wp_post, implies_true, and_true]
    refine fun _ _ ↦ ⟨fun _ _ ↦ ?_, fun _ _ ↦ ?_⟩
    · exact .inl (.of_aim rfl (decisions_concat rfl rfl) rfl rfl
        fun _ ↦ ConnectionRegistry.lists_updateRecord _ _ _ _)
    · exact .inl (.of_aim rfl (decisions_concat rfl rfl) rfl rfl fun _ ↦ Iff.rfl)

theorem onV2raynGreetingRead_steady (host : ByteString) (port : UInt16) (length : ℕ) (s : Ctx) :
    IsSteady p s (onV2raynGreetingRead env host port length) := by
  simp only [IsSteady, onV2raynGreetingRead, wp_bind, wp_get, wp_ite]
  exact ⟨fun _ ↦ closeSession_steady _ s,
    fun _ ↦ ⟨fun _ ↦ closeSession_steady _ s, fun _ ↦ post_steady _ s⟩⟩

theorem onV2raynConnectRead_steady (length : ℕ) (s : Ctx) :
    IsSteady p s (onV2raynConnectRead env length) := by
  simp only [IsSteady, onV2raynConnectRead, wp_bind, wp_get, wp_ite, wp_modifySelf,
    wp_modifyGateway, wp_log, implies_true, and_true]
  refine ⟨fun _ ↦ closeSession_steady _ s,
    fun _ ↦ ⟨fun _ ↦ closeSession_steady _ s, fun _ ↦ ⟨fun _ _ ↦ ?_, fun _ _ ↦ ?_⟩⟩⟩
  · refine (replyEstablished_steady _).after (.of_aim rfl rfl rfl rfl fun id ↦ ?_)
    exact (ConnectionRegistry.lists_updateRecord _ _ _ _).trans
      (ConnectionRegistry.lists_updateRecord _ _ _ _)
  · refine (replyEstablished_steady _).after (.of_aim rfl rfl rfl rfl fun id ↦ ?_)
    exact ConnectionRegistry.lists_updateRecord _ _ _ _

theorem onWritten_steady (h : WriteHandler) (s : Ctx) : IsSteady p s (onWritten env h) := by
  rcases h with supportAuth | authenticated | reason | failure | ⟨host, port⟩ | _ | _ | _
  · rcases supportAuth
    · exact closeSession_steady _ s
    · exact post_steady _ s
  · rcases authenticated
    · exact closeSession_steady _ s
    · exact post_steady _ s
  · exact closeSession_steady _ s
  · simp only [IsSteady, onWritten, doStream, doReadClient, doReadRemote, wp_bind,
      wp_serve, wp_post]
    exact .inl (.of_aim rfl (decisions_concat rfl rfl) rfl rfl fun _ ↦ Iff.rfl)
  · exact post_steady _ s
  · exact post_steady _ s
  · exact post_steady _ s
  · exact post_steady _ s

theorem onWriteFailed_steady (h : WriteHandler) (s : Ctx) : IsSteady p s (onWriteFailed env h) := by
  have hnothing : IsSteady p s (pure ()) :=
    .inl (.of_aim rfl rfl rfl rfl fun _ ↦ Iff.rfl)
  rcases h with supportAuth | authenticated | reason | failure | ⟨host, port⟩ | _ | _ | _
  · exact hnothing
  · rcases authenticated
    · exact closeSession_steady _ s
    · exact hnothing
  all_goals exact closeSession_steady _ s

theorem onRead_steady (h : ReadHandler) (hh : h ≠ .handshake ∧ h ≠ .request) (length : ℕ)
    (s : Ctx) :
    IsSteady p s (onRead env length h) := by
  rcases h with _ | _ | _ | _ | _ | _ | ⟨host, port⟩ | _ | _ | _
  · exact absurd rfl hh.1
  · exact handleSocks5Handshake_steady length s
  · exact onAuthRead_steady length s
  · exact post_steady _ s
  · exact absurd rfl hh.2
  · exact post_steady _ s
  · exact onV2raynGreetingRead_steady host port length s
  · exact onV2raynConnectRead_steady length s
  · simp only [IsSteady, onRead, onRelayClientRead, doWriteRemote, wp_bind, wp_modifySelf, wp_get,
      wp_modifyGateway, wp_post]
    exact .inl (.of_aim rfl rfl rfl rfl fun _ ↦ ConnectionRegistry.lists_updateRecord _ _ _ _)
  · simp only [IsSteady, onRead, onRelayRemoteRead, doWriteClient, wp_bind, wp_modifySelf, wp_get,
      wp_modifyGateway, wp_post]
    exact .inl (.of_aim rfl rfl rfl rfl fun _ ↦ ConnectionRegistry.lists_updateRecord _ _ _ _)

theorem onResolved_steady (host : ByteString) (results : List Endpoint) (s : Ctx) :
    IsSteady (.resolveDirect host) s (onResolved env results) := by
  rcases results with _ | ⟨ep, results⟩ <;>
  · simp only [IsSteady, onResolved, doConnectDirect, wp_bind, wp_modifySelf, wp_serve, wp_post]
    refine .inl ⟨⟨fun _ ↦ rfl, fun _ ↦ rfl, nofun, ?_, rfl, rfl, rfl⟩, rfl, rfl, fun _ ↦ Iff.rfl⟩
    exact decisions_concat rfl rfl

theorem onDirectConnected_steady (endpoint localEndpoint : Endpoint) (s : Ctx) :
    IsSteady p s (onDirectConnected env endpoint localEndpoint) := by
  simp only [IsSteady, onDirectConnected, wp_bind, wp_modifySelf, wp_get, wp_modifyGateway, wp_log,
    implies_true, and_true]
  intro _
  refine (replyEstablished_steady _).after (.of_aim rfl rfl rfl rfl ?_)
  exact fun _ ↦ ConnectionRegistry.lists_updateRecord _ _ _ _

/-- **Only two reads turn a session.** -/
theorem dispatch_steady {c : Completion} {m : SessionM Unit} (hm : dispatch env p c = some m)
    (hp : p ≠ .read .handshake ∧ p ≠ .read .request) (s : Ctx) : IsSteady p s m := by
  unfold dispatch at hm
  split at hm
  · rename_i h chunk
    obtain rfl := Option.some.inj hm
    have hh : h ≠ .handshake ∧ h ≠ .request := by
      constructor
      · rintro rfl
        exact hp.1 rfl
      · rintro rfl
        exact hp.2 rfl
    rcases hside : h.side with _ | _ <;>
    · simp only [IsSteady, receive, wp_bind, wp_modifySelf, wp_call]
      exact (onRead_steady h hh _ _).after
        (.of_aim rfl (decisions_concat rfl rfl) rfl rfl fun _ ↦ Iff.rfl)
  · obtain rfl := Option.some.inj hm
    exact closeSession_steady _ s
  · rename_i data h
    obtain rfl := Option.some.inj hm
    simp only [IsSteady, wp_bind, wp_call]
    exact (onWritten_steady h _).after
      (.of_aim rfl (decisions_concat rfl rfl) rfl rfl fun _ ↦ Iff.rfl)
  · rename_i data h message n
    obtain rfl := Option.some.inj hm
    simp only [IsSteady, wp_bind, wp_call]
    refine (onWriteFailed_steady h _).after (.of_aim rfl ?_ rfl rfl fun _ ↦ Iff.rfl)
    exact (decisions_append (List.append_assoc _ _ _)).trans (List.append_nil _)
  · obtain rfl := Option.some.inj hm
    exact onResolved_steady _ _ s
  · obtain rfl := Option.some.inj hm
    simp only [IsSteady, onResolveFailed, wp_bind, wp_log, implies_true, and_true]
    exact fun _ ↦ failWith_steady _ _ s
  · split at hm
    · obtain rfl := Option.some.inj hm
      exact onDirectConnected_steady _ _ s
    · cases hm
  · obtain rfl := Option.some.inj hm
    simp only [IsSteady, onDirectConnectFailed, wp_bind, wp_get, wp_log, implies_true, and_true]
    exact fun _ ↦ failWith_steady _ _ s
  · obtain rfl := Option.some.inj hm
    exact post_steady _ s
  · obtain rfl := Option.some.inj hm
    exact closeSession_steady _ s
  · split at hm
    · obtain rfl := Option.some.inj hm
      simp only [IsSteady, doSocks5ClientHandshake, wp_bind, wp_modifySelf, wp_get]
      exact (post_steady _ _).after (.of_aim rfl rfl rfl rfl fun _ ↦ Iff.rfl)
    · cases hm
  · obtain rfl := Option.some.inj hm
    simp only [IsSteady, onV2raynConnectFailed, wp_bind, wp_log, implies_true, and_true]
    exact fun _ ↦ failWith_steady _ _ s
  · cases hm

end Session

/-! ## Reads that choose a route -/

/-- `Asks env b h chunk host port`: the bytes that complete the read `h` into the buffer `b` hand
`host` and `port` to `do_route_decision`. -/
inductive Asks (env : Environment) (b : Buffer) : ReadHandler → Chunk → ByteString → UInt16 → Prop
  | socks {chunk : Chunk} {host : ByteString} {port : UInt16}
    (h : parseRequest env.v6Text (b.store chunk.bytes) chunk.bytes.length = .target host port) :
    Asks env b .request chunk host port
  | http {chunk : Chunk} {host portStr u p : ByteString} {port : UInt16}
    (hauthority : parseAuthority chunk.bytes = some (host, portStr))
    (hport : parsePort portStr = .ok port) (hlogin : Presents env b .handshake chunk u p true) :
    Asks env b .handshake chunk host port

/-- It is a read of a session without a destination, from its client. -/
theorem Asks.isEarly {env : Environment} {b : Buffer} {r : ReadHandler} {chunk : Chunk}
    {host : ByteString} {port : UInt16} (h : Asks env b r chunk host port) :
    (Pending.read r).isEarly = true ∧ r.side = .client := by
  rcases h with - | - <;> exact ⟨rfl, rfl⟩

/-- The route of a session for an action of the engine. -/
def RouteAction.toSession : RouteAction → SessionRouteAction
  | .direct => .direct
  | .proxy => .proxy

namespace Session

open SessionM

/-- What a decision about `host` does to the route and to the node of a session. -/
inductive Chosen (env : Environment) (host : ByteString) (s t : Ctx) : Prop
  /-- No node is chosen: the connection is direct, or there is none to choose. -/
  | noNode (h : (env.router.decide env.isChina host s.self.resolvedIp).action = .direct ∨
      env.selectNode s.self.clientIp = none)
        (htag : t.self.selectedNodeTag = s.self.selectedNodeTag)
    (hnodes : t.gateway.nodeCounts = s.gateway.nodeCounts)
  /-- The choice of a node is counted by the balancer. -/
  | node (sched : ScheduleResult)
    (h : (env.router.decide env.isChina host s.self.resolvedIp).action = .proxy)
    (hselect : env.selectNode s.self.clientIp = some sched)
    (htag : t.self.selectedNodeTag = sched.nodeTag)
    (hnodes : t.gateway.nodeCounts =
      (s.gateway.balancer.incNodeConnections sched.nodeTag.bytes,
        s.gateway.concurrency.nodeMetrics))

/-- The session decides about the route to the destination it has got. -/
structure Routes (env : Environment) (s t : Ctx) : Prop where
  resolvedIp : t.self.resolvedIp = s.self.resolvedIp
  decisions : t.self.decisions = s.self.decisions ++
    [.service t.self.username (.routeDecision t.self.targetHost t.self.targetPort)]
  action : t.self.routeAction =
    (env.router.decide env.isChina t.self.targetHost s.self.resolvedIp).action.toSession
  chosen : Chosen env t.self.targetHost s t
  sessionId : t.self.sessionId = s.self.sessionId
  isOpen : t.self.isOpen = s.self.isOpen
  lists : ∀ id, t.gateway.registry.Lists id ↔ s.gateway.registry.Lists id

variable {env : Environment} {p : Pending}

/-- Two states of an early session that differ in nothing that a decision about the route depends on
or changes, the destination apart. -/
structure Noted (s t : Ctx) : Prop where
  resolvedIp : t.self.resolvedIp = s.self.resolvedIp
  decisions : t.self.decisions = s.self.decisions
  sessionId : t.self.sessionId = s.self.sessionId
  isOpen : t.self.isOpen = s.self.isOpen
  nodeTag : t.self.selectedNodeTag = s.self.selectedNodeTag
  action : t.self.routeAction = s.self.routeAction
  clientAddr : t.self.clientAddr = s.self.clientAddr
  nodes : t.gateway.nodeCounts = s.gateway.nodeCounts
  lists : ∀ id, t.gateway.registry.Lists id ↔ s.gateway.registry.Lists id

theorem Noted.trans {s t u : Ctx} (h : Noted s t) (h' : Noted t u) : Noted s u where
  resolvedIp := h'.resolvedIp.trans h.resolvedIp
  decisions := h'.decisions.trans h.decisions
  sessionId := h'.sessionId.trans h.sessionId
  isOpen := h'.isOpen.trans h.isOpen
  nodeTag := h'.nodeTag.trans h.nodeTag
  action := h'.action.trans h.action
  clientAddr := h'.clientAddr.trans h.clientAddr
  nodes := h'.nodes.trans h.nodes
  lists id := (h'.lists id).trans (h.lists id)

theorem Noted.quiet {s t : Ctx} (h : Noted s t) (hp : p.isEarly = true) : Quiet p s t := by
  have hlate : ∀ {P : Prop}, p.isEarly = false → P := by
    intro P hf
    rw [hp] at hf
    cases hf
  exact ⟨⟨hlate, hlate, fun _ ↦ h.resolvedIp, h.decisions, h.sessionId, h.nodeTag, h.action⟩,
    h.isOpen, h.nodes, h.lists⟩

theorem Routes.after {s s₁ t : Ctx} (h : Routes env s₁ t) (hs : Noted s s₁) : Routes env s t where
  resolvedIp := h.resolvedIp.trans hs.resolvedIp
  decisions := hs.decisions ▸ h.decisions
  action := hs.resolvedIp ▸ h.action
  chosen := by
    have hclient : s₁.self.clientIp = s.self.clientIp := by rw [clientIp, clientIp, hs.clientAddr]
    rcases h.chosen with ⟨hno, ht, hn⟩ | ⟨sched, hproxy, hselect, ht, hn⟩
    · rw [hs.resolvedIp, hclient] at hno
      exact .noNode hno (ht.trans hs.nodeTag) (hn.trans hs.nodes)
    · obtain ⟨hbalancer, hmetrics⟩ := Prod.mk.inj hs.nodes
      rw [hs.resolvedIp] at hproxy
      rw [hclient] at hselect
      rw [hbalancer, hmetrics] at hn
      exact .node sched hproxy hselect ht hn
  sessionId := h.sessionId.trans hs.sessionId
  isOpen := h.isOpen.trans hs.isOpen
  lists id := (h.lists id).trans (hs.lists id)

theorem doRouteDecision_routes (s : Ctx) :
    wp (doRouteDecision env) (fun _ t ↦ Routes env s t ∧ t.self.targetHost = s.self.targetHost ∧
      t.self.targetPort = s.self.targetPort) (fun _ ↦ True) s := by
  have hdecisions : ∀ (calls : List Call) (t : Session), t.trace = s.self.trace ++
      .service s.self.username (.routeDecision s.self.targetHost s.self.targetPort) :: calls →
      calls.filter Call.isDecision = [] → t.decisions = s.self.decisions ++
        [.service s.self.username (.routeDecision s.self.targetHost s.self.targetPort)] := by
    intro calls t ht hcalls
    rw [decisions_append ht, List.filter_cons_of_pos rfl, hcalls]
  rw [doRouteDecision]
  simp only [wp_bind, wp_get, wp_serve]
  split
  · rename_i haction
    simp only [doResolve, wp_bind, wp_modifySelf, wp_log, wp_serve, wp_get, wp_post, implies_true,
      and_true]
    intro _
    refine ⟨rfl, hdecisions [.service s.self.username .resolve] _ (List.append_assoc _ _ _) rfl,
      ?_, .noNode (.inl haction) rfl rfl, rfl, rfl, fun _ ↦ Iff.rfl⟩
    rw [haction]
    rfl
  · rename_i haction
    simp only [chooseNode, doConnectViaV2rayn, wp_bind, wp_modifySelf, wp_serve, wp_get]
    have htrace := hdecisions
      [.service s.self.username .selectNode, .service s.self.username .connectViaV2rayn]
    split
    · rename_i sched hsched
      simp only [wp_bind, wp_modifySelf, wp_modifyGateway, wp_log, wp_post, implies_true, and_true]
      intro _
      refine ⟨rfl, htrace _ ?_ rfl, ?_, .node sched haction hsched rfl rfl, rfl, rfl,
        fun _ ↦ Iff.rfl⟩
      · simp only [List.append_assoc, List.cons_append, List.nil_append]
      · rw [haction]
        rfl
    · rename_i hsched
      simp only [wp_log, wp_post, implies_true, and_true]
      intro _
      refine ⟨rfl, htrace _ ?_ rfl, ?_, .noNode (.inr hsched) rfl rfl, rfl, rfl, fun _ ↦ Iff.rfl⟩
      · simp only [List.append_assoc, List.cons_append, List.nil_append]
      · rw [haction]
        rfl

/-- A handler whose runs are steady or route the session to what the read `h` asks for. -/
def Turns (env : Environment) (b : Buffer) (h : ReadHandler) (chunk : Chunk) (s t : Ctx) : Prop :=
  Steady (.read h) s t ∨
    Routes env s t ∧ Asks env b h chunk t.self.targetHost t.self.targetPort

theorem Turns.after {b : Buffer} {h : ReadHandler} {chunk : Chunk} {s s₁ t : Ctx}
    (ht : Turns env b h chunk s₁ t) (hs : Noted s s₁) (hh : (Pending.read h).isEarly = true) :
    Turns env b h chunk s t := by
  rcases ht with ht | ⟨hr, hasks⟩
  · exact .inl (ht.after (hs.quiet hh))
  · exact .inr ⟨hr.after hs, hasks⟩

theorem doHttpAuth_turns {b : Buffer} (chunk : Chunk) {portStr : ByteString} {s s₁ : Ctx}
    (hauthority : parseAuthority chunk.bytes = some (s₁.self.targetHost, portStr))
    (hport : parsePort portStr = .ok s₁.self.targetPort) (hs : Noted s s₁)
    (hl : ∀ ok, env.users.authenticate env.lib env.config env.time s₁.self.httpUsername
      s₁.self.httpPassword = .ok ok →
      Presents env b .handshake chunk s₁.self.httpUsername s₁.self.httpPassword ok) :
    wp (doHttpAuth env) (fun _ t ↦ Turns env b .handshake chunk s t) (fun _ ↦ True) s₁ := by
  simp only [doHttpAuth, noteLogin, noteFailedLogin, wp_bind, wp_get, wp_ofExcept, wp_call,
    wp_ite, wp_log, wp_modifySelf, wp_modifyGateway, wp_post, implies_true, and_true,
    Bool.not_eq_true]
  intro authenticated hok
  have hpresents := hl authenticated hok
  constructor
  · rintro rfl _
    refine wp_mono (doRouteDecision_routes _) ?_ fun _ h ↦ h
    rintro _ t ⟨hr, hhost, hp⟩
    refine .inr ⟨hr.after (hs.trans ?_), ?_⟩
    · exact ⟨rfl, decisions_concat rfl rfl, rfl, rfl, rfl, rfl, rfl, rfl,
        fun _ ↦ ConnectionRegistry.lists_updateRecord _ _ _ _⟩
    · rw [hhost, hp]
      exact .http hauthority hport hpresents
  · rintro rfl _
    refine .inl (.inl ((hs.trans ?_).quiet rfl))
    exact ⟨rfl, decisions_concat rfl rfl, rfl, rfl, rfl, rfl, rfl, rfl, fun _ ↦ Iff.rfl⟩

theorem handleHttpConnect_turns {b : Buffer} (chunk : Chunk) (s : Ctx)
    (hb : s.self.clientBuffer = b.store chunk.bytes)
    (hhttp : isHttpConnect (b.store chunk.bytes) chunk.bytes.length = true) :
    wp (handleHttpConnect env chunk.bytes.length)
      (fun _ t ↦ Turns env b .handshake chunk s t) (fun _ ↦ True) s := by
  rw [handleHttpConnect]
  simp only [wp_bind, wp_get]
  rw [hb, Buffer.read_store_self b chunk.fits]
  split
  · exact wp_mono (post_steady _ s) (fun _ _ ↦ .inl) fun _ h ↦ h
  · rename_i host portStr hauthority
    simp only [wp_bind, wp_ofExcept, wp_modifySelf, wp_ite, wp_log, wp_post, implies_true, and_true]
    intro port hport
    refine ⟨fun _ _ ↦ .inl ?_, fun hne _ ↦ ?_⟩
    · exact .inl (Noted.quiet ⟨rfl, rfl, rfl, rfl, rfl, rfl, rfl, rfl, fun _ ↦ Iff.rfl⟩ rfl)
    · refine doHttpAuth_turns chunk hauthority hport
        ⟨rfl, rfl, rfl, rfl, rfl, rfl, rfl, rfl, fun _ ↦ Iff.rfl⟩ fun ok hok ↦ ?_
      exact .basic hhttp hauthority hport rfl hne hok

theorem onHandshakeRead_turns {b : Buffer} (chunk : Chunk) (s : Ctx)
    (hb : s.self.clientBuffer = b.store chunk.bytes) :
    wp (onHandshakeRead env chunk.bytes.length)
      (fun _ t ↦ Turns env b .handshake chunk s t) (fun _ ↦ True) s := by
  rw [onHandshakeRead]
  simp only [wp_bind, wp_get, wp_ite, wp_modifySelf]
  constructor
  · intro hhttp
    rw [hb] at hhttp
    refine wp_mono (handleHttpConnect_turns chunk _ hb hhttp) ?_ fun _ h ↦ h
    exact fun _ t ht ↦ ht.after ⟨rfl, rfl, rfl, rfl, rfl, rfl, rfl, rfl, fun _ ↦ Iff.rfl⟩ rfl
  · intro _
    exact wp_mono (handleSocks5Handshake_steady _ s) (fun _ _ ↦ .inl) fun _ h ↦ h

theorem onRequestRead_turns {b : Buffer} (chunk : Chunk) (s : Ctx)
    (hb : s.self.clientBuffer = b.store chunk.bytes) :
    wp (onRequestRead env chunk.bytes.length)
      (fun _ t ↦ Turns env b .request chunk s t) (fun _ ↦ True) s := by
  have hsteady : ∀ {m : SessionM Unit}, IsSteady (.read .request) s m →
      wp m (fun _ t ↦ Turns env b .request chunk s t) (fun _ ↦ True) s := by
    intro m h
    exact wp_mono h (fun _ _ ↦ .inl) fun _ h ↦ h
  rw [onRequestRead]
  simp only [wp_bind, wp_get]
  rw [hb]
  split
  · exact hsteady (closeSession_steady _ s)
  · exact hsteady (post_steady _ s)
  · exact hsteady (post_steady _ s)
  · exact hsteady (post_steady _ s)
  · rename_i host port hparse
    simp only [wp_bind, wp_modifySelf, wp_log, implies_true, and_true]
    intro _
    refine wp_mono (doRouteDecision_routes _) ?_ fun _ h ↦ h
    rintro _ t ⟨hr, hhost, hport⟩
    refine .inr ⟨hr.after ⟨rfl, rfl, rfl, rfl, rfl, rfl, rfl, rfl, fun _ ↦ Iff.rfl⟩, ?_⟩
    rw [hhost, hport]
    exact .socks hparse

/-- **What a handler does to destinations, nodes and the list of the sessions.** -/
theorem dispatch_turns {q : Pending} {c : Completion} {m : SessionM Unit}
    (hm : dispatch env q c = some m) (s : Ctx) :
    wp m (fun _ t ↦ Steady q s t ∨ ∃ h chunk, q = .read h ∧ c = .received chunk ∧ Routes env s t ∧
      Asks env s.self.clientBuffer h chunk t.self.targetHost t.self.targetPort)
      (fun _ ↦ True) s := by
  have hturns : ∀ {h : ReadHandler} {chunk : Chunk} {t : Ctx},
      Turns env s.self.clientBuffer h chunk s t → Steady (.read h) s t ∨ ∃ h' chunk',
        Pending.read h = .read h' ∧ Completion.received chunk = .received chunk' ∧ Routes env s t ∧
        Asks env s.self.clientBuffer h' chunk' t.self.targetHost t.self.targetPort := by
    rintro h chunk t (ht | ⟨hr, hasks⟩)
    · exact .inl ht
    · exact .inr ⟨h, chunk, rfl, rfl, hr, hasks⟩
  have hnoted : ∀ bytes : ByteString, Noted s { s with self := { s.self with
      clientBuffer := s.self.clientBuffer.store bytes
      trace := s.self.trace ++ [.received .client bytes] } } :=
    fun _ ↦ ⟨rfl, decisions_concat rfl rfl, rfl, rfl, rfl, rfl, rfl, rfl, fun _ ↦ Iff.rfl⟩
  by_cases hq : q ≠ .read .handshake ∧ q ≠ .read .request
  · exact wp_mono (dispatch_steady hm hq s) (fun _ _ ↦ .inl) fun _ h ↦ h
  rcases c with chunk | _ | _ | _ | ⟨message, n⟩
  · by_cases hhandshake : q = .read .handshake
    · subst hhandshake
      obtain rfl := Option.some.inj hm
      simp only [receive, ReadHandler.side, wp_bind, wp_modifySelf, wp_call]
      refine wp_mono (onHandshakeRead_turns chunk _ rfl) ?_ fun _ h ↦ h
      exact fun _ t ht ↦ hturns (ht.after (hnoted _) rfl)
    · have hrequest : q = .read .request := by
        by_contra hne
        exact hq ⟨hhandshake, hne⟩
      subst hrequest
      obtain rfl := Option.some.inj hm
      simp only [receive, ReadHandler.side, wp_bind, wp_modifySelf, wp_call]
      refine wp_mono (onRequestRead_turns chunk _ rfl) ?_ fun _ h ↦ h
      exact fun _ t ht ↦ hturns (ht.after (hnoted _) rfl)
  -- nothing else completes a read but an error, which closes the session
  all_goals
    obtain ⟨h, rfl⟩ : ∃ h, q = .read h := by
      by_contra hne
      exact hq ⟨fun h ↦ hne ⟨_, h⟩, fun h ↦ hne ⟨_, h⟩⟩
  · cases hm
  · cases hm
  · cases hm
  · obtain rfl := Option.some.inj hm
    exact wp_mono (closeSession_steady _ s) (fun _ _ ↦ .inl) fun _ h ↦ h

/-- The greeting for v2ray carries the destination of the session. -/
theorem dispatch_greets {c : Completion} {m : SessionM Unit}
    (hm : dispatch env .connectV2rayn c = some m) (s : Ctx) :
    wp m (fun _ t ↦ ∀ data host port, .write data (.v2raynGreeting host port) ∈ t.self.pending →
      .write data (.v2raynGreeting host port) ∈ s.self.pending ∨
        host = s.self.targetHost ∧ port = s.self.targetPort) (fun _ ↦ True) s := by
  rcases c with _ | _ | _ | ⟨endpoint, localEndpoint⟩ | ⟨message, n⟩
  · cases hm
  · cases hm
  · cases hm
  · rw [dispatch] at hm
    split at hm
    · obtain rfl := Option.some.inj hm
      simp only [doSocks5ClientHandshake, wp_bind, wp_modifySelf, wp_get, wp_post]
      intro data host port hmem
      rcases List.mem_append.mp hmem with hmem | hmem
      · exact .inl hmem
      · simp only [List.mem_singleton, Pending.write.injEq,
          WriteHandler.v2raynGreeting.injEq] at hmem
        exact .inr hmem.2
    · cases hm
  · obtain rfl := Option.some.inj hm
    simp only [onV2raynConnectFailed, failWith, wp_bind, wp_log, wp_get, wp_ite, wp_post,
      implies_true, and_true]
    refine fun _ ↦ ⟨fun _ ↦ ?_, fun _ ↦ ?_⟩ <;>
    · intro data host port hmem
      rcases List.mem_append.mp hmem with hmem | hmem
      · exact .inl hmem
      · simp at hmem

/-! ## Starting -/

/-- `start` puts a session on the list or turns its client away; in any case it has no destination
and no node. -/
inductive Begins (s t : Ctx) : Prop
  | letIn (h : Unmoved (.read .handshake) s.self t.self) (hopen : t.self.isOpen = true)
    (hnodes : t.gateway.nodeCounts = s.gateway.nodeCounts)
    (hlists : ∀ id, t.gateway.registry.Lists id ↔
      id = s.self.sessionId.bytes ∨ s.gateway.registry.Lists id)
  | turnedAway (h : Closed (.read .handshake) s t)

theorem closeSession_begins (reason : Text) {s s₁ : Ctx} (hs : Quiet (.read .handshake) s s₁) :
    wp (closeSession env reason) (fun _ t ↦ Begins s t) (fun _ ↦ True) s₁ :=
  wp_mono (closeSession_closes reason s₁) (fun _ _ ht ↦ .turnedAway (ht.after hs)) fun _ h ↦ h

theorem onAdmission_begins (response : AdmitResponse) {s s₁ : Ctx}
    (hs : Quiet (.read .handshake) s s₁) (hopen : s.self.isOpen = true) :
    wp (onAdmission env response) (fun _ t ↦ Begins s t) (fun _ ↦ True) s₁ := by
  simp only [onAdmission, doHandshake, wp_bind, wp_get, wp_ite, wp_modifyGateway, wp_log,
    wp_modifySelf, wp_post, implies_true, and_true]
  constructor
  · intro _ _
    refine closeSession_begins _ (hs.trans ?_)
    exact .of_aim rfl rfl rfl rfl fun _ ↦ Iff.rfl
  · intro _
    have hregister : ∀ id, (s₁.gateway.registry.registerConnection env.now s₁.self.sessionId.bytes
        s₁.self.clientAddr.bytes []).Lists id ↔
          id = s.self.sessionId.bytes ∨ s.gateway.registry.Lists id := by
      intro id
      rw [ConnectionRegistry.lists_registerConnection, hs.lists, hs.unmoved.sessionId]
    refine ⟨fun _ _ _ ↦ ?_, fun _ _ ↦ ?_⟩ <;>
      exact .letIn (hs.unmoved.trans (.of_aim rfl rfl)) (hs.isOpen.trans hopen) hs.nodes hregister

theorem start_begins (a : Arrival) (g : Gateway) :
    wp (start env a.remote) (fun _ t ↦ Begins ⟨a.session, g⟩ t) (fun _ ↦ True) ⟨a.session, g⟩ := by
  rcases a.remote with _ | ep
  · trivial
  simp only [start, wp_bind, wp_modifySelf, wp_get, wp_ite, wp_log, wp_modifyGateway, implies_true,
    and_true]
  refine ⟨fun _ _ ↦ ?_, fun _ ↦ ⟨fun _ ↦ ?_, fun _ _ ↦ ?_⟩⟩
  · exact closeSession_begins _ (.of_aim rfl rfl rfl rfl fun _ ↦ Iff.rfl)
  · simp only [requestAdmission, wp_bind, wp_get, wp_modifyGateway, wp_call]
    refine onAdmission_begins _ (.of_aim rfl ?_ rfl rfl fun _ ↦ Iff.rfl) rfl
    exact decisions_concat rfl rfl
  · exact closeSession_begins _ (.of_aim rfl rfl rfl rfl fun _ ↦ Iff.rfl)

end Session

/-! ## Steps -/

namespace Session

/-- What becomes of destinations, nodes and the list of the sessions when the `k`-th operation `p`
of `s` ends with `c`. -/
structure Handles (env : Environment) (s : Session) (g : Gateway) (k : ℕ) (p : Pending)
    (c : Completion) (t : Ctx) : Prop where
  turns : Steady p ⟨{ s with pending := s.pending.eraseIdx k }, g⟩ t ∨
    ∃ r chunk, p = .read r ∧ c = .received chunk ∧
      Routes env ⟨{ s with pending := s.pending.eraseIdx k }, g⟩ t ∧
      Asks env s.clientBuffer r chunk t.self.targetHost t.self.targetPort
  greets : p = .connectV2rayn → ∀ data host port,
    .write data (.v2raynGreeting host port) ∈ t.self.pending →
      .write data (.v2raynGreeting host port) ∈ s.pending.eraseIdx k ∨
        host = s.targetHost ∧ port = s.targetPort

end Session

namespace World

/-- A step as `Moves` has it, with what becomes of destinations, nodes and the list of the
sessions. -/
inductive Advances (w : World) : Event → World → Prop
  | idle (e : Event) : Advances w e w
  | start (env : Environment) (a : Arrival) (t : Ctx) (h : Session.Started w.gateway.ledger t)
    (hbegins : Session.Begins ⟨a.session, w.gateway⟩ t) :
    Advances w (.start env a) ⟨t.gateway, w.sessions ++ [t.self]⟩
  | react (i k : ℕ) (c : Completion) (env : Environment) {s : Session} {p : Pending} (t : Ctx)
    (calls : List Call) (ops : List Pending) (hs : w.sessions[i]? = some s)
    (hp : s.pending[k]? = some p)
    (h : Session.Yields env (Reaction env s.clientBuffer s.username p c)
      ⟨s.resume k p c, w.gateway⟩ t
      calls ops)
    (hhandles : Session.Handles env s w.gateway k p c t) :
    Advances w (.complete i k c env) ⟨t.gateway, w.sessions.set i t.self⟩

theorem advances_of_step {w t : World} {e : Event} (h : w.step e = .ok t) : Advances w e t := by
  rcases step_cases h with rfl | ⟨env, a, c, rfl, hstart, rfl⟩ |
    ⟨i, k, completion, env, s, p, m, c, rfl, hs, hp, hm, hrun, rfl⟩
  · exact .idle e
  · have hstarted := wp_of_ok (Session.start_starts a w.gateway) hstart
    have hbegins := wp_of_ok (Session.start_begins a w.gateway) hstart
    exact .start env a c hstarted hbegins
  · obtain ⟨calls, ops, hy⟩ := wp_of_ok (Session.dispatch_reacts hm _) hrun
    have hturns := wp_of_ok (Session.dispatch_turns hm _) hrun
    refine .react i k completion env c calls ops hs hp hy ⟨hturns, ?_⟩
    rintro rfl
    exact wp_of_ok (Session.dispatch_greets hm _) hrun

/-- What holds of a session that begins, and is kept by its reactions, holds of all sessions of all
reachable states. -/
theorem advances_induction {I : Session → Prop} {w₀ w : World} (hw : Reachable step w₀ w)
    (h₀ : w₀.sessions = [])
    (hstart : ∀ l (a : Arrival) g t, Session.Started l t →
      Session.Begins ⟨a.session, g⟩ t → I t.self)
    (hreact : ∀ env s g t k p c calls ops, I s → s.pending[k]? = some p →
      Session.Yields env (Reaction env s.clientBuffer s.username p c)
        ⟨s.resume k p c, g⟩ t calls ops →
      Session.Handles env s g k p c t → I t.self) : ∀ s ∈ w.sessions, I s := by
  refine hw.induction (I := fun w ↦ ∀ s ∈ w.sessions, I s) ?_ fun w e t hI ht ↦ ?_
  · rw [h₀]
    exact fun s hs ↦ absurd hs List.not_mem_nil
  · rcases advances_of_step ht with e | ⟨env, a, t, h, hbegins⟩ |
      ⟨i, k, c, env, t, calls, ops, hs, hp, h, hhandles⟩
    · exact hI
    · intro s hmem
      rcases List.mem_append.mp hmem with hmem | hmem
      · exact hI s hmem
      · rw [List.mem_singleton.mp hmem]
        exact hstart _ a _ _ h hbegins
    · intro s hmem
      rcases List.mem_or_eq_of_mem_set hmem with hmem | rfl
      · exact hI s hmem
      · exact hreact _ _ _ _ _ _ _ _ _ (hI _ (List.mem_of_getElem? hs)) hp h hhandles

end World

end LanProxyGateway
