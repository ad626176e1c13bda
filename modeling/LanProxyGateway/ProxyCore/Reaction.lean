import LanProxyGateway.ProxyCore.Wire
import LanProxyGateway.ProxyCore.World

/-!
# What a session can do

A session seen from outside: an operation ends in some way, and the session reacts with calls, with
new operations, and perhaps under another user name. `Reaction` lists the reactions there are, each
with the operations it starts, and says nothing about buffers, texts and counters. `dispatch_reacts`
connects it with the handlers: whatever a handler does on a completion is a reaction to it. What
holds along all runs of a session is then a matter of the list.

Next to the reaction, `Settles` says what the handler did to the counters of the admitted sessions:
a handler that closes the session gives back what the session holds, and any other leaves them
alone.
-/

open Foundation ByteString

namespace LanProxyGateway

open LanProxy

/-! ## Reactions -/

/-- The two directions of the relay, and everything before it. -/
inductive Lane
  | handshake
  | up
  | down
  deriving DecidableEq, Repr

def Pending.lane : Pending → Lane
  | .read .relayClient | .write _ .relayRemote => .up
  | .read .relayRemote | .write _ .relayClient => .down
  | _ => .handshake

def Completion.isFailure : Completion → Prop
  | .failed _ _ => True
  | _ => False

/-- What a completion itself leaves in the trace. -/
def recorded : Pending → Completion → List Call
  | .read h, .received chunk => [.received h.side chunk.bytes]
  | .write data h, .written => [.sent h.side data]
  | .write data h, .failed _ transferred =>
    [.sent h.side (data.take transferred), .writeFailed h.side]
  | _, _ => []

theorem authenticate_not_mem_recorded (p : Pending) (c : Completion) (u pw : ByteString)
    (ok : Bool) :
    .authenticate u pw ok ∉ recorded p c := by
  rw [recorded.eq_def]
  split <;> simp

/-- `Presents env b h chunk u p ok`: the bytes that complete the read `h` into the buffer `b` hand
the name `u` and the password `p` to `authenticate`, which answers `ok`. -/
inductive Presents (env : Environment) (b : Buffer) :
    ReadHandler → Chunk → ByteString → ByteString → Bool → Prop
  | login {chunk : Chunk} {u p : ByteString} {ok : Bool}
    (hlogin : parseLogin (b.store chunk.bytes) chunk.bytes.length = .credentials u p)
    (hok : env.users.authenticate env.lib env.config env.time u p = .ok ok) :
    Presents env b .auth chunk u p ok
  | basic {chunk : Chunk} {u p host portStr : ByteString} {port : UInt16} {ok : Bool}
    (hhttp : isHttpConnect (b.store chunk.bytes) chunk.bytes.length = true)
    (hauthority : parseAuthority chunk.bytes = some (host, portStr))
    (hport : parsePort portStr = .ok port) (hcredentials : parseCredentials chunk.bytes = (u, p))
    (hne : ¬(u = [] ∧ p = []))
    (hok : env.users.authenticate env.lib env.config env.time u p = .ok ok) :
    Presents env b .handshake chunk u p ok

theorem Presents.decodes {env : Environment} {b : Buffer} {h : ReadHandler} {chunk : Chunk}
    {u p : ByteString} {ok : Bool} (hl : Presents env b h chunk u p ok) :
    Decodes chunk.bytes u p := by
  rcases hl with ⟨hlogin, -⟩ | ⟨-, -, -, hcredentials, hne, -⟩
  · exact decodes_of_parseLogin chunk.fits hlogin
  · exact decodes_of_parseCredentials hcredentials hne

/-- The steps from the choice of the route to the first operation on the way to the target. -/
inductive Routed (u : ByteString) : List Call → List Pending → Prop
  | direct (host : ByteString) (port : UInt16) :
    Routed u [.service u (.routeDecision host port), .service u .resolve] [.resolveDirect host]
  | proxy (host : ByteString) (port : UInt16) :
    Routed u [.service u (.routeDecision host port), .service u .selectNode,
      .service u .connectViaV2rayn] [.resolveV2rayn]

theorem Routed.eq_service {u : ByteString} {calls : List Call} {ops : List Pending}
    (h : Routed u calls ops) {x : Call} (hx : x ∈ calls) : ∃ y, x = .service u y := by
  rcases h with ⟨host, port⟩ | ⟨host, port⟩
  · rcases List.mem_pair.mp hx with rfl | rfl <;> exact ⟨_, rfl⟩
  · rcases List.mem_cons.mp hx with rfl | hx
    · exact ⟨_, rfl⟩
    · rcases List.mem_pair.mp hx with rfl | rfl <;> exact ⟨_, rfl⟩

theorem Routed.not_close {u : ByteString} {calls : List Call} {ops : List Pending}
    (h : Routed u calls ops) (reason : Text) : .close reason ∉ calls := by
  intro hmem
  obtain ⟨y, hy⟩ := h.eq_service hmem
  cases hy

theorem Routed.not_authenticate {u : ByteString} {calls : List Call} {ops : List Pending}
    (h : Routed u calls ops) (v pw : ByteString) (ok : Bool) : .authenticate v pw ok ∉ calls := by
  intro hmem
  obtain ⟨y, hy⟩ := h.eq_service hmem
  cases hy

/-- `Reaction env b u p c calls ops u'`: in `env`, a session with the name `u` and the bytes `b` in
the buffer of its client reacts to the completion `c` of `p` with the calls `calls`, starts the
operations `ops` and goes on under the name `u'`. -/
inductive Reaction (env : Environment) (b : Buffer) (u : ByteString) :
    Pending → Completion → List Call → List Pending → ByteString → Prop
  /-- The session is closed; in the relay only when something fails. -/
  | close {p : Pending} {c : Completion} (reason : Text) (h : p.lane = .handshake ∨ c.isFailure) :
    Reaction env b u p c [.close reason] [] u
  /-- An error reply, after which the session will be closed. -/
  | refuse {p : Pending} {c : Completion} (data : ByteString) (reason : Text)
    (h : p.lane = .handshake) : Reaction env b u p c [] [.write data (.closing reason)] u
  | greetingAgain {h : ReadHandler} (hh : h = .handshake ∨ h = .handshakeAgain) (chunk : Chunk) :
    Reaction env b u (.read h) (.received chunk) [] [.read .handshakeAgain] u
  | greeting {h : ReadHandler} (hh : h = .handshake ∨ h = .handshakeAgain) (chunk : Chunk)
    (data : ByteString) (supportAuth : Bool) :
    Reaction env b u (.read h) (.received chunk) [] [.write data (.methodReply supportAuth)] u
  /-- An HTTP login that fails: the session keeps the name it was tried with. -/
  | httpRefused (chunk : Chunk) (u' p data : ByteString) (reason : Text)
    (hl : Presents env b .handshake chunk u' p false) : Reaction env b u (.read .handshake)
      (.received chunk)
      [.authenticate u' p false] [.write data (.closing reason)] u'
  | httpAdmitted (chunk : Chunk) (u' p : ByteString)
    (hl : Presents env b .handshake chunk u' p true) {calls : List Call} {ops : List Pending}
      (hr : Routed u' calls ops) :
    Reaction env b u (.read .handshake) (.received chunk) (.authenticate u' p true :: calls) ops u'
  /-- The session waits for a login, the first time or after it has thrown away a second part. -/
  | awaitLogin {p : Pending} {c : Completion}
    (h : (∃ data, p = .write data (.methodReply true)) ∨ p = .read .authAgain) :
    Reaction env b u p c [] [.read .auth] u
  | loginAgain (chunk : Chunk) : Reaction env b u (.read .auth) (.received chunk) []
    [.read .authAgain] u
  | login (chunk : Chunk) (u' p data : ByteString) (ok : Bool)
    (hl : Presents env b .auth chunk u' p ok) :
    Reaction env b u (.read .auth) (.received chunk) [.authenticate u' p ok]
      [.write data (.authReply ok)] (if ok then u' else u)
  /-- The session waits for a request, the first time or after it has thrown away a second part. -/
  | awaitRequest {p : Pending} {c : Completion}
    (h : (∃ data, p = .write data (.authReply true)) ∨ p = .read .requestAgain) :
    Reaction env b u p c [] [.read .request] u
  | requestAgain (chunk : Chunk) :
    Reaction env b u (.read .request) (.received chunk) [] [.read .requestAgain] u
  | request (chunk : Chunk) {calls : List Call} {ops : List Pending} (hr : Routed u calls ops) :
    Reaction env b u (.read .request) (.received chunk) calls ops u
  /-- The reply to a greeting or to a login did not arrive: nothing more happens. -/
  | dropped {p : Pending} (h : (∃ data ok, p = .write data (.methodReply ok)) ∨
      ∃ data, p = .write data (.authReply true)) (message : Text) (n : ℕ) :
    Reaction env b u p (.failed message n) [] [] u
  | resolved (host : ByteString) (results : List Endpoint) :
    Reaction env b u (.resolveDirect host) (.resolved results) [.service u .connectDirect]
      [.connectDirect] u
  | connectedDirect (endpoint localEndpoint : Endpoint) (data : ByteString) (failure : Text) :
    Reaction env b u .connectDirect (.connected endpoint localEndpoint) []
      [.write data (.tunnelReply failure)] u
  | resolvedV2rayn (results : List Endpoint) :
    Reaction env b u .resolveV2rayn (.resolved results) [] [.connectV2rayn] u
  | connectedV2rayn (endpoint localEndpoint : Endpoint) (host : ByteString) (port : UInt16) :
    Reaction env b u .connectV2rayn (.connected endpoint localEndpoint) []
      [.write [socksVersion, 0x01, authNone] (.v2raynGreeting host port)] u
  | v2raynGreeted (data host : ByteString) (port : UInt16) :
    Reaction env b u (.write data (.v2raynGreeting host port)) .written []
      [.read (.v2raynGreeting host port)] u
  | v2raynMethod (chunk : Chunk) (host : ByteString) (port : UInt16) :
    Reaction env b u (.read (.v2raynGreeting host port)) (.received chunk) []
      [.write (Session.v2raynRequest host port) .v2raynConnect] u
  | v2raynRequested (data : ByteString) :
    Reaction env b u (.write data .v2raynConnect) .written [] [.read .v2raynConnect] u
  | v2raynConnected (chunk : Chunk) (data : ByteString) (failure : Text) :
    Reaction env b u (.read .v2raynConnect) (.received chunk) []
      [.write data (.tunnelReply failure)] u
  | stream (data : ByteString) (failure : Text) :
    Reaction env b u (.write data (.tunnelReply failure)) .written [.service u .stream]
      [.read .relayClient, .read .relayRemote] u
  | clientRead (chunk : Chunk) :
    Reaction env b u (.read .relayClient) (.received chunk) [] [.write chunk.bytes .relayRemote] u
  | remoteWritten (data : ByteString) :
    Reaction env b u (.write data .relayRemote) .written [] [.read .relayClient] u
  | remoteRead (chunk : Chunk) :
    Reaction env b u (.read .relayRemote) (.received chunk) [] [.write chunk.bytes .relayClient] u
  | clientWritten (data : ByteString) :
    Reaction env b u (.write data .relayClient) .written [] [.read .relayRemote] u

/-! ## The counters of the admitted sessions -/

/-- The three singletons that count the admitted sessions. -/
structure Ledger where
  overload : OverloadProtector
  active : Int
  admitter : ConnectionAdmitter

def Gateway.ledger (g : Gateway) : Ledger := ⟨g.overload, g.metrics.activeConnections, g.admitter⟩

/-- What `close_session` does to them for an admitted session. -/
def Ledger.giveBack (l : Ledger) (now : SteadyTime) (username : ByteString) : Ledger :=
  ⟨l.overload.decTotalConnections, decrementClamped l.active,
    (l.admitter.releaseConnection now username).2.2⟩

namespace Session

open SessionM

theorem ledger_release (env : Environment) (s : Session) (g : Gateway) :
    (s.release env g).ledger =
      if s.admitted then g.ledger.giveBack env.now s.username else g.ledger := by
  rw [release]
  by_cases hn : s.tunnelActive ∧ s.routeAction = .proxy ∧ s.selectedNodeTag.bytes ≠ []
  · by_cases ha : s.admitted
    · rw [if_pos ha, if_pos hn, if_pos ha, if_pos ha]
      rfl
    · rw [if_neg ha, if_pos hn, if_neg ha, if_neg ha]
      rfl
  · by_cases ha : s.admitted
    · rw [if_pos ha, if_neg hn, if_pos ha, if_pos ha]
      rfl
    · rw [if_neg ha, if_neg hn, if_neg ha, if_neg ha]
      rfl

theorem ledger_addTraffic (s : Session) (g : Gateway) : (s.addTraffic g).ledger = g.ledger := by
  rw [addTraffic]
  split <;> rfl

/-- What a handler did to the counters and to the sockets, from the calls it made. -/
inductive Settles (env : Environment) (calls : List Call) (s t : Ctx) : Prop
  | quiet (hcalls : ∀ reason, .close reason ∉ calls) (hopen : t.self.isOpen = s.self.isOpen)
    (hledger : t.gateway.ledger = s.gateway.ledger)
  | closed (reason : Text) (hcalls : calls = [.close reason]) (hopen : t.self.isOpen = false)
    (hledger : t.gateway.ledger = if s.self.admitted
      then s.gateway.ledger.giveBack env.now s.self.username else s.gateway.ledger)

/-- A handler that ran from `s` to `t` made calls and started operations as `R` allows. -/
structure Yields (env : Environment) (R : List Call → List Pending → ByteString → Prop)
    (s t : Ctx) (calls : List Call) (ops : List Pending) : Prop where
  allowed : R calls ops t.self.username
  trace : t.self.trace = s.self.trace ++ calls
  pending : t.self.pending = s.self.pending ++ ops
  admitted : t.self.admitted = s.self.admitted
  settles : Settles env calls s t

/-- Every run of the handler from `s` to its end is as `R` allows. -/
def Does (env : Environment) (R : List Call → List Pending → ByteString → Prop) (s : Ctx)
    (m : SessionM Unit) : Prop :=
  wp m (fun _ t ↦ ∃ calls ops, Yields env R s t calls ops) (fun _ ↦ True) s

variable {env : Environment} {b : Buffer}
  {R R' : List Call → List Pending → ByteString → Prop} {s : Ctx}

theorem Does.mono {m : SessionM Unit} (h : Does env R s m)
    (hR : ∀ calls ops u, R calls ops u → R' calls ops u) : Does env R' s m := by
  refine wp_mono h ?_ fun _ h ↦ h
  rintro _ t ⟨calls, ops, hy⟩
  exact ⟨calls, ops, hR _ _ _ hy.allowed, hy.trace, hy.pending, hy.admitted, hy.settles⟩

/-- What is left to show at the end of a handler that does not close the session. -/
theorem exists_yields_quiet {t : Ctx} (calls : List Call) (ops : List Pending)
    (hR : R calls ops t.self.username) (hcalls : ∀ reason, .close reason ∉ calls)
    (htrace : t.self.trace = s.self.trace ++ calls)
    (hpending : t.self.pending = s.self.pending ++ ops)
    (hadmitted : t.self.admitted = s.self.admitted) (hopen : t.self.isOpen = s.self.isOpen)
    (hledger : t.gateway.ledger = s.gateway.ledger) : ∃ calls ops, Yields env R s t calls ops :=
  ⟨calls, ops, hR, htrace, hpending, hadmitted, .quiet hcalls hopen hledger⟩

theorem closeSession_does (reason : Text) (hR : R [.close reason] [] s.self.username) :
    Does env R s (closeSession env reason) := by
  have hend : ∀ t : Ctx, t.self = { s.self with
      isOpen := false, trace := s.self.trace ++ [.close reason], tunnelActive := false } →
      t.gateway.ledger = (s.self.release env s.gateway).ledger →
      ∃ calls ops, Yields env R s t calls ops := by
    rintro t ht hledger
    rw [ledger_release] at hledger
    refine ⟨[.close reason], [], ?_, ?_, ?_, ?_, .closed reason rfl ?_ hledger⟩ <;> rw [ht]
    · exact hR
    · rw [List.append_nil]
  simp only [Does, closeSession, logClose, dumpStats, wp_bind, wp_modifySelf, wp_call, wp_get,
    wp_modifyGateway, wp_ite, wp_log, wp_pure, wp_throw, implies_true, and_true]
  refine ⟨fun _ _ ↦ hend _ rfl ?_, fun _ _ ↦ hend _ rfl rfl⟩
  rw [ledger_addTraffic]
  rfl

/-- Two states that differ in nothing a reaction tells, the user name apart. -/
structure Alike (s t : Ctx) : Prop where
  trace : t.self.trace = s.self.trace
  pending : t.self.pending = s.self.pending
  admitted : t.self.admitted = s.self.admitted
  isOpen : t.self.isOpen = s.self.isOpen
  ledger : t.gateway.ledger = s.gateway.ledger

/-- A handler that runs on after a silent step. -/
theorem Does.after {m : SessionM Unit} {s₁ : Ctx} (h : Does env R s₁ m) (hs : Alike s s₁)
    (husername : s₁.self.username = s.self.username) :
    wp m (fun _ t ↦ ∃ calls ops, Yields env R s t calls ops) (fun _ ↦ True) s₁ := by
  refine wp_mono h ?_ fun _ h ↦ h
  rintro _ t ⟨calls, ops, hy⟩
  refine ⟨calls, ops, hy.allowed, hs.trace ▸ hy.trace, hs.pending ▸ hy.pending,
    hs.admitted ▸ hy.admitted, ?_⟩
  rcases hy.settles with ⟨hcalls, hopen, hl⟩ | ⟨reason, hcalls, hopen, hl⟩
  · exact .quiet hcalls (hs.isOpen ▸ hopen) (hs.ledger ▸ hl)
  · exact .closed reason hcalls hopen (by rw [hl, hs.admitted, husername, hs.ledger])

/-- A handler that runs on after a call and does not close the session. -/
theorem Does.after_call {m : SessionM Unit} {s₁ s₂ : Ctx} {x : Call} (h : Does env R s₂ m)
    (hs : Alike s s₁) (h₂ : Alike { s₁ with self.trace := s₁.self.trace ++ [x] } s₂)
    (hR : ∀ calls ops u, R calls ops u →
      R' (x :: calls) ops u ∧ ∀ reason, .close reason ∉ x :: calls) :
    wp m (fun _ t ↦ ∃ calls ops, Yields env R' s t calls ops) (fun _ ↦ True) s₂ := by
  refine wp_mono h ?_ fun _ h ↦ h
  rintro _ t ⟨calls, ops, hy⟩
  obtain ⟨hR', hclose⟩ := hR _ _ _ hy.allowed
  refine ⟨x :: calls, ops, hR', ?_, ?_, ?_, ?_⟩
  · rw [hy.trace, h₂.trace, List.append_assoc, List.singleton_append, hs.trace]
  · rw [hy.pending, h₂.pending, hs.pending]
  · rw [hy.admitted, h₂.admitted, hs.admitted]
  rcases hy.settles with ⟨-, hopen, hl⟩ | ⟨reason, hcalls, -, -⟩
  · refine .quiet hclose ?_ ?_
    · rw [hopen, h₂.isOpen, hs.isOpen]
    · rw [hl, h₂.ledger, hs.ledger]
  · exact absurd (hcalls ▸ List.mem_cons_of_mem x (List.mem_singleton_self _)) (hclose reason)

/-! ## The route -/

theorem doRouteDecision_does (env : Environment) (s : Ctx) :
    Does env (fun calls ops u ↦ Routed u calls ops ∧ u = s.self.username) s
      (doRouteDecision env) := by
  rw [Does, doRouteDecision]
  simp only [wp_bind, wp_get, wp_serve]
  split
  · simp only [doResolve, wp_bind, wp_modifySelf, wp_log, wp_serve, wp_get, wp_post, implies_true,
      and_true]
    intro _
    refine exists_yields_quiet _ _ ⟨.direct s.self.targetHost s.self.targetPort, rfl⟩
      (by simp) ?_ rfl rfl rfl rfl
    simp
  · simp only [chooseNode, doConnectViaV2rayn, wp_bind, wp_modifySelf, wp_serve, wp_get]
    split <;>
    · simp only [wp_bind, wp_modifySelf, wp_modifyGateway, wp_log, wp_post, implies_true, and_true]
      intro _
      refine exists_yields_quiet _ _ ⟨.proxy s.self.targetHost s.self.targetPort, rfl⟩
        (by simp) ?_ rfl rfl rfl rfl
      simp

/-! ## The handlers of the handshake -/

theorem handleSocks5Handshake_does {h : ReadHandler} (hh : h = .handshake ∨ h = .handshakeAgain)
    (chunk : Chunk) (length : ℕ) (s : Ctx) :
    Does env (Reaction env b s.self.username (.read h) (.received chunk)) s
      (handleSocks5Handshake env length) := by
  have hlane : (Pending.read h).lane = .handshake := by
    rcases hh with rfl | rfl <;> rfl
  rw [Does, handleSocks5Handshake]
  simp only [wp_bind, wp_get]
  split
  · simp only [wp_bind, wp_log, implies_true, and_true]
    exact fun _ ↦ closeSession_does _ (.close _ (.inl hlane))
  · rw [wp_post]
    exact exists_yields_quiet _ _ (.greetingAgain hh chunk) (by simp) (by simp) rfl rfl rfl rfl
  · rw [wp_post]
    exact exists_yields_quiet _ _ (.greeting hh chunk _ _) (by simp) (by simp) rfl rfl rfl rfl
  · simp only [wp_bind, wp_log, wp_post, implies_true, and_true]
    exact fun _ ↦ exists_yields_quiet _ _ (.greeting hh chunk _ _) (by simp) (by simp) rfl rfl rfl
      rfl

theorem doHttpAuth_does (chunk : Chunk) {u : ByteString} {s s₁ : Ctx} (hs : Alike s s₁)
    (hl : ∀ ok, env.users.authenticate env.lib env.config env.time s₁.self.httpUsername
      s₁.self.httpPassword = .ok ok →
      Presents env b .handshake chunk s₁.self.httpUsername s₁.self.httpPassword ok)
    (hu : s₁.self.username = s₁.self.httpUsername) :
    wp (doHttpAuth env) (fun _ t ↦ ∃ calls ops,
      Yields env (Reaction env b u (.read .handshake) (.received chunk)) s t calls ops)
      (fun _ ↦ True) s₁ := by
  simp only [doHttpAuth, noteLogin, noteFailedLogin, wp_bind, wp_get, wp_ofExcept, wp_call,
    wp_ite, wp_log, wp_modifySelf, wp_modifyGateway, wp_post, implies_true, and_true,
    Bool.not_eq_true]
  intro authenticated hok
  have hpresents := hl authenticated hok
  rw [← hu] at hpresents ⊢
  refine ⟨?_, ?_⟩
  · rintro rfl -
    refine (doRouteDecision_does env _).after_call hs ⟨rfl, rfl, rfl, rfl, rfl⟩ ?_
    rintro calls ops _ ⟨hr, rfl⟩
    refine ⟨.httpAdmitted chunk _ _ hpresents hr, fun reason hmem ↦ ?_⟩
    rcases List.mem_cons.mp hmem with hmem | hmem
    · cases hmem
    · exact hr.not_close reason hmem
  · rintro rfl -
    refine exists_yields_quiet _
      [.write httpProxyAuthRequired (.closing (.lit "auth failed"))]
      (.httpRefused chunk _ _ _ _ hpresents) (by simp) ?_ ?_ hs.admitted hs.isOpen hs.ledger
    · rw [← hs.trace]
    · rw [← hs.pending]

theorem handleHttpConnect_does (chunk : Chunk) (s : Ctx)
    (hb : s.self.clientBuffer = b.store chunk.bytes)
    (hhttp : isHttpConnect (b.store chunk.bytes) chunk.bytes.length = true) :
    Does env (Reaction env b s.self.username (.read .handshake) (.received chunk)) s
      (handleHttpConnect env chunk.bytes.length) := by
  rw [Does, handleHttpConnect]
  simp only [wp_bind, wp_get]
  rw [hb, Buffer.read_store_self b chunk.fits]
  split
  · rw [wp_post]
    exact exists_yields_quiet _ _ (.refuse _ _ rfl) (by simp) (by simp) rfl rfl rfl rfl
  · rename_i host portStr hauthority
    simp only [wp_bind, wp_ofExcept, wp_modifySelf, wp_ite, wp_log, wp_post, implies_true, and_true]
    intro port hport
    refine ⟨fun _ _ ↦ ?_, fun hne _ ↦ ?_⟩
    · exact exists_yields_quiet _ _ (.refuse _ _ rfl) (by simp) (by simp) rfl rfl rfl rfl
    · refine doHttpAuth_does chunk ⟨rfl, rfl, rfl, rfl, rfl⟩ (fun ok hok ↦ ?_) rfl
      exact .basic hhttp hauthority hport rfl hne hok

theorem onHandshakeRead_does (chunk : Chunk) (s : Ctx)
    (hb : s.self.clientBuffer = b.store chunk.bytes) :
    Does env (Reaction env b s.self.username (.read .handshake) (.received chunk)) s
      (onHandshakeRead env chunk.bytes.length) := by
  rw [Does, onHandshakeRead]
  simp only [wp_bind, wp_get, wp_ite, wp_modifySelf]
  refine ⟨fun hhttp ↦ ?_, fun _ ↦ handleSocks5Handshake_does (.inl rfl) chunk _ s⟩
  refine (handleHttpConnect_does chunk _ ?_ ?_).after ⟨rfl, rfl, rfl, rfl, rfl⟩ rfl
  · exact hb
  · rwa [← hb]

theorem onAuthRead_does (chunk : Chunk) (s : Ctx)
    (hb : s.self.clientBuffer = b.store chunk.bytes) :
    Does env (Reaction env b s.self.username (.read .auth) (.received chunk)) s
      (onAuthRead env chunk.bytes.length) := by
  rw [Does, onAuthRead]
  simp only [wp_bind, wp_get]
  rw [hb]
  split
  · exact closeSession_does _ (.close _ (.inl rfl))
  · rw [wp_post]
    exact exists_yields_quiet _ _ (.loginAgain chunk) (by simp) (by simp) rfl rfl rfl rfl
  · rename_i u' p hlogin
    simp only [noteLogin, noteFailedLogin, wp_bind, wp_ofExcept, wp_call, wp_ite, wp_modifySelf,
      wp_get, wp_modifyGateway, wp_log, wp_post, implies_true, and_true, Bool.not_eq_true]
    intro authenticated hok
    have hl : Presents env b .auth chunk u' p authenticated := .login hlogin hok
    refine ⟨?_, ?_⟩
    · rintro rfl -
      exact exists_yields_quiet _ _ (.login chunk _ _ _ true hl) (by simp) rfl rfl rfl rfl rfl
    · rintro rfl -
      exact exists_yields_quiet _ _ (.login chunk _ _ _ false hl) (by simp) rfl rfl rfl rfl rfl

theorem onRequestRead_does (chunk : Chunk) (length : ℕ) (s : Ctx) :
    Does env (Reaction env b s.self.username (.read .request) (.received chunk)) s
      (onRequestRead env length) := by
  rw [Does, onRequestRead]
  simp only [wp_bind, wp_get]
  split
  · exact closeSession_does _ (.close _ (.inl rfl))
  · rw [wp_post]
    exact exists_yields_quiet _ _ (.refuse _ _ rfl) (by simp) (by simp) rfl rfl rfl rfl
  · rw [wp_post]
    exact exists_yields_quiet _ _ (.requestAgain chunk) (by simp) (by simp) rfl rfl rfl rfl
  · rw [wp_post]
    exact exists_yields_quiet _ _ (.refuse _ _ rfl) (by simp) (by simp) rfl rfl rfl rfl
  · simp only [wp_bind, wp_modifySelf, wp_log, implies_true, and_true]
    intro _
    refine ((doRouteDecision_does env _).mono ?_).after ⟨rfl, rfl, rfl, rfl, rfl⟩ rfl
    rintro calls ops _ ⟨hr, rfl⟩
    exact .request chunk hr

/-! ## The handlers behind the handshake -/

theorem replyEstablished_does (hR : ∀ data failure,
    R [] [.write data (.tunnelReply failure)] s.self.username) : Does env R s replyEstablished := by
  rw [Does, replyEstablished]
  simp only [wp_bind, wp_get, wp_ite, wp_post, wp_ofExcept, implies_true, and_true]
  refine ⟨fun _ ↦ ?_, fun _ boundBytes _ ↦ ?_⟩
  · exact exists_yields_quiet _ _ (hR _ _) (by simp) (by simp) rfl rfl rfl rfl
  · exact exists_yields_quiet _ _ (hR _ _) (by simp) (by simp) rfl rfl rfl rfl

theorem failWith_does (socksCode : UInt8) (reason : Text)
    (hR : ∀ data, R [] [.write data (.closing reason)] s.self.username) :
    Does env R s (failWith socksCode reason) := by
  rw [Does, failWith]
  simp only [wp_bind, wp_get, wp_ite, wp_post]
  refine ⟨fun _ ↦ ?_, fun _ ↦ ?_⟩
  · exact exists_yields_quiet _ _ (hR _) (by simp) (by simp) rfl rfl rfl rfl
  · exact exists_yields_quiet _ _ (hR _) (by simp) (by simp) rfl rfl rfl rfl

theorem onV2raynConnectRead_does (chunk : Chunk) (length : ℕ) (s : Ctx) :
    Does env (Reaction env b s.self.username (.read .v2raynConnect) (.received chunk)) s
      (onV2raynConnectRead env length) := by
  simp only [Does, onV2raynConnectRead, wp_bind, wp_get, wp_ite, wp_modifySelf, wp_modifyGateway,
    wp_log, implies_true, and_true]
  refine ⟨fun _ ↦ closeSession_does _ (.close _ (.inl rfl)), fun _ ↦ ⟨fun _ ↦ ?_, fun _ ↦ ?_⟩⟩
  · exact closeSession_does _ (.close _ (.inl rfl))
  · refine ⟨fun _ _ ↦ ?_, fun _ _ ↦ ?_⟩ <;>
      exact (replyEstablished_does fun data failure ↦ .v2raynConnected chunk data failure).after
        ⟨rfl, rfl, rfl, rfl, rfl⟩ rfl

theorem onRead_does (h : ReadHandler) (chunk : Chunk) (s : Ctx)
    (hclient : h.side = .client → s.self.clientBuffer = b.store chunk.bytes)
    (hremote : h.side = .remote → ∃ b : Buffer, s.self.remoteBuffer = b.store chunk.bytes) :
    Does env (Reaction env b s.self.username (.read h) (.received chunk)) s
      (onRead env chunk.bytes.length h) := by
  rcases h with _ | _ | _ | _ | _ | _ | ⟨host, port⟩ | _ | _ | _
  · exact onHandshakeRead_does chunk s (hclient rfl)
  · exact handleSocks5Handshake_does (.inr rfl) chunk _ s
  · exact onAuthRead_does chunk s (hclient rfl)
  · exact exists_yields_quiet _ _ (.awaitLogin (.inr rfl)) (by simp) (by simp) rfl rfl rfl rfl
  · exact onRequestRead_does chunk _ s
  · exact exists_yields_quiet _ _ (.awaitRequest (.inr rfl)) (by simp) (by simp) rfl rfl rfl rfl
  · simp only [Does, onRead, onV2raynGreetingRead, wp_bind, wp_get, wp_ite, wp_post]
    refine ⟨fun _ ↦ closeSession_does _ (.close _ (.inl rfl)), fun _ ↦ ⟨fun _ ↦ ?_, fun _ ↦ ?_⟩⟩
    · exact closeSession_does _ (.close _ (.inl rfl))
    · exact exists_yields_quiet _ _ (.v2raynMethod chunk host port) (by simp) (by simp) rfl rfl rfl
        rfl
  · exact onV2raynConnectRead_does chunk _ s
  · simp only [Does, onRead, onRelayClientRead, doWriteRemote, wp_bind, wp_modifySelf, wp_get,
      wp_modifyGateway, wp_post]
    rw [hclient rfl, Buffer.read_store_self b chunk.fits]
    exact exists_yields_quiet _ _ (.clientRead chunk) (by simp) (by simp) rfl rfl rfl rfl
  · obtain ⟨b, hb⟩ := hremote rfl
    simp only [Does, onRead, onRelayRemoteRead, doWriteClient, wp_bind, wp_modifySelf, wp_get,
      wp_modifyGateway, wp_post]
    rw [hb, Buffer.read_store_self b chunk.fits]
    exact exists_yields_quiet _ _ (.remoteRead chunk) (by simp) (by simp) rfl rfl rfl rfl

theorem onWritten_does (data : ByteString) (h : WriteHandler) (s : Ctx) :
    Does env (Reaction env b s.self.username (.write data h) .written) s (onWritten env h) := by
  rcases h with supportAuth | authenticated | reason | failure | ⟨host, port⟩ | _ | _ | _
  · rcases supportAuth
    · exact closeSession_does _ (.close _ (.inl rfl))
    · exact exists_yields_quiet _ _ (.awaitLogin (.inl ⟨data, rfl⟩)) (by simp) (by simp) rfl rfl rfl
        rfl
  · rcases authenticated
    · exact closeSession_does _ (.close _ (.inl rfl))
    · exact exists_yields_quiet _ _ (.awaitRequest (.inl ⟨data, rfl⟩)) (by simp) (by simp) rfl rfl
        rfl rfl
  · exact closeSession_does _ (.close _ (.inl rfl))
  · simp only [Does, onWritten, doStream, doReadClient, doReadRemote, wp_bind, wp_serve, wp_post]
    exact exists_yields_quiet _ _ (.stream data failure) (by simp) rfl (by simp) rfl rfl rfl
  · exact exists_yields_quiet _ _ (.v2raynGreeted data host port) (by simp)
      (by simp) rfl rfl rfl rfl
  · exact exists_yields_quiet _ _ (.v2raynRequested data) (by simp) (by simp) rfl rfl rfl rfl
  · exact exists_yields_quiet _ _ (.remoteWritten data) (by simp) (by simp) rfl rfl rfl rfl
  · exact exists_yields_quiet _ _ (.clientWritten data) (by simp) (by simp) rfl rfl rfl rfl

theorem onWriteFailed_does (data : ByteString) (h : WriteHandler) (message : Text) (n : ℕ)
    (s : Ctx) : Does env (Reaction env b s.self.username (.write data h) (.failed message n)) s
      (onWriteFailed env h) := by
  rcases h with supportAuth | authenticated | reason | failure | ⟨host, port⟩ | _ | _ | _
  · exact exists_yields_quiet _ _ (.dropped (.inl ⟨data, supportAuth, rfl⟩) message n) (by simp)
      (by simp) (by simp) rfl rfl rfl
  · rcases authenticated
    · exact closeSession_does _ (.close _ (.inl rfl))
    · exact exists_yields_quiet _ _ (.dropped (.inr ⟨data, rfl⟩) message n) (by simp) (by simp)
        (by simp) rfl rfl rfl
  all_goals exact closeSession_does _ (.close _ (.inr trivial))

/-! ## All completions -/

/-- **The handlers do what the list allows.** Whatever runs on a completion and comes to its end has
recorded the completion and reacted to it. -/
theorem dispatch_reacts {p : Pending} {c : Completion} {m : SessionM Unit}
    (hm : dispatch env p c = some m) (s : Ctx) :
    wp m (fun _ t ↦ ∃ calls ops, Yields env (Reaction env s.self.clientBuffer s.self.username p c)
      { s with self.trace := s.self.trace ++ recorded p c } t calls ops) (fun _ ↦ True) s := by
  have hquiet : ∀ {m : SessionM Unit}, recorded p c = [] →
      Does env (Reaction env s.self.clientBuffer s.self.username p c) s m →
      wp m (fun _ t ↦ ∃ calls ops, Yields env (Reaction env s.self.clientBuffer s.self.username p c)
        { s with self.trace := s.self.trace ++ recorded p c } t calls ops) (fun _ ↦ True) s := by
    intro m hnil h
    rw [hnil, List.append_nil]
    exact h
  unfold dispatch at hm
  split at hm
  · rename_i h chunk
    obtain rfl := Option.some.inj hm
    rcases hside : h.side with _ | _
    · simp only [receive, wp_bind, hside, wp_modifySelf, wp_call, recorded]
      refine (onRead_does h chunk _ (fun _ ↦ rfl) fun hr ↦ ?_).after
        ⟨rfl, rfl, rfl, rfl, rfl⟩ rfl
      rw [hside] at hr
      cases hr
    · simp only [receive, wp_bind, hside, wp_modifySelf, wp_call, recorded]
      refine (onRead_does h chunk _ (fun hc ↦ ?_) fun _ ↦ ⟨s.self.remoteBuffer, rfl⟩).after
        ⟨rfl, rfl, rfl, rfl, rfl⟩ rfl
      rw [hside] at hc
      cases hc
  · obtain rfl := Option.some.inj hm
    exact hquiet rfl (closeSession_does _ (.close _ (.inr trivial)))
  · rename_i data h
    obtain rfl := Option.some.inj hm
    exact (onWritten_does data h _).after ⟨rfl, rfl, rfl, rfl, rfl⟩ rfl
  · rename_i data h message n
    obtain rfl := Option.some.inj hm
    refine (onWriteFailed_does data h message n _).after ⟨?_, rfl, rfl, rfl, rfl⟩ rfl
    exact List.append_assoc _ _ _
  · rename_i host results
    obtain rfl := Option.some.inj hm
    refine hquiet rfl ?_
    rcases results with _ | ⟨ep, results⟩ <;>
    · simp only [Does, onResolved, doConnectDirect, wp_bind, wp_modifySelf, wp_serve, wp_post]
      exact exists_yields_quiet _ _ (.resolved host _) (by simp) rfl rfl rfl rfl rfl
  · obtain rfl := Option.some.inj hm
    refine hquiet rfl ?_
    simp only [Does, onResolveFailed, wp_bind, wp_log, implies_true, and_true]
    exact fun _ ↦ failWith_does _ _ fun data ↦ .refuse data _ rfl
  · rename_i endpoint localEndpoint
    split at hm
    · obtain rfl := Option.some.inj hm
      refine hquiet rfl ?_
      simp only [Does, onDirectConnected, wp_bind, wp_modifySelf, wp_get, wp_modifyGateway, wp_log,
        implies_true, and_true]
      intro _
      refine (replyEstablished_does fun data failure ↦ ?_).after ⟨rfl, rfl, rfl, rfl, rfl⟩ rfl
      exact .connectedDirect endpoint localEndpoint data failure
    · cases hm
  · obtain rfl := Option.some.inj hm
    refine hquiet rfl ?_
    simp only [Does, onDirectConnectFailed, wp_bind, wp_get, wp_log, implies_true, and_true]
    exact fun _ ↦ failWith_does _ _ fun data ↦ .refuse data _ rfl
  · obtain rfl := Option.some.inj hm
    exact hquiet rfl (exists_yields_quiet _ _ (.resolvedV2rayn _) (by simp) (by simp) rfl rfl rfl
      rfl)
  · obtain rfl := Option.some.inj hm
    exact hquiet rfl (closeSession_does _ (.close _ (.inl rfl)))
  · rename_i endpoint localEndpoint
    split at hm
    · obtain rfl := Option.some.inj hm
      refine hquiet rfl ?_
      simp only [Does, doSocks5ClientHandshake, wp_bind, wp_modifySelf, wp_get, wp_post]
      exact exists_yields_quiet _ _ (.connectedV2rayn endpoint localEndpoint _ _) (by simp)
        (by simp) rfl rfl rfl rfl
    · cases hm
  · obtain rfl := Option.some.inj hm
    refine hquiet rfl ?_
    simp only [Does, onV2raynConnectFailed, wp_bind, wp_log, implies_true, and_true]
    exact fun _ ↦ failWith_does _ _ fun data ↦ .refuse data _ rfl
  · cases hm

/-! ## Starting -/

/-- `Answers a q result b`: asked for `q`, the admitter answers `result` and is `b` from then on. -/
inductive Answers (a : ConnectionAdmitter) (q : QueuedConnection) :
    AdmitResult → ConnectionAdmitter → Prop
  | rejects {result : AdmitResult} (h : isRejection result = true)
    (hlimit : result = .rejectedUser → a.userLimitReached q.username = true) : Answers a q result a
  | accepts (hlimit : a.userLimitReached q.username = false)
    (hroom : a.activeConnections < a.maxConnections) : Answers a q .accepted (a.takeSlot q.username)
  | queues (hlimit : a.userLimitReached q.username = false)
    (hfull : a.maxConnections ≤ a.activeConnections) (henabled : a.queueEnabled = true)
    (hspace : a.queue.length < a.maxQueueSize) : Answers a q .queued (a.enqueue q)

theorem answers_requestSlot (a : ConnectionAdmitter) (q : QueuedConnection) :
    Answers a q (a.requestSlot q).1.result (a.requestSlot q).2 := by
  rw [ConnectionAdmitter.requestSlot]
  rcases hu : a.userLimitReached q.username with _ | _
  · rw [if_neg Bool.false_ne_true]
    by_cases hmax : a.maxConnections ≤ a.activeConnections
    · rw [if_pos hmax]
      rcases henabled : a.queueEnabled with _ | _
      · exact .rejects rfl nofun
      · rw [Bool.not_true, if_neg Bool.false_ne_true]
        by_cases hspace : a.maxQueueSize ≤ a.queue.length
        · rw [if_pos hspace]
          exact .rejects rfl nofun
        · rw [if_neg hspace]
          exact .queues hu hmax henabled (not_le.mp hspace)
    · rw [if_neg hmax]
      exact .accepts hu (not_le.mp hmax)
  · rw [if_pos rfl]
    exact .rejects rfl fun _ ↦ hu

theorem answers_requestAdmit (a : ConnectionAdmitter) (limiter : RateLimiter) (overloaded : Bool)
    (q : QueuedConnection) : Answers a q (a.requestAdmit limiter overloaded q).1.result
      (a.requestAdmit limiter overloaded q).2.1 := by
  rw [ConnectionAdmitter.requestAdmit]
  rcases limiter.checkConnectionRate q.enqueueTime q.clientIp with ⟨ok, limiter⟩
  simp only
  split
  · exact .rejects rfl nofun
  · split
    · exact .rejects rfl nofun
    · split
      · exact .rejects rfl nofun
      · exact answers_requestSlot a q

/-- A session that `start` has turned away after `calls`. -/
structure TurnedAway (t : Ctx) (calls : List Call) : Prop where
  trace : ∃ reason, t.self.trace = calls ++ [.close reason]
  pending : t.self.pending = []
  isOpen : t.self.isOpen = false
  admitted : t.self.admitted = false
  username : t.self.username = []

/-- A session that `start` has let in. -/
structure LetIn (t : Ctx) (result : AdmitResult) : Prop where
  trace : t.self.trace = [.requestAdmit result]
  pending : t.self.pending = [.read .handshake]
  isOpen : t.self.isOpen = true
  admitted : t.self.admitted = true
  username : t.self.username = []

/-- What `start` can come to, with the counters before it: the client is turned away before the
admitter has been asked, the admitter turns it away, or it is let in, with a slot or with a place in
the queue. -/
inductive Started (l : Ledger) (t : Ctx) : Prop
  | unasked (ht : TurnedAway t []) (hledger : t.gateway.ledger = l)
  | rejected (result : AdmitResult) (ht : TurnedAway t [.requestAdmit result])
    (hlimit : result = .rejectedUser → l.admitter.userLimitReached [] = true)
    (hledger : t.gateway.ledger =
      { l with overload := l.overload.incTotalConnections.decTotalConnections })
  | accepted (ht : LetIn t .accepted) (hlimit : l.admitter.userLimitReached [] = false)
    (hroom : l.admitter.activeConnections < l.admitter.maxConnections)
    (hledger : t.gateway.ledger =
      ⟨l.overload.incTotalConnections, l.active + 1, l.admitter.takeSlot []⟩)
  | queued (q : QueuedConnection) (hq : q.username = []) (ht : LetIn t .queued)
    (hlimit : l.admitter.userLimitReached [] = false)
    (hfull : l.admitter.maxConnections ≤ l.admitter.activeConnections)
    (henabled : l.admitter.queueEnabled = true)
    (hspace : l.admitter.queue.length < l.admitter.maxQueueSize)
    (hledger : t.gateway.ledger =
      ⟨l.overload.incTotalConnections, l.active + 1, l.admitter.enqueue q⟩)

theorem closeSession_turnsAway (reason : Text) {s : Ctx} (hpending : s.self.pending = [])
    (hadmitted : s.self.admitted = false) (husername : s.self.username = []) :
    wp (closeSession env reason) (fun _ t ↦ TurnedAway t s.self.trace ∧
      t.gateway.ledger = s.gateway.ledger) (fun _ ↦ True) s := by
  have hdoes : Does env (fun calls ops u ↦ calls = [.close reason] ∧ ops = [] ∧ u = []) s
    (closeSession env reason) := closeSession_does reason ⟨rfl, rfl, husername⟩
  refine wp_mono hdoes ?_ fun _ h ↦ h
  rintro _ t ⟨calls, ops, ⟨rfl, rfl, hu⟩, htrace, hpend, hadm, hs⟩
  rcases hs with ⟨hcalls, -, -⟩ | ⟨reason', -, hopen, hledger⟩
  · exact absurd (List.mem_singleton_self _) (hcalls reason)
  · rw [hadmitted, if_neg Bool.false_ne_true] at hledger
    refine ⟨⟨⟨reason, htrace⟩, ?_, hopen, hadm.trans hadmitted, hu⟩, hledger⟩
    rw [hpend, hpending, List.nil_append]

/-- A let-in session registers, counts itself and waits for the first bytes. -/
theorem letIn_of_onAdmission (response : AdmitResponse) {s : Ctx}
    (hr : isRejection response.result = false)
    (htrace : s.self.trace = [.requestAdmit response.result]) (hpending : s.self.pending = [])
    (hopen : s.self.isOpen = true) (husername : s.self.username = []) :
    wp (onAdmission env response) (fun _ t ↦ LetIn t response.result ∧ t.gateway.ledger =
      { s.gateway.ledger with active := s.gateway.ledger.active + 1 }) (fun _ ↦ True) s := by
  simp only [onAdmission, doHandshake, hr, wp_bind, wp_get, wp_ite, wp_log, wp_modifySelf,
    wp_modifyGateway, wp_post, implies_true, and_true, Bool.false_eq_true, false_imp_iff, true_and,
    not_false_eq_true, forall_const]
  have hpost : s.self.pending ++ [.read .handshake] = [.read .handshake] := by
    rw [hpending, List.nil_append]
  exact ⟨fun _ _ _ ↦ ⟨⟨htrace, hpost, hopen, rfl, husername⟩, rfl⟩,
    fun _ _ ↦ ⟨⟨htrace, hpost, hopen, rfl, husername⟩, rfl⟩⟩

theorem onAdmission_starts {l : Ledger} {q : QueuedConnection} {b : ConnectionAdmitter}
    {response : AdmitResponse} (hans : Answers l.admitter q response.result b)
      (hq : q.username = [])
    {s : Ctx} (htrace : s.self.trace = [.requestAdmit response.result])
    (hpending : s.self.pending = []) (hopen : s.self.isOpen = true)
    (hadmitted : s.self.admitted = false) (husername : s.self.username = [])
    (hledger : s.gateway.ledger = ⟨l.overload.incTotalConnections, l.active, b⟩) :
    wp (onAdmission env response) (fun _ t ↦ Started l t) (fun _ ↦ True) s := by
  rcases hr : isRejection response.result with _ | _
  · refine wp_mono (letIn_of_onAdmission response hr htrace hpending hopen husername) ?_
      fun _ h ↦ h
    rintro _ t ⟨ht, hl⟩
    rw [hledger] at hl
    generalize response.result = result at hans hr ht
    rcases hans with ⟨h, -⟩ | ⟨hlimit, hroom⟩ | ⟨hlimit, hfull, henabled, hspace⟩
    · rw [h] at hr
      cases hr
    · rw [hq] at hlimit hl
      exact .accepted ht hlimit hroom hl
    · rw [hq] at hlimit
      exact .queued q hq ht hlimit hfull henabled hspace hl
  · simp only [onAdmission, hr, wp_bind, wp_get, wp_ite, wp_log, wp_modifyGateway, implies_true,
      and_true, not_true_eq_false, false_imp_iff, forall_const]
    intro _
    refine wp_mono (closeSession_turnsAway response.reason hpending hadmitted husername) ?_
      fun _ h ↦ h
    rintro _ t ⟨ht, hl⟩
    rw [htrace] at ht
    generalize response.result = result at hans hr ht
    rcases hans with ⟨-, hlimit⟩ | - | -
    · rw [hq] at hlimit
      refine .rejected result ht hlimit (hl.trans ?_)
      exact congrArg (fun l : Ledger ↦ { l with overload := l.overload.decTotalConnections })
        hledger
    · cases hr
    · cases hr

theorem requestAdmission_starts (ip : AsciiText) {s : Ctx} (htrace : s.self.trace = [])
    (hpending : s.self.pending = []) (hopen : s.self.isOpen = true)
    (hadmitted : s.self.admitted = false) (husername : s.self.username = []) :
    wp (requestAdmission env ip) (fun _ t ↦ Started s.gateway.ledger t) (fun _ ↦ True) s := by
  simp only [requestAdmission, wp_bind, wp_get, wp_modifyGateway, wp_call]
  have hans := answers_requestAdmit s.gateway.admitter s.gateway.limiter
    (s.gateway.overload.incTotalConnections.isOverloaded env.usage) (admitRequest env s.self ip)
  refine onAdmission_starts hans rfl ?_ hpending hopen hadmitted husername rfl
  rw [htrace, List.nil_append]

/-- **What `start` can come to.** -/
theorem start_starts (a : Arrival) (g : Gateway) :
    wp (start env a.remote) (fun _ t ↦ Started g.ledger t) (fun _ ↦ True) ⟨a.session, g⟩ := by
  rcases a.remote with _ | ep
  · trivial
  simp only [start, wp_bind, wp_modifySelf, wp_get, wp_ite, wp_log, wp_modifyGateway, implies_true,
    and_true]
  refine ⟨fun _ _ ↦ ?_, fun _ ↦ ⟨fun _ ↦ ?_, fun _ _ ↦ ?_⟩⟩
  · refine wp_mono (closeSession_turnsAway _ rfl rfl rfl) ?_ fun _ h ↦ h
    exact fun _ t ht ↦ .unasked ht.1 ht.2
  · exact requestAdmission_starts _ rfl rfl rfl rfl rfl
  · refine wp_mono (closeSession_turnsAway _ rfl rfl rfl) ?_ fun _ h ↦ h
    exact fun _ t ht ↦ .unasked ht.1 ht.2

end Session

end LanProxyGateway
