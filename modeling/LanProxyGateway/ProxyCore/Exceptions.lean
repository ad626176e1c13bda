import LanProxyGateway.ProxyCore.Lifecycle

/-!
# Which inputs take the gateway down?

An exception that leaves a completion handler leaves the worker thread, and with it the process.
Four things in the handlers throw: `std::stoi` on a port or on the iteration count of a stored
password hash, the conversion of a local IPv6 address for the SOCKS5 reply, a log line that is not
UTF-8, and `remote_endpoint` of a client that is gone already.

`Harmless` is the condition on one completion, in terms of the bytes received and of the parsers,
and it is exact: the run of a handler comes to its end exactly when its completion is harmless, so a
run of the proxy comes to its end exactly when all its steps are (`run_isOk_iff`). The invariant
behind it, `Sound`, is that a host or a name that has once been logged is UTF-8, so that later lines
with it are.
-/

open Foundation ByteString

namespace LanProxyGateway

/-! ## Lines that are UTF-8 -/

namespace Session

open SessionM

theorem utf8_hostPortText_iff (host : ByteString) (port : UInt16) :
    Utf8 (hostPortText host port) ↔ Utf8 host := by
  have hcolon : Ascii (ofString ":") := by decide
  rw [hostPortText, utf8_between_iff hcolon (by decide)]
  exact and_iff_left (portText port).utf8

/-- A line made of a fixed part and a host with its port. -/
theorem utf8_target_iff {line : ByteString} (hline : Ascii line) (host : ByteString)
    (port : UInt16) : Utf8 (line ++ hostPortText host port) ↔ Utf8 host := by
  rw [utf8_ascii_append_iff hline, utf8_hostPortText_iff]

/-- The same with a name at the end. -/
theorem utf8_target_user_iff {line : ByteString} (hline : Ascii line) (host : ByteString)
    (port : UInt16) (user : ByteString) :
    Utf8 (line ++ hostPortText host port ++ ofString " user=" ++ user) ↔
      Utf8 host ∧ Utf8 user := by
  have huser : Ascii (ofString " user=") := by decide
  rw [utf8_between_iff huser (by decide), utf8_target_iff hline]

/-! ## The invariant -/

end Session

/-- An operation that will not make its handler throw: the host in it has been logged, and the local
address for the reply at the end of a handshake with v2ray is an IPv4 address. -/
def Pending.Sound (localEndpoint : Endpoint) : Pending → Prop
  | .resolveDirect host => Utf8 host
  | .write _ (.v2raynGreeting _ _) | .read (.v2raynGreeting _ _) | .write _ .v2raynConnect
  | .read .v2raynConnect => localEndpoint.address.isV4 = true
  | _ => True

namespace Session

open SessionM

structure Sound (s : Session) : Prop where
  host : Utf8 s.targetHost
  username : Utf8 s.username
  pending : ∀ p ∈ s.pending, p.Sound s.localEndpoint

theorem Sound.same {s t : Session} (hs : s.Sound) (hhost : t.targetHost = s.targetHost)
    (husername : t.username = s.username) (hlocal : t.localEndpoint = s.localEndpoint)
    (hpending : t.pending = s.pending) : t.Sound :=
  ⟨hhost ▸ hs.host, husername ▸ hs.username, hpending ▸ hlocal ▸ hs.pending⟩

/-- A session that starts sound operations and keeps the rest. -/
theorem Sound.post {s t : Session} (hs : s.Sound) (hhost : t.targetHost = s.targetHost)
    (husername : t.username = s.username) (hlocal : t.localEndpoint = s.localEndpoint)
    (ops : List Pending) (hpending : t.pending = s.pending ++ ops)
    (hops : ∀ p ∈ ops, p.Sound s.localEndpoint) : t.Sound where
  host := hhost ▸ hs.host
  username := husername ▸ hs.username
  pending := by
    rw [hpending, hlocal]
    exact List.forall_mem_append.mpr ⟨hs.pending, hops⟩

/-- The program comes to its end and leaves a sound session. -/
def Completes (s : Ctx) (m : SessionM Unit) : Prop :=
  wp m (fun _ t ↦ t.self.Sound) (fun _ ↦ False) s

variable {env : Environment} {s : Ctx}

/-- A line that is UTF-8 is written. -/
theorem wp_log_of_utf8 {msg : ByteString} (h : Utf8 msg) (Q : Unit → Ctx → Prop)
    (E : CxxException → Prop) : wp (log msg) Q E s ↔ Q () s := by
  rw [log, if_pos h, wp_pure]

theorem completes_post (hs : s.self.Sound) {p : Pending} (hp : p.Sound s.self.localEndpoint) :
    Completes s (post p) :=
  hs.post rfl rfl rfl [p] rfl fun _ hq ↦ List.mem_singleton.mp hq ▸ hp

theorem completes_closeSession (hs : s.self.Sound) (reason : Text) :
    Completes s (closeSession env reason) := by
  have hstats : ∀ x ∈ s.self.closeStats reason, Utf8 x := by
    have htarget := (utf8_hostPortText_iff s.self.targetHost s.self.targetPort).mpr hs.host
    rw [closeStats]
    simp only [List.forall_mem_cons, List.not_mem_nil, false_imp_iff, implies_true, and_true]
    refine ⟨s.self.sessionId.utf8, s.self.clientAddr.utf8, hs.username, htarget, ?_, reason.utf8⟩
    split
    · exact utf8_ofString "direct"
    · exact utf8_ofString "proxy"
  have hline : Utf8 (ofString "Close: " ++ s.self.clientAddr.bytes ++ ofString " reason="
      ++ reason.bytes) :=
    (((utf8_ofString "Close: ").append s.self.clientAddr.utf8).append
      (utf8_ofString " reason=")).append reason.utf8
  rw [Completes, closeSession]
  simp only [wp_bind, wp_modifySelf, wp_call, wp_get, wp_modifyGateway, logClose, dumpStats, wp_ite,
    wp_pure, wp_throw]
  refine ⟨fun _ ↦ ⟨fun _ ↦ hs.same rfl rfl rfl rfl, fun h ↦ h hstats⟩, fun _ ↦ ?_⟩
  rw [wp_log_of_utf8 hline]
  exact hs.same rfl rfl rfl rfl

/-- The program comes to its end, with a sound session, exactly when `H`. -/
def Decides (H : Prop) (s : Ctx) (m : SessionM Unit) : Prop :=
  wp m (fun _ t ↦ H ∧ t.self.Sound) (fun _ ↦ ¬H) s

theorem Completes.decides {m : SessionM Unit} {H : Prop} (h : Completes s m) (hH : H) :
    Decides H s m :=
  wp_mono h (fun _ _ ht ↦ ⟨hH, ht⟩) fun _ hE ↦ hE.elim

/-! ## The route -/

theorem completes_doRouteDecision (hs : s.self.Sound) : Completes s (doRouteDecision env) := by
  obtain ⟨hrule, hmatch⟩ := env.router.isText_decide env.isChina hs.host s.self.resolvedIp
  have hdirect := (((((utf8_ofString "Route: DIRECT ").append hs.host).append
    (utf8_ofString " match=")).append hmatch).append
    (utf8_ofString " rule=")).append hrule
  rw [Completes, doRouteDecision]
  simp only [wp_bind, wp_get, wp_serve]
  split
  · simp only [doResolve, wp_bind, wp_modifySelf, wp_serve, wp_get, wp_post]
    rw [wp_log_of_utf8 hdirect]
    exact hs.post rfl rfl rfl _ rfl fun p hp ↦ List.mem_singleton.mp hp ▸ hs.host
  · simp only [chooseNode, doConnectViaV2rayn, wp_bind, wp_modifySelf, wp_serve, wp_get]
    rcases env.selectNode _ with _ | sched
    · have hroute := utf8_ofString "Route: PROXY(v2rayN) no available node for "
      have hnone := ((hroute.append hs.host).append
        (utf8_ofString " match=")).append hmatch
      simp only [wp_post]
      rw [wp_log_of_utf8 hnone]
      exact hs.post rfl rfl rfl _ rfl fun p hp ↦ List.mem_singleton.mp hp ▸ trivial
    · have haffinity := utf8_of_ascii (ascii_toDecimal sched.fromAffinity.toNat)
      have hroute := utf8_ofString "Route: PROXY(v2rayN) "
      have hsome := ((((((((((hroute.append hs.host).append
        (utf8_ofString " node=")).append sched.nodeTag.utf8).append
        (utf8_ofString " strategy=")).append sched.strategyUsed.utf8).append
        (utf8_ofString " affinity=")).append haffinity).append
        (utf8_ofString " match=")).append hmatch).append
        (utf8_ofString " rule=")).append hrule
      simp only [wp_bind, wp_modifySelf, wp_modifyGateway, wp_post]
      rw [wp_log_of_utf8 hsome]
      exact hs.post rfl rfl rfl _ rfl fun p hp ↦ List.mem_singleton.mp hp ▸ trivial

/-! ## Logins -/

end Session

/-- The stored hash that decides about a name, if there is one, can be read. -/
def Environment.HashReadable (env : Environment) (u : ByteString) : Prop :=
  ∀ h, env.users.hashFor env.config env.time u = some h → ¬PasswordHasher.hasBadIterations h

theorem authenticate_isOk_iff (env : Environment) (u p : ByteString) :
    (∃ ok, env.users.authenticate env.lib env.config env.time u p = .ok ok) ↔
      env.HashReadable u := by
  rw [UserManager.authenticate, Environment.HashReadable]
  rcases env.users.hashFor env.config env.time u with _ | h
  · refine ⟨fun _ h hh ↦ ?_, fun _ ↦ ⟨false, rfl⟩⟩
    cases hh
  · rw [PasswordHasher.verify_isOk_iff]
    exact ⟨fun hb h' hh ↦ Option.some.inj hh ▸ hb, fun hb ↦ hb h rfl⟩

namespace Session

open SessionM

variable {env : Environment} {s : Ctx}

theorem doHttpAuth_decides (hs : s.self.Sound) (hu : s.self.username = s.self.httpUsername) :
    Decides (env.HashReadable s.self.httpUsername) s (doHttpAuth env) := by
  have hname : Utf8 s.self.httpUsername := hu ▸ hs.username
  have hsuccess := (utf8_ofString "HTTP auth success user=").append hname
  have hfailure := (utf8_ofString "HTTP auth failed user=").append hname
  rw [Decides, doHttpAuth]
  simp only [noteLogin, noteFailedLogin, wp_bind, wp_get, wp_ofExcept, wp_call, wp_ite,
    wp_modifySelf, wp_modifyGateway, wp_post]
  refine ⟨fun ok hok ↦ ?_, fun e he ↦ ?_⟩
  · have hreadable := (authenticate_isOk_iff env _ s.self.httpPassword).mp ⟨ok, hok⟩
    constructor
    · rintro rfl
      rw [wp_log_of_utf8 hsuccess]
      refine Completes.decides (completes_doRouteDecision ?_) hreadable
      exact hs.same rfl rfl rfl rfl
    · intro _
      rw [wp_log_of_utf8 hfailure]
      exact ⟨hreadable, hs.post rfl rfl rfl _ rfl fun p hp ↦ List.mem_singleton.mp hp ▸ trivial⟩
  · rw [← authenticate_isOk_iff env _ s.self.httpPassword, he]
    rintro ⟨ok, hok⟩
    cases hok

theorem parsePort_isOk_iff (portStr : ByteString) :
    (∃ port, parsePort portStr = .ok port) ↔ BeginsWithInt portStr := by
  rw [← stoi_isOk_iff, parsePort]
  rcases stoi portStr with e | n
  · constructor <;> rintro ⟨_, h⟩ <;> cases h
  · exact ⟨fun _ ↦ ⟨n, rfl⟩, fun _ ↦ ⟨_, rfl⟩⟩

/-- The head of an HTTP CONNECT that the handler can take: if it has an authority, the port begins
with a number and the host is UTF-8, and if it has credentials, the name is UTF-8 and its hash can
be read. -/
def HarmlessHead (env : Environment) (head : ByteString) : Prop :=
  ∀ host portStr, parseAuthority head = some (host, portStr) →
    BeginsWithInt portStr ∧ Utf8 host ∧
      (¬((parseCredentials head).1 = [] ∧ (parseCredentials head).2 = []) →
        Utf8 (parseCredentials head).1 ∧ env.HashReadable (parseCredentials head).1)

theorem handleHttpConnect_decides (hs : s.self.Sound) {b : Buffer} {chunk : Chunk}
    (hb : s.self.clientBuffer = b.store chunk.bytes) :
    Decides (HarmlessHead env chunk.bytes) s (handleHttpConnect env chunk.bytes.length) := by
  rw [Decides, handleHttpConnect]
  simp only [wp_bind, wp_get]
  rw [hb, Buffer.read_store_self b chunk.fits]
  rcases hauthority : parseAuthority chunk.bytes with _ | ⟨host, portStr⟩
  · refine Completes.decides (completes_post hs trivial) fun host portStr h ↦ ?_
    rw [hauthority] at h
    cases h
  have hiff : HarmlessHead env chunk.bytes ↔ BeginsWithInt portStr ∧ Utf8 host ∧
      (¬((parseCredentials chunk.bytes).1 = [] ∧ (parseCredentials chunk.bytes).2 = []) →
        Utf8 (parseCredentials chunk.bytes).1 ∧
          env.HashReadable (parseCredentials chunk.bytes).1) := by
    rw [HarmlessHead, hauthority]
    exact ⟨fun h ↦ h host portStr rfl, fun h host' portStr' he ↦ by
      obtain ⟨rfl, rfl⟩ := Prod.mk.inj (Option.some.inj he)
      exact h⟩
  have hnoAuth : Ascii (ofString "HTTP CONNECT no auth ") := by decide
  have hconnect : Ascii (ofString "HTTP CONNECT ") := by decide
  simp only [wp_bind, wp_ofExcept, wp_modifySelf, wp_ite, wp_log, wp_post]
  rw [hiff]
  refine ⟨fun port hport ↦ ?_, fun e he ↦ ?_⟩
  · have hint : BeginsWithInt portStr := (parsePort_isOk_iff portStr).mp ⟨port, hport⟩
    refine ⟨fun hnone ↦ ?_, fun hsome ↦ ?_⟩
    · rw [utf8_target_iff hnoAuth]
      refine ⟨fun hhost ↦ ⟨⟨hint, hhost, fun hne ↦ absurd hnone hne⟩, ?_⟩,
        fun hhost h ↦ hhost h.2.1⟩
      refine ⟨hhost, hs.username, fun p hp ↦ ?_⟩
      rcases List.mem_append.mp hp with hp | hp
      · exact hs.pending p hp
      · rw [List.mem_singleton.mp hp]
        trivial
    · rw [utf8_target_user_iff hconnect]
      refine ⟨fun htexts ↦ ?_, fun hbad h ↦ hbad ⟨h.2.1, (h.2.2 hsome).1⟩⟩
      obtain ⟨hhost, huser⟩ := htexts
      refine wp_mono (doHttpAuth_decides ⟨hhost, huser, hs.pending⟩ rfl) ?_ ?_
      · exact fun _ t ht ↦ ⟨⟨hint, hhost, fun _ ↦ ⟨huser, ht.1⟩⟩, ht.2⟩
      · exact fun _ hbad h ↦ hbad (h.2.2 hsome).2
  · rintro ⟨hint, -⟩
    obtain ⟨port, hport⟩ := (parsePort_isOk_iff portStr).mpr hint
    rw [he] at hport
    cases hport

theorem completes_handleSocks5Handshake (hs : s.self.Sound) (length : ℕ) :
    Completes s (handleSocks5Handshake env length) := by
  have haddr := s.self.clientAddr.utf8
  have hinvalid := (utf8_ofString "Invalid handshake from ").append haddr
  have hnoAuth := (utf8_ofString "Client no auth support from ").append haddr
  rw [Completes, handleSocks5Handshake]
  simp only [wp_bind, wp_get]
  split
  · simp only [wp_bind]
    rw [wp_log_of_utf8 hinvalid]
    exact completes_closeSession hs _
  · exact completes_post hs trivial
  · exact completes_post hs trivial
  · simp only [wp_bind]
    rw [wp_log_of_utf8 hnoAuth]
    exact completes_post hs trivial

/-- The first bytes of a client that the handler can take. -/
def HarmlessHandshake (env : Environment) (b : Buffer) (chunk : Chunk) : Prop :=
  isHttpConnect (b.store chunk.bytes) chunk.bytes.length = true → HarmlessHead env chunk.bytes

theorem onHandshakeRead_decides (hs : s.self.Sound) {b : Buffer} {chunk : Chunk}
    (hb : s.self.clientBuffer = b.store chunk.bytes) :
    Decides (HarmlessHandshake env b chunk) s (onHandshakeRead env chunk.bytes.length) := by
  rw [Decides, onHandshakeRead]
  simp only [wp_bind, wp_get, wp_ite, wp_modifySelf]
  rw [hb, HarmlessHandshake]
  refine ⟨fun hhttp ↦ ?_, fun hsocks ↦ ?_⟩
  · refine wp_mono (handleHttpConnect_decides ?_ rfl) ?_ ?_
    · exact hs.same rfl rfl rfl rfl
    · exact fun _ t ht ↦ ⟨fun _ ↦ ht.1, ht.2⟩
    · exact fun _ hbad h ↦ hbad (h hhttp)
  · exact Completes.decides (completes_handleSocks5Handshake hs _) fun hhttp ↦ absurd hhttp hsocks

/-- A login that the handler can take. -/
def HarmlessLogin (env : Environment) (b : Buffer) (chunk : Chunk) : Prop :=
  ∀ u p, parseLogin (b.store chunk.bytes) chunk.bytes.length = .credentials u p →
    Utf8 u ∧ env.HashReadable u

theorem onAuthRead_decides (hs : s.self.Sound) {b : Buffer} {chunk : Chunk}
    (hb : s.self.clientBuffer = b.store chunk.bytes) :
    Decides (HarmlessLogin env b chunk) s (onAuthRead env chunk.bytes.length) := by
  rw [Decides, onAuthRead]
  simp only [wp_bind, wp_get]
  rw [hb, HarmlessLogin]
  rcases parseLogin (b.store chunk.bytes) chunk.bytes.length with _ | _ | ⟨u, p⟩
  · refine Completes.decides (completes_closeSession hs _) fun u p h ↦ ?_
    cases h
  · refine Completes.decides (completes_post hs trivial) fun u p h ↦ ?_
    cases h
  have hiff : (∀ u' p', Login.credentials u p = .credentials u' p' →
      Utf8 u' ∧ env.HashReadable u') ↔ Utf8 u ∧ env.HashReadable u := by
    refine ⟨fun h ↦ h u p rfl, fun h u' p' he ↦ ?_⟩
    obtain ⟨rfl, rfl⟩ := Login.credentials.inj he
    exact h
  have hsuccess : Ascii (ofString "SOCKS5 auth success user=") := by decide
  have hfailure : Ascii (ofString "SOCKS5 auth failed user=") := by decide
  rw [hiff]
  simp only [noteLogin, noteFailedLogin, wp_bind, wp_ofExcept, wp_call, wp_ite, wp_modifySelf,
    wp_get, wp_modifyGateway, wp_log, wp_post]
  refine ⟨fun ok hok ↦ ?_, fun e he ↦ ?_⟩
  · have hreadable := (authenticate_isOk_iff env u p).mp ⟨ok, hok⟩
    rw [utf8_ascii_append_iff hsuccess, utf8_ascii_append_iff hfailure]
    refine ⟨fun _ ↦ ⟨fun huser ↦ ⟨⟨huser, hreadable⟩, ?_⟩, fun hbad h ↦ hbad h.1⟩,
      fun _ ↦ ⟨fun huser ↦ ⟨⟨huser, hreadable⟩, ?_⟩, fun hbad h ↦ hbad h.1⟩⟩
    · refine ⟨hs.host, huser, fun p hp ↦ ?_⟩
      rcases List.mem_append.mp hp with hp | hp
      · exact hs.pending p hp
      · rw [List.mem_singleton.mp hp]
        trivial
    · exact hs.post rfl rfl rfl _ rfl fun p hp ↦ List.mem_singleton.mp hp ▸ trivial
  · rw [← authenticate_isOk_iff env u p, he]
    rintro ⟨-, ok, hok⟩
    cases hok

/-- A request that the handler can take. -/
def HarmlessRequest (env : Environment) (b : Buffer) (chunk : Chunk) : Prop :=
  ∀ host port, parseRequest env.v6Text (b.store chunk.bytes) chunk.bytes.length =
    .target host port →
    Utf8 host

theorem onRequestRead_decides (hs : s.self.Sound) {b : Buffer} {chunk : Chunk}
    (hb : s.self.clientBuffer = b.store chunk.bytes) :
    Decides (HarmlessRequest env b chunk) s (onRequestRead env chunk.bytes.length) := by
  rw [Decides, onRequestRead]
  simp only [wp_bind, wp_get]
  rw [hb, HarmlessRequest]
  rcases parseRequest env.v6Text (b.store chunk.bytes) chunk.bytes.length with
    _ | _ | _ | _ | ⟨host, port⟩
  · refine Completes.decides (completes_closeSession hs _) fun host port h ↦ ?_
    cases h
  iterate 3
    · refine Completes.decides (completes_post hs trivial) fun host port h ↦ ?_
      cases h
  have hiff : (∀ host' port', ConnectRequest.target host port = .target host' port' → Utf8 host') ↔
      Utf8 host := by
    refine ⟨fun h ↦ h host port rfl, fun h host' port' he ↦ ?_⟩
    obtain ⟨rfl, rfl⟩ := ConnectRequest.target.inj he
    exact h
  have hline : Ascii (ofString "SOCKS5 CONNECT ") := by decide
  rw [hiff]
  simp only [wp_bind, wp_modifySelf, wp_log]
  rw [utf8_target_user_iff hline]
  refine ⟨fun hgood ↦ ?_, fun hbad hhost ↦ hbad ⟨hhost, hs.username⟩⟩
  refine Completes.decides (completes_doRouteDecision ?_) hgood.1
  exact ⟨hgood.1, hs.username, hs.pending⟩

/-! ## Behind the handshake -/

theorem replyEstablished_decides (hs : s.self.Sound) :
    Decides (s.self.isHttp = true ∨ s.self.localEndpoint.address.isV4 = true) s
      replyEstablished := by
  rw [Decides, replyEstablished]
  simp only [wp_bind, wp_get, wp_ite, wp_post, wp_ofExcept]
  refine ⟨fun hhttp ↦ ⟨.inl hhttp, ?_⟩,
    fun hsocks ↦ ⟨fun bytes hbytes ↦ ⟨.inr ?_, ?_⟩, fun e he ↦ ?_⟩⟩
  · exact hs.post rfl rfl rfl _ rfl fun p hp ↦ List.mem_singleton.mp hp ▸ trivial
  · rcases ha : s.self.localEndpoint.address with _ | _
    · rfl
    · rw [ha] at hbytes
      cases hbytes
  · exact hs.post rfl rfl rfl _ rfl fun p hp ↦ List.mem_singleton.mp hp ▸ trivial
  · rcases ha : s.self.localEndpoint.address with _ | _
    · rw [ha] at he
      cases he
    · rintro (hhttp | hv4)
      · exact hsocks hhttp
      · cases hv4

theorem completes_failWith (hs : s.self.Sound) (code : UInt8) (reason : Text) :
    Completes s (failWith code reason) := by
  rw [Completes, failWith]
  simp only [wp_bind, wp_get, wp_ite]
  exact ⟨fun _ ↦ completes_post hs trivial, fun _ ↦ completes_post hs trivial⟩

theorem completes_onResolved (hs : s.self.Sound) (results : List Endpoint) :
    Completes s (onResolved env results) := by
  rcases results with _ | ⟨ep, results⟩ <;>
  · simp only [Completes, onResolved, doConnectDirect, wp_bind, wp_modifySelf, wp_serve, wp_post]
    exact hs.post rfl rfl rfl _ rfl fun p hp ↦ List.mem_singleton.mp hp ▸ trivial

theorem completes_onResolveFailed (hs : s.self.Sound) {host : ByteString} (hhost : Utf8 host)
    (message : Text) : Completes s (onResolveFailed host message) := by
  have hline := (((utf8_ofString "DNS failed: ").append hhost).append
    (utf8_ofString " - ")).append message.utf8
  rw [Completes, onResolveFailed]
  simp only [wp_bind]
  rw [wp_log_of_utf8 hline]
  exact completes_failWith hs _ _

theorem completes_onDirectConnectFailed (hs : s.self.Sound) (message : Text) :
    Completes s (onDirectConnectFailed message) := by
  have hline := (((utf8_ofString "Direct connect failed: ").append hs.host).append
    (utf8_ofString " - ")).append message.utf8
  rw [Completes, onDirectConnectFailed]
  simp only [wp_bind, wp_get]
  rw [wp_log_of_utf8 hline]
  exact completes_failWith hs _ _

theorem completes_onV2raynConnectFailed (hs : s.self.Sound) (message : Text) :
    Completes s (onV2raynConnectFailed message) := by
  have hline := (utf8_ofString "v2rayN connect failed: ").append message.utf8
  rw [Completes, onV2raynConnectFailed]
  simp only [wp_bind]
  rw [wp_log_of_utf8 hline]
  exact completes_failWith hs _ _

/-- A session that gets a new local address while nothing waits for the old one. -/
theorem Sound.connected {s t : Session} (hs : s.Sound) (hhost : t.targetHost = s.targetHost)
    (husername : t.username = s.username) (hpending : t.pending = []) : t.Sound where
  host := hhost ▸ hs.host
  username := husername ▸ hs.username
  pending := by
    rw [hpending]
    exact fun p hp ↦ absurd hp List.not_mem_nil

theorem onDirectConnected_decides (hs : s.self.Sound) (halone : s.self.pending = [])
    (endpoint localEndpoint : Endpoint) :
    Decides (s.self.isHttp = true ∨ localEndpoint.address.isV4 = true) s
      (onDirectConnected env endpoint localEndpoint) := by
  have hhost := (utf8_hostPortText_iff s.self.targetHost s.self.targetPort).mpr hs.host
  have hline := (((((utf8_ofString "Direct tunnel -> ").append hhost).append
    (utf8_ofString " remote=")).append (endpoint.address.text env.v6Text).utf8).append
    (utf8_ofString ":")).append (portText endpoint.port).utf8
  rw [Decides, onDirectConnected]
  simp only [wp_bind, wp_modifySelf, wp_get, wp_modifyGateway]
  rw [wp_log_of_utf8 hline]
  refine replyEstablished_decides ?_
  exact hs.connected rfl rfl halone

theorem completes_doSocks5ClientHandshake (hs : s.self.Sound) (halone : s.self.pending = [])
    {localEndpoint : Endpoint} (hlocal : localEndpoint.address.isV4 = true) :
    Completes s (doSocks5ClientHandshake localEndpoint) := by
  rw [Completes, doSocks5ClientHandshake]
  simp only [wp_bind, wp_modifySelf, wp_get]
  refine completes_post ?_ hlocal
  exact hs.connected rfl rfl halone

theorem completes_onV2raynGreetingRead (hs : s.self.Sound)
    (hlocal : s.self.localEndpoint.address.isV4 = true) (host : ByteString) (port : UInt16)
    (length : ℕ) : Completes s (onV2raynGreetingRead env host port length) := by
  rw [Completes, onV2raynGreetingRead]
  simp only [wp_bind, wp_get, wp_ite]
  exact ⟨fun _ ↦ completes_closeSession hs _, fun _ ↦ ⟨fun _ ↦ completes_closeSession hs _,
    fun _ ↦ completes_post hs hlocal⟩⟩

theorem completes_onV2raynConnectRead (hs : s.self.Sound)
    (hlocal : s.self.localEndpoint.address.isV4 = true) (length : ℕ) :
    Completes s (onV2raynConnectRead env length) := by
  have hhost := (utf8_hostPortText_iff s.self.targetHost s.self.targetPort).mpr hs.host
  have hline := (utf8_ofString "v2rayN tunnel -> ").append hhost
  have hreply : ∀ t : Ctx, t.self.Sound → t.self.localEndpoint = s.self.localEndpoint →
      Completes t replyEstablished := by
    intro t ht hkeep
    refine wp_mono (replyEstablished_decides ht) (fun _ _ h ↦ h.2) fun _ hbad ↦ hbad (.inr ?_)
    rw [hkeep]
    exact hlocal
  rw [Completes, onV2raynConnectRead]
  simp only [wp_bind, wp_get, wp_ite, wp_modifySelf, wp_modifyGateway]
  refine ⟨fun _ ↦ completes_closeSession hs _, fun _ ↦ ⟨fun _ ↦ completes_closeSession hs _,
    fun _ ↦ ⟨fun _ ↦ ?_, fun _ ↦ ?_⟩⟩⟩ <;>
  · rw [wp_log_of_utf8 hline]
    refine hreply _ ?_ rfl
    exact hs.same rfl rfl rfl rfl

theorem completes_onRelayClientRead (hs : s.self.Sound) (length : ℕ) :
    Completes s (onRelayClientRead env length) := by
  simp only [Completes, onRelayClientRead, doWriteRemote, wp_bind, wp_modifySelf, wp_get,
    wp_modifyGateway, wp_post]
  exact hs.post rfl rfl rfl _ rfl fun p hp ↦ List.mem_singleton.mp hp ▸ trivial

theorem completes_onRelayRemoteRead (hs : s.self.Sound) (length : ℕ) :
    Completes s (onRelayRemoteRead env length) := by
  simp only [Completes, onRelayRemoteRead, doWriteClient, wp_bind, wp_modifySelf, wp_get,
    wp_modifyGateway, wp_post]
  exact hs.post rfl rfl rfl _ rfl fun p hp ↦ List.mem_singleton.mp hp ▸ trivial

theorem completes_onWritten (hs : s.self.Sound) {data : ByteString} {h : WriteHandler}
    (hp : (Pending.write data h).Sound s.self.localEndpoint) : Completes s (onWritten env h) := by
  rcases h with supportAuth | authenticated | reason | failure | ⟨host, port⟩ | _ | _ | _
  · rcases supportAuth
    · exact completes_closeSession hs _
    · exact completes_post hs trivial
  · rcases authenticated
    · exact completes_closeSession hs _
    · exact completes_post hs trivial
  · exact completes_closeSession hs _
  · simp only [Completes, onWritten, doStream, doReadClient, doReadRemote, wp_bind, wp_serve,
      wp_post]
    refine hs.post rfl rfl rfl [.read .relayClient, .read .relayRemote] ?_ fun p hp ↦ ?_
    · exact List.append_assoc _ _ _
    · rcases List.mem_pair.mp hp with rfl | rfl <;> trivial
  · exact completes_post hs hp
  · exact completes_post hs hp
  · exact completes_post hs trivial
  · exact completes_post hs trivial

theorem completes_onWriteFailed (hs : s.self.Sound) (h : WriteHandler) :
    Completes s (onWriteFailed env h) := by
  rcases h with supportAuth | authenticated | reason | failure | ⟨host, port⟩ | _ | _ | _
  · exact hs
  · rcases authenticated
    · exact completes_closeSession hs _
    · exact hs
  all_goals exact completes_closeSession hs _

/-! ## All completions -/

/-- A completion that the session can take: the bytes of its client are harmless, and the connection
to the target has an IPv4 address where the SOCKS5 reply needs one. -/
def Harmless (env : Environment) (s : Session) : Pending → Completion → Prop
  | .read .handshake, .received chunk => HarmlessHandshake env s.clientBuffer chunk
  | .read .auth, .received chunk => HarmlessLogin env s.clientBuffer chunk
  | .read .request, .received chunk => HarmlessRequest env s.clientBuffer chunk
  | .connectDirect, .connected _ localEndpoint =>
    s.isHttp = true ∨ localEndpoint.address.isV4 = true
  | _, _ => True

theorem onRead_decides {t : Session} {chunk : Chunk} (h : ReadHandler) (hs : s.self.Sound)
    (hp : (Pending.read h).Sound s.self.localEndpoint)
    (hb : h.side = .client → s.self.clientBuffer = t.clientBuffer.store chunk.bytes) :
    Decides (Harmless env t (.read h) (.received chunk)) s (onRead env chunk.bytes.length h) := by
  rcases h with _ | _ | _ | _ | _ | _ | ⟨host, port⟩ | _ | _ | _
  · exact onHandshakeRead_decides hs (hb rfl)
  · exact Completes.decides (completes_handleSocks5Handshake hs _) trivial
  · exact onAuthRead_decides hs (hb rfl)
  · exact Completes.decides (completes_post hs trivial) trivial
  · exact onRequestRead_decides hs (hb rfl)
  · exact Completes.decides (completes_post hs trivial) trivial
  · exact Completes.decides (completes_onV2raynGreetingRead hs hp _ _ _) trivial
  · exact Completes.decides (completes_onV2raynConnectRead hs hp _) trivial
  · exact Completes.decides (completes_onRelayClientRead hs _) trivial
  · exact Completes.decides (completes_onRelayRemoteRead hs _) trivial

/-- **What decides whether a handler throws.** -/
theorem dispatch_decides {p : Pending} {c : Completion} {m : SessionM Unit}
    (hm : dispatch env p c = some m) (hs : s.self.Sound) (hp : p.Sound s.self.localEndpoint)
    (halone : p.lane = .handshake → s.self.pending = []) :
    Decides (Harmless env s.self p c) s m := by
  unfold dispatch at hm
  split at hm
  · rename_i h chunk
    obtain rfl := Option.some.inj hm
    rcases hside : h.side with _ | _
    · simp only [Decides, receive, wp_bind, wp_modifySelf, wp_call]
      refine onRead_decides h ?_ ?_ fun _ ↦ rfl
      · exact hs.same rfl rfl rfl rfl
      · exact hp
    · simp only [Decides, receive, wp_bind, wp_modifySelf, wp_call]
      refine onRead_decides h ?_ ?_ fun hc ↦ ?_
      · exact hs.same rfl rfl rfl rfl
      · exact hp
      · rw [hside] at hc
        cases hc
  · rename_i h message n
    obtain rfl := Option.some.inj hm
    refine Completes.decides (completes_closeSession hs _) ?_
    rcases h <;> trivial
  · obtain rfl := Option.some.inj hm
    refine Completes.decides ?_ trivial
    simp only [Completes, wp_bind, wp_call]
    refine completes_onWritten ?_ hp
    exact hs.same rfl rfl rfl rfl
  · obtain rfl := Option.some.inj hm
    refine Completes.decides ?_ trivial
    simp only [Completes, wp_bind, wp_call]
    refine completes_onWriteFailed ?_ _
    exact hs.same rfl rfl rfl rfl
  · obtain rfl := Option.some.inj hm
    exact Completes.decides (completes_onResolved hs _) trivial
  · obtain rfl := Option.some.inj hm
    exact Completes.decides (completes_onResolveFailed hs hp _) trivial
  · split at hm
    · obtain rfl := Option.some.inj hm
      exact onDirectConnected_decides hs (halone rfl) _ _
    · cases hm
  · obtain rfl := Option.some.inj hm
    exact Completes.decides (completes_onDirectConnectFailed hs _) trivial
  · obtain rfl := Option.some.inj hm
    exact Completes.decides (completes_post hs trivial) trivial
  · obtain rfl := Option.some.inj hm
    exact Completes.decides (completes_closeSession hs _) trivial
  · split at hm
    · rename_i hlocal
      obtain rfl := Option.some.inj hm
      exact Completes.decides (completes_doSocks5ClientHandshake hs (halone rfl) hlocal) trivial
    · cases hm
  · obtain rfl := Option.some.inj hm
    exact Completes.decides (completes_onV2raynConnectFailed hs _) trivial
  · cases hm

/-! ## Starting -/

theorem completes_onAdmission (hs : s.self.Sound) (response : AdmitResponse) :
    Completes s (onAdmission env response) := by
  have haddr := s.self.clientAddr.utf8
  have hposition := utf8_of_ascii (ascii_toDecimal response.queuePosition)
  have hrejected := (((utf8_ofString "Rejected: ").append response.reason.utf8).append
    (utf8_ofString " from ")).append haddr
  have hqueued := (((utf8_ofString "Queued: position=").append hposition).append
    (utf8_ofString " from ")).append haddr
  have hnew := (utf8_ofString "New connection from ").append haddr
  have hgo : ∀ t : Ctx, t.self.Sound → Completes t doHandshake :=
    fun t ht ↦ completes_post ht trivial
  rw [Completes, onAdmission]
  simp only [wp_bind, wp_get, wp_ite, wp_modifyGateway, wp_modifySelf]
  refine ⟨fun _ ↦ ?_, fun _ ↦ ⟨fun _ ↦ ?_, fun _ ↦ ?_⟩⟩
  · rw [wp_log_of_utf8 hrejected]
    refine completes_closeSession ?_ _
    exact hs
  · rw [wp_log_of_utf8 hqueued, wp_log_of_utf8 hnew]
    refine hgo _ ?_
    exact hs.same rfl rfl rfl rfl
  · rw [wp_log_of_utf8 hnew]
    refine hgo _ ?_
    exact hs.same rfl rfl rfl rfl

/-- A client that is still there can be started, and only such a one. -/
theorem start_decides (a : Arrival) (g : Gateway) :
    Decides (a.remote ≠ none) ⟨a.session, g⟩ (start env a.remote) := by
  have hs : a.session.Sound :=
    ⟨utf8_nil, utf8_nil, fun p hp ↦ absurd hp List.not_mem_nil⟩
  rcases a.remote with _ | ep
  · exact fun h ↦ h rfl
  refine Completes.decides ?_ (Option.some_ne_none ep)
  have haddr :=
    AsciiText.utf8 (ep.address.text env.v6Text ++ .lit ":" (by decide) ++ portText ep.port)
  simp only [Completes, start, requestAdmission, wp_bind, wp_modifySelf, wp_get, wp_ite,
    wp_modifyGateway, wp_call]
  refine ⟨fun _ ↦ ?_, fun _ ↦ ⟨fun _ ↦ completes_onAdmission ?_ _, fun _ ↦ ?_⟩⟩
  · have hline := (utf8_ofString "Rejected: system overloaded from ").append haddr
    rw [wp_log_of_utf8 hline]
    refine completes_closeSession ?_ _
    exact hs.same rfl rfl rfl rfl
  · exact hs.same rfl rfl rfl rfl
  · have hline := (utf8_ofString "Rejected: rate limited from ").append haddr
    rw [wp_log_of_utf8 hline]
    refine completes_closeSession ?_ _
    exact hs.same rfl rfl rfl rfl

end Session

/-! ## Runs -/

namespace World

/-- A step that does not throw: a client that starts is still there, and a completion that fits its
operation is harmless to the session. -/
def Harmless (w : World) : Event → Prop
  | .start _ a => a.remote ≠ none
  | .complete i k c env => ∀ s p, w.sessions[i]? = some s → s.pending[k]? = some p →
    (Session.dispatch env p c).isSome → Session.Harmless env s p c

/-- Every session is orderly and sound. -/
def Sound (w : World) : Prop := ∀ s ∈ w.sessions, s.Orderly ∧ s.Sound

variable {w t : World} {e : Event}

/-- A handler runs on a sound session, with nothing else under way during the handshake. -/
theorem Sound.decides (hw : w.Sound) {i k : ℕ} {c : Completion} {env : Environment} {s : Session}
    {p : Pending} {m : SessionM Unit} (hs : w.sessions[i]? = some s) (hp : s.pending[k]? = some p)
    (hm : Session.dispatch env p c = some m) :
    Session.Decides (Session.Harmless env s p c)
      ⟨{ s with pending := s.pending.eraseIdx k }, w.gateway⟩ m := by
  obtain ⟨horderly, hsound⟩ := hw s (List.mem_of_getElem? hs)
  have hrest : ({ s with pending := s.pending.eraseIdx k } : Session).Sound :=
    ⟨hsound.host, hsound.username, fun q hq ↦ hsound.pending q (List.mem_of_mem_eraseIdx hq)⟩
  have hdecides := Session.dispatch_decides (s := ⟨_, w.gateway⟩) hm hrest
    (hsound.pending p (List.mem_of_getElem? hp)) (horderly.alone hp)
  rcases p <;> exact hdecides

/-- The step lemma: whether a step throws. -/
theorem Sound.step_isOk_iff (hw : w.Sound) : (∃ t, w.step e = .ok t) ↔ w.Harmless e := by
  rcases e with ⟨env, a⟩ | ⟨i, k, c, env⟩
  · have hstart : (∃ x c, Session.start env a.remote ⟨a.session, w.gateway⟩ = .ok (x, c)) ↔
        a.remote ≠ none := exists_ok_iff_of_wp (Session.start_decides a w.gateway)
    rw [step, Harmless, ← hstart]
    rcases Session.start env a.remote ⟨a.session, w.gateway⟩ with x | ⟨⟨⟩, c⟩
    · constructor <;> rintro ⟨_, h⟩
      · cases h
      · obtain ⟨_, h⟩ := h
        cases h
    · exact ⟨fun _ ↦ ⟨_, _, rfl⟩, fun _ ↦ ⟨_, rfl⟩⟩
  rw [step, handler, Harmless]
  rcases hs : w.sessions[i]? with _ | s
  · exact ⟨fun _ _ _ h ↦ (Option.some_ne_none _ h.symm).elim, fun _ ↦ ⟨w, rfl⟩⟩
  rcases hp : s.pending[k]? with _ | p
  · simp only [Option.bind_eq_bind, Option.bind_some, hp, Option.bind_none]
    refine ⟨fun _ s' p h hp' ↦ ?_, fun _ ↦ ⟨w, rfl⟩⟩
    obtain rfl := Option.some.inj h
    rw [hp] at hp'
    cases hp'
  rcases hm : Session.dispatch env p c with _ | m
  · simp only [Option.bind_eq_bind, Option.bind_some, hp, hm, Option.bind_none]
    refine ⟨fun _ s' p' h hp' hfits ↦ ?_, fun _ ↦ ⟨w, rfl⟩⟩
    obtain rfl := Option.some.inj h
    obtain rfl := Option.some.inj (hp.symm.trans hp')
    rw [hm] at hfits
    cases hfits
  have hrun := exists_ok_iff_of_wp (hw.decides hs hp hm)
  have hiff : (∀ s' p', some s = some s' → s'.pending[k]? = some p' →
      (Session.dispatch env p' c).isSome → Session.Harmless env s' p' c) ↔
      Session.Harmless env s p c := by
    refine ⟨fun h ↦ h s p rfl hp (by rw [hm]; rfl), fun h s' p' hs' hp' _ ↦ ?_⟩
    obtain rfl := Option.some.inj hs'
    obtain rfl := Option.some.inj (hp.symm.trans hp')
    exact h
  simp only [Option.bind_eq_bind, Option.bind_some, hp, hm]
  rw [hiff, ← hrun]
  rcases m ⟨{ s with pending := s.pending.eraseIdx k }, w.gateway⟩ with x | ⟨⟨⟩, t⟩
  · constructor <;> rintro ⟨_, h⟩
    · cases h
    · obtain ⟨_, h⟩ := h
      cases h
  · exact ⟨fun _ ↦ ⟨_, _, rfl⟩, fun _ ↦ ⟨_, rfl⟩⟩

/-- A step that does not throw leaves every session sound. -/
theorem Sound.step (hw : w.Sound) (h : w.step e = .ok t) : t.Sound := by
  have horderly := (moves_of_step h).orderly fun s hs ↦ (hw s hs).1
  have hsound : ∀ s ∈ t.sessions, s.Sound := by
    rcases step_cases h with rfl | ⟨env, a, c, rfl, hstart, rfl⟩ |
      ⟨i, k, c, env, s, p, m, t, rfl, hs, hp, hm, hrun, rfl⟩
    · exact fun s hs ↦ (hw s hs).2
    · intro s hs
      rcases List.mem_append.mp hs with hs | hs
      · exact (hw s hs).2
      · rw [List.mem_singleton.mp hs]
        exact (wp_of_ok (Session.start_decides a w.gateway) hstart).2
    · intro s' hs'
      rcases List.mem_or_eq_of_mem_set hs' with hs' | rfl
      · exact (hw s' hs').2
      · exact (wp_of_ok (hw.decides hs hp hm) hrun).2
  exact fun s hs ↦ ⟨horderly s hs, hsound s hs⟩

/-- **What takes the gateway down.** From a proxy without sessions, no completion handler throws in
a run exactly when all its steps are harmless. -/
theorem run_isOk_iff {w₀ : World} (h₀ : w₀.sessions = []) (es : List Event) :
    (∃ w, run World.step w₀ es = .ok w) ↔ Along World.step Harmless w₀ es := by
  have hsound : w₀.Sound := by
    rw [Sound, h₀]
    exact fun s hs ↦ absurd hs List.not_mem_nil
  exact exists_run_iff_along (fun w e hw ↦ hw.step_isOk_iff) (fun w e t hw ↦ hw.step) hsound

/-- A client that connects and logs in is harmless, and the run goes through. -/
theorem loginRun_isOk_iff :
    (∃ w, run World.step {} loginRun = .ok w) ↔ Along World.step Harmless {} loginRun :=
  run_isOk_iff rfl loginRun

/-- The head of an HTTP CONNECT whose port is a word. -/
def namedPortHead : Chunk where
  bytes := ofString "CONNECT h:http HTTP/1.1\r\n\r\n"
  nonempty := by decide
  fits := by decide

/-- A client connects and sends this head. -/
def namedPortRun : List Event :=
  [.start (sampleEnvironment .direct) sampleArrival,
    .complete 0 0 (.received namedPortHead) (sampleEnvironment .direct)]

/-- `std::stoi` throws, and nothing catches it. -/
theorem namedPortRun_throws : ¬∃ w, run World.step {} namedPortRun = .ok w := by
  have hrun : (run World.step {} namedPortRun).toOption.isNone = true := by decide +kernel
  rintro ⟨w, hw⟩
  rw [hw] at hrun
  cases hrun

end World

end LanProxyGateway
