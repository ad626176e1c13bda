import LanProxyGateway.Concurrency.ConnectionRegistry
import LanProxyGateway.Foundation.Effect
import LanProxyGateway.ProxyCore.Protocol
import LanProxyGateway.RouteDecision.RouteEngine
import LanProxyGateway.UserManager.UserManager

/-!
# The state of a session

A session runs as a chain of completion handlers. Between two of them it is its member variables and
the asynchronous operations it has started; an operation is kept as the data it was given and the
handler that will run when it completes.

Two more components are there for the statements alone. `trace` lists what the session received and
sent and which of the functions that matter it called, in order; `isOpen` says that `close_session`
has not closed the sockets yet.

Handlers are programs over the session and the singletons it shares with the other sessions. What
they ask the rest of the system (clocks, configuration, users, rules, the node to use) is an
`Environment`, a different one for each step.
-/

open Foundation ByteString

namespace LanProxyGateway

/-! ## The singletons and the rest of the system -/

/-- The singletons that sessions change. -/
structure Gateway where
  overload : OverloadProtector := {}
  limiter : RateLimiter := {}
  admitter : ConnectionAdmitter := {}
  registry : ConnectionRegistry := {}
  metrics : MetricsCollector := {}
  balancer : LoadBalancer := {}
  concurrency : ConcurrencyMetrics := {}

/-- What a handler finds when it runs. -/
structure Environment where
  now : SteadyTime
  /-- `std::time(nullptr)`. -/
  time : Int
  usage : SystemUsage
  config : SystemConfig
  users : UserManager
  router : RouteEngine
  isChina : ByteString → Bool
  lib : HashLibrary
  /-- `load_balancer::select_node` for a client address. -/
  selectNode : ByteString → Option ScheduleResult
  v6Text : List UInt8 → AsciiText

/-! ## Operations and handlers -/

inductive SessionRouteAction
  | direct
  | proxy
  deriving DecidableEq, Repr

/-- The two sockets. -/
inductive Side
  | client
  | remote
  deriving DecidableEq, Repr

/-- The handlers of `async_read_some`, under the function that starts the read. -/
inductive ReadHandler
  /-- `do_handshake`. -/
  | handshake
  /-- The second read of `handle_socks5_handshake`. -/
  | handshakeAgain
  /-- `do_auth`. -/
  | auth
  /-- The second read of `do_auth`, which forgets what it reads. -/
  | authAgain
  /-- `do_request`. -/
  | request
  /-- The second read of `do_request`, which forgets what it reads. -/
  | requestAgain
  /-- The method reply of v2ray, for the target it is to connect to. -/
  | v2raynGreeting (host : ByteString) (port : UInt16)
  /-- The reply of v2ray to the request. -/
  | v2raynConnect
  /-- `do_read_client`. -/
  | relayClient
  /-- `do_read_remote`. -/
  | relayRemote
  deriving DecidableEq, Repr

/-- The socket a handler reads from. -/
def ReadHandler.side : ReadHandler → Side
  | .v2raynGreeting _ _ | .v2raynConnect | .relayRemote => .remote
  | _ => .client

/-- The handlers of `async_write`. -/
inductive WriteHandler
  | methodReply (supportAuth : Bool)
  | authReply (authenticated : Bool)
  /-- An error reply; whether it arrives or not, the session is closed. -/
  | closing (reason : Text)
  /-- The success reply in front of the relay, with the reason to close for where it fails. -/
  | tunnelReply (failure : Text)
  | v2raynGreeting (host : ByteString) (port : UInt16)
  | v2raynConnect
  /-- `do_write_remote`. -/
  | relayRemote
  /-- `do_write_client`. -/
  | relayClient
  deriving DecidableEq

/-- The socket a handler writes to. -/
def WriteHandler.side : WriteHandler → Side
  | .v2raynGreeting _ _ | .v2raynConnect | .relayRemote => .remote
  | _ => .client

/-- An operation that has been started. -/
inductive Pending
  | read (h : ReadHandler)
  | write (data : ByteString) (h : WriteHandler)
  /-- The resolver of `do_resolve`. -/
  | resolveDirect (host : ByteString)
  | connectDirect
  /-- The resolver of `do_connect_via_v2rayn`. -/
  | resolveV2rayn
  | connectV2rayn
  deriving DecidableEq

/-! ## The trace -/

/-- The steps on behalf of a client. -/
inductive Service
  | routeDecision (host : ByteString) (port : UInt16)
  | selectNode
  | resolve
  | connectDirect
  | connectViaV2rayn
  | stream
  deriving DecidableEq, Repr

inductive Call
  | received (side : Side) (bytes : ByteString)
  | sent (side : Side) (bytes : ByteString)
  | writeFailed (side : Side)
  | requestAdmit (result : AdmitResult)
  | authenticate (username password : ByteString) (ok : Bool)
  /-- A step on behalf of the client, with `m_username` at that time. -/
  | service (username : ByteString) (s : Service)
  | close (reason : Text)
  deriving DecidableEq

/-! ## The session -/

structure Session where
  clientBuffer : Buffer
  remoteBuffer : Buffer
  isHttp : Bool := false
  targetHost : ByteString := []
  targetPort : UInt16 := 0
  resolvedIp : ByteString := []
  httpUsername : ByteString := []
  httpPassword : ByteString := []
  sessionId : AsciiText
  username : ByteString := []
  clientAddr : AsciiText := .lit ""
  bytesUp : ℕ := 0
  bytesDown : ℕ := 0
  startTime : Int := 0
  tunnelActive : Bool := false
  routeAction : SessionRouteAction := .direct
  selectedNodeTag : Text := .lit ""
  admitted : Bool := false
  /-- `m_remote_socket.local_endpoint()`, once the socket is connected. -/
  localEndpoint : Endpoint := ⟨.v4 0 0 0 0, 0⟩
  isOpen : Bool := true
  pending : List Pending := []
  trace : List Call := []

/-- A session while one of its handlers runs. -/
structure Ctx where
  self : Session
  gateway : Gateway

abbrev SessionM := Program Ctx CxxException

namespace SessionM

def modifySelf (f : Session → Session) : SessionM Unit := modify fun c ↦ { c with self := f c.self }

def modifyGateway (f : Gateway → Gateway) : SessionM Unit :=
  modify fun c ↦ { c with gateway := f c.gateway }

/-- Enter a call into the trace. -/
def call (x : Call) : SessionM Unit := modifySelf fun s ↦ { s with trace := s.trace ++ [x] }

/-- Start an operation. -/
def post (p : Pending) : SessionM Unit := modifySelf fun s ↦ { s with pending := s.pending ++ [p] }

/-- Enter a step on behalf of the client into the trace. -/
def serve (x : Service) : SessionM Unit :=
  modifySelf fun s ↦ { s with trace := s.trace ++ [.service s.username x] }

/-- `structured_logger::info`, `warn` and `error`: the message becomes a string of a JSON object,
and `dump` throws where it is not UTF-8. -/
def log (msg : ByteString) : SessionM Unit := if Utf8 msg then pure () else throw .typeError

/-! ### What the primitives do -/

variable (Q : Unit → Ctx → Prop) (E : CxxException → Prop) (c : Ctx)

@[simp] theorem wp_modifySelf (f : Session → Session) :
    wp (modifySelf f) Q E c ↔ Q () { c with self := f c.self } := Iff.rfl

@[simp] theorem wp_modifyGateway (f : Gateway → Gateway) :
    wp (modifyGateway f) Q E c ↔ Q () { c with gateway := f c.gateway } := Iff.rfl

@[simp] theorem wp_call (x : Call) :
    wp (call x) Q E c ↔ Q () { c with self := { c.self with trace := c.self.trace ++ [x] } } :=
  Iff.rfl

@[simp] theorem wp_post (p : Pending) :
    wp (post p) Q E c ↔ Q () { c with self := { c.self with pending := c.self.pending ++ [p] } } :=
  Iff.rfl

@[simp] theorem wp_serve (x : Service) :
    wp (serve x) Q E c ↔ Q () { c with
      self := { c.self with trace := c.self.trace ++ [.service c.self.username x] } } := Iff.rfl

@[simp] theorem wp_log (msg : ByteString) :
    wp (log msg) Q E c ↔ (Utf8 msg → Q () c) ∧ (¬Utf8 msg → E .typeError) := by
  rw [log, wp_ite, wp_pure, wp_throw]

end SessionM

end LanProxyGateway
