import LanProxyGateway.ProxyCore.Session

/-!
# The handlers of a session

The member functions of `session` in the order of the source. A function that starts an operation
ends there; what the source writes as the lambda handed to the operation is a function of its own,
named after the operation, and runs when the operation completes.

A handler that throws takes the whole process down, so what it did before does not matter and the
model drops it.
-/

open Foundation ByteString

namespace LanProxyGateway

open LanProxy

namespace Session

open SessionM

/-! ## Closing -/

/-- What `close_session` gives back, in its order: the slots, the connection of the node, the slot
of the user, the entry of the registry. -/
def release (env : Environment) (s : Session) (g : Gateway) : Gateway :=
  let g := if s.admitted then { g with
    overload := g.overload.decTotalConnections
    metrics := g.metrics.decActiveConnections } else g
  let g := if s.tunnelActive ∧ s.routeAction = .proxy ∧ s.selectedNodeTag.bytes ≠ [] then { g with
    balancer := g.balancer.decNodeConnections s.selectedNodeTag.bytes
    concurrency := g.concurrency.decNodeConnections s.selectedNodeTag.bytes } else g
  let g := if s.admitted then
    { g with admitter := (g.admitter.releaseConnection env.now s.username).2.2 } else g
  { g with registry := g.registry.unregisterConnection s.sessionId.bytes }

/-- The byte counts that `close_session` adds to the metrics. -/
def addTraffic (s : Session) (g : Gateway) : Gateway :=
  match s.routeAction with
  | .direct => { g with metrics := g.metrics.addDirectBytes s.bytesUp s.bytesDown }
  | .proxy => { g with metrics := g.metrics.addProxyBytes s.bytesUp s.bytesDown }

/-- The strings of the JSON object in the closing message of a tunnel. -/
def closeStats (s : Session) (reason : Text) : List ByteString :=
  [s.sessionId.bytes, s.clientAddr.bytes, s.username,
    s.targetHost ++ ofString ":" ++ (portText s.targetPort).bytes,
    match s.routeAction with
      | .direct => ofString "direct"
      | .proxy => ofString "proxy",
    reason.bytes]

/-- `stats.dump()`, which throws where one of the strings is not UTF-8. -/
def dumpStats (strings : List ByteString) : SessionM Unit :=
  if ∀ s ∈ strings, Utf8 s then pure () else throw .typeError

/-- The message `close_session` logs and the traffic it books. -/
def logClose (s : Session) (reason : Text) : SessionM Unit :=
  if s.tunnelActive then do
    dumpStats (s.closeStats reason)
    modifyGateway s.addTraffic
  else log (ofString "Close: " ++ s.clientAddr.bytes ++ ofString " reason=" ++ reason.bytes)

/-- `session::close_session`. -/
def closeSession (env : Environment) (reason : Text) : SessionM Unit := do
  modifySelf fun s ↦ { s with isOpen := false }
  call (.close reason)
  let c ← get
  modifyGateway (c.self.release env)
  logClose c.self reason
  modifySelf fun s ↦ { s with tunnelActive := false }

/-! ## Replies -/

def httpBadRequest : ByteString := ofString "HTTP/1.1 400 Bad Request\r\n\r\n"

def httpProxyAuthRequired : ByteString :=
  ofString "HTTP/1.1 407 Proxy Authentication Required\r\n"
    ++ ofString "Proxy-Authenticate: Basic realm=\"proxy\"\r\n" ++ ofString "\r\n"

def httpBadGateway : ByteString := ofString "HTTP/1.1 502 Bad Gateway\r\n\r\n"

def httpEstablished : ByteString := ofString "HTTP/1.1 200 Connection established\r\n\r\n"

/-- A SOCKS5 reply without a bound address. -/
def socksReply (code : UInt8) : ByteString :=
  [socksVersion, code, 0x00, atypIpv4, 0, 0, 0, 0, 0, 0]

/-- `host:port` in a message. -/
def hostPortText (host : ByteString) (port : UInt16) : ByteString :=
  host ++ ofString ":" ++ (portText port).bytes

/-- `m_client_addr.substr(0, m_client_addr.rfind(':'))`. -/
def clientIp (s : Session) : ByteString :=
  match rfind 58 s.clientAddr.bytes with
  | some i => s.clientAddr.bytes.take i
  | none => s.clientAddr.bytes

/-- An error reply, in the protocol the client speaks, after which the session is closed. -/
def failWith (socksCode : UInt8) (reason : Text) : SessionM Unit := do
  let c ← get
  if c.self.isHttp then post (.write httpBadGateway (.closing reason))
  else post (.write (socksReply socksCode) (.closing reason))

/-! ## Starting -/

def doHandshake : SessionM Unit := post (.read .handshake)

/-- The answers `start` turns a client away for. -/
def isRejection : AdmitResult → Bool
  | .accepted | .queued => false
  | _ => true

/-- The rest of `start` once the request for admission has been answered. A queued session goes on
like an accepted one. -/
def onAdmission (env : Environment) (response : AdmitResponse) : SessionM Unit := do
  let c ← get
  if isRejection response.result then do
    modifyGateway fun g ↦ { g with overload := g.overload.decTotalConnections }
    log (ofString "Rejected: " ++ response.reason.bytes ++ ofString " from "
      ++ c.self.clientAddr.bytes)
    closeSession env response.reason
  else do
    if response.result = .queued then
      log (ofString "Queued: position=" ++ toDecimal response.queuePosition ++ ofString " from "
        ++ c.self.clientAddr.bytes)
    else pure ()
    modifySelf fun s ↦ { s with admitted := true }
    modifyGateway fun g ↦ { g with
      registry := g.registry.registerConnection env.now c.self.sessionId.bytes
        c.self.clientAddr.bytes []
      metrics := g.metrics.incActiveConnections.incTotalConnections }
    log (ofString "New connection from " ++ c.self.clientAddr.bytes)
    doHandshake

/-- The request `start` makes: no callbacks, no name, and not a reconnection. -/
def admitRequest (env : Environment) (s : Session) (ip : AsciiText) : QueuedConnection :=
  ⟨s.sessionId.bytes, [], ip.bytes, env.now, none, none, false⟩

/-- `start` from `inc_total_connections` on. -/
def requestAdmission (env : Environment) (ip : AsciiText) : SessionM Unit := do
  modifyGateway fun g ↦ { g with overload := g.overload.incTotalConnections }
  let c ← get
  let answer := c.gateway.admitter.requestAdmit c.gateway.limiter
    (c.gateway.overload.isOverloaded env.usage) (admitRequest env c.self ip)
  modifyGateway fun g ↦ { g with admitter := answer.2.1, limiter := answer.2.2 }
  call (.requestAdmit answer.1.result)
  onAdmission env answer.1

/-- `session::start`, told what `remote_endpoint` returns; it throws for a socket that is no longer
connected. -/
def start (env : Environment) (remote : Option Endpoint) : SessionM Unit :=
  match remote with
  | none => throw .systemError
  | some ep => do
    let ip := ep.address.text env.v6Text
    modifySelf fun s ↦ { s with
      clientAddr := ip ++ .lit ":" ++ portText ep.port
      startTime := env.time }
    let c ← get
    if c.gateway.overload.isOverloaded env.usage then do
      log (ofString "Rejected: system overloaded from " ++ c.self.clientAddr.bytes)
      closeSession env (.lit "system overloaded")
    else do
      let answer := c.gateway.limiter.checkConnectionRate env.now ip.bytes
      modifyGateway fun g ↦ { g with limiter := answer.2 }
      if answer.1 then requestAdmission env ip
      else do
        log (ofString "Rejected: rate limited from " ++ c.self.clientAddr.bytes)
        closeSession env (.lit "rate limited")

/-! ## The route -/

def doResolve : SessionM Unit := do
  serve .resolve
  let c ← get
  post (.resolveDirect c.self.targetHost)

def doConnectViaV2rayn : SessionM Unit := do
  serve .connectViaV2rayn
  post .resolveV2rayn

/-- The choice of a node for a session that goes through v2ray. -/
def chooseNode (env : Environment) (host : ByteString) (result : RouteResult) : SessionM Unit := do
  serve .selectNode
  let c ← get
  match env.selectNode c.self.clientIp with
  | some sched =>
    modifySelf fun s ↦ { s with selectedNodeTag := sched.nodeTag }
    modifyGateway fun g ↦ { g with
      balancer := g.balancer.incNodeConnections sched.nodeTag.bytes }
    log (ofString "Route: PROXY(v2rayN) " ++ host ++ ofString " node=" ++ sched.nodeTag.bytes
      ++ ofString " strategy=" ++ sched.strategyUsed.bytes ++ ofString " affinity="
      ++ toDecimal sched.fromAffinity.toNat ++ ofString " match=" ++ result.matchType
      ++ ofString " rule=" ++ result.ruleId)
  | none =>
    log (ofString "Route: PROXY(v2rayN) no available node for " ++ host ++ ofString " match="
      ++ result.matchType)

/-- `session::do_route_decision`. -/
def doRouteDecision (env : Environment) : SessionM Unit := do
  let c ← get
  serve (.routeDecision c.self.targetHost c.self.targetPort)
  let result := env.router.decide env.isChina c.self.targetHost c.self.resolvedIp
  match result.action with
  | .direct =>
    modifySelf fun s ↦ { s with routeAction := .direct }
    log (ofString "Route: DIRECT " ++ c.self.targetHost ++ ofString " match=" ++ result.matchType
      ++ ofString " rule=" ++ result.ruleId)
    doResolve
  | .proxy =>
    modifySelf fun s ↦ { s with routeAction := .proxy }
    chooseNode env c.self.targetHost result
    doConnectViaV2rayn

/-! ## HTTP CONNECT -/

/-- What `do_http_auth` and `do_auth` do after a successful login. -/
def noteLogin (env : Environment) (username : ByteString) : SessionM Unit := do
  let c ← get
  modifyGateway fun g ↦ { g with
    registry := g.registry.updateState env.now c.self.sessionId.bytes .handshaking
    concurrency := g.concurrency.incUserConnections username }

/-- `rate_limiter::record_auth_failure` for the address of the client. -/
def noteFailedLogin (env : Environment) : SessionM Unit := do
  let c ← get
  modifyGateway fun g ↦ { g with limiter := g.limiter.recordAuthFailure env.now c.self.clientIp }

/-- `session::do_http_auth`. -/
def doHttpAuth (env : Environment) : SessionM Unit := do
  let c ← get
  let username := c.self.httpUsername
  let authenticated ← MonadExcept.ofExcept
    (env.users.authenticate env.lib env.config env.time username c.self.httpPassword)
  call (.authenticate username c.self.httpPassword authenticated)
  if authenticated then do
    log (ofString "HTTP auth success user=" ++ username)
    modifySelf fun s ↦ { s with httpPassword := [] }
    noteLogin env username
    doRouteDecision env
  else do
    noteFailedLogin env
    log (ofString "HTTP auth failed user=" ++ username)
    post (.write httpProxyAuthRequired (.closing (.lit "auth failed")))

/-- `session::handle_http_connect`. -/
def handleHttpConnect (env : Environment) (length : ℕ) : SessionM Unit := do
  let c ← get
  let sv := c.self.clientBuffer.read 0 length
  match parseAuthority sv with
  | none => post (.write httpBadRequest (.closing (.lit "bad request")))
  | some (host, portStr) => do
    let port ← MonadExcept.ofExcept (parsePort portStr)
    let credentials := parseCredentials sv
    modifySelf fun s ↦ { s with
      targetHost := host
      targetPort := port
      httpUsername := credentials.1
      httpPassword := credentials.2 }
    if credentials.1 = [] ∧ credentials.2 = [] then do
      log (ofString "HTTP CONNECT no auth " ++ hostPortText host port)
      post (.write httpProxyAuthRequired (.closing (.lit "no auth")))
    else do
      modifySelf fun s ↦ { s with username := credentials.1 }
      log (ofString "HTTP CONNECT " ++ hostPortText host port ++ ofString " user="
        ++ credentials.1)
      doHttpAuth env

/-! ## SOCKS5 -/

/-- `session::handle_socks5_handshake`. -/
def handleSocks5Handshake (env : Environment) (length : ℕ) : SessionM Unit := do
  let c ← get
  match parseGreeting c.self.clientBuffer length with
  | .invalid => do
    log (ofString "Invalid handshake from " ++ c.self.clientAddr.bytes)
    closeSession env (.lit "invalid handshake")
  | .incomplete => post (.read .handshakeAgain)
  | .methods true => post (.write [socksVersion, authUserpass] (.methodReply true))
  | .methods false => do
    log (ofString "Client no auth support from " ++ c.self.clientAddr.bytes)
    post (.write [socksVersion, authNoAcceptable] (.methodReply false))

def doAuth : SessionM Unit := post (.read .auth)

/-- The handler of the read in `do_auth`. -/
def onAuthRead (env : Environment) (length : ℕ) : SessionM Unit := do
  let c ← get
  match parseLogin c.self.clientBuffer length with
  | .invalid => closeSession env (.lit "invalid auth")
  | .incomplete => post (.read .authAgain)
  | .credentials username password => do
    let authenticated ← MonadExcept.ofExcept
      (env.users.authenticate env.lib env.config env.time username password)
    call (.authenticate username password authenticated)
    if authenticated then do
      modifySelf fun s ↦ { s with username := username }
      noteLogin env username
      log (ofString "SOCKS5 auth success user=" ++ username)
      post (.write [0x01, 0x00] (.authReply true))
    else do
      noteFailedLogin env
      log (ofString "SOCKS5 auth failed user=" ++ username)
      post (.write [0x01, 0x01] (.authReply false))

def doRequest : SessionM Unit := post (.read .request)

/-- The handler of the read in `do_request`. -/
def onRequestRead (env : Environment) (length : ℕ) : SessionM Unit := do
  let c ← get
  match parseRequest env.v6Text c.self.clientBuffer length with
  | .invalid => closeSession env (.lit "invalid request")
  | .unsupportedCommand => post (.write (socksReply 0x07) (.closing (.lit "unsupported command")))
  | .incomplete => post (.read .requestAgain)
  | .unknownAddressType =>
    post (.write (socksReply 0x08) (.closing (.lit "unknown address type")))
  | .target host port => do
    modifySelf fun s ↦ { s with targetHost := host, targetPort := port }
    log (ofString "SOCKS5 CONNECT " ++ hostPortText host port ++ ofString " user="
      ++ c.self.username)
    doRouteDecision env

/-- The handler of the read in `do_handshake`. -/
def onHandshakeRead (env : Environment) (length : ℕ) : SessionM Unit := do
  let c ← get
  if isHttpConnect c.self.clientBuffer length then do
    modifySelf fun s ↦ { s with isHttp := true }
    handleHttpConnect env length
  else handleSocks5Handshake env length

/-! ## The relay -/

def doReadClient : SessionM Unit := post (.read .relayClient)

def doReadRemote : SessionM Unit := post (.read .relayRemote)

def doStream : SessionM Unit := do
  serve .stream
  doReadClient
  doReadRemote

/-- `do_write_remote`. The buffer is not touched again before the write completes, so the bytes are
taken out of it here. -/
def doWriteRemote (length : ℕ) : SessionM Unit := do
  let c ← get
  post (.write (c.self.clientBuffer.read 0 length) .relayRemote)

/-- `do_write_client`. -/
def doWriteClient (length : ℕ) : SessionM Unit := do
  let c ← get
  post (.write (c.self.remoteBuffer.read 0 length) .relayClient)

def onRelayClientRead (env : Environment) (length : ℕ) : SessionM Unit := do
  modifySelf fun s ↦ { s with bytesUp := s.bytesUp + length }
  let c ← get
  modifyGateway fun g ↦ { g with registry := g.registry.markActive env.now c.self.sessionId.bytes }
  doWriteRemote length

def onRelayRemoteRead (env : Environment) (length : ℕ) : SessionM Unit := do
  modifySelf fun s ↦ { s with bytesDown := s.bytesDown + length }
  let c ← get
  modifyGateway fun g ↦ { g with registry := g.registry.markActive env.now c.self.sessionId.bytes }
  doWriteClient length

/-! ## Direct connections -/

/-- `address::to_v4`. -/
def toV4 : IpAddress → Except CxxException ByteString
  | .v4 b0 b1 b2 b3 => .ok [b0, b1, b2, b3]
  | .v6 _ => .error .badAddressCast

/-- The success reply. In SOCKS5 it carries the local address of the remote socket. -/
def replyEstablished : SessionM Unit := do
  let c ← get
  if c.self.isHttp then post (.write httpEstablished (.tunnelReply (.lit "200 write error")))
  else do
    let boundBytes ← MonadExcept.ofExcept (toV4 c.self.localEndpoint.address)
    let boundPort := c.self.localEndpoint.port
    post (.write
      ([socksVersion, 0x00, 0x00, atypIpv4] ++ boundBytes
        ++ [(boundPort >>> 8).toUInt8, boundPort.toUInt8])
      (.tunnelReply (.lit "socks5 reply error")))

def doConnectDirect : SessionM Unit := do
  serve .connectDirect
  post .connectDirect

/-- The handler of `async_resolve` in `do_resolve`. -/
def onResolved (env : Environment) (results : List Endpoint) : SessionM Unit := do
  match results with
  | [] => pure ()
  | ep :: _ => modifySelf fun s ↦ { s with resolvedIp := (ep.address.text env.v6Text).bytes }
  doConnectDirect

def onResolveFailed (host : ByteString) (message : Text) : SessionM Unit := do
  log (ofString "DNS failed: " ++ host ++ ofString " - " ++ message.bytes)
  failWith 0x04 (.lit "dns failed")

/-- The handler of `async_connect` in `do_connect_direct`. -/
def onDirectConnected (env : Environment) (endpoint localEndpoint : Endpoint) : SessionM Unit := do
  modifySelf fun s ↦ { s with tunnelActive := true, localEndpoint := localEndpoint }
  let c ← get
  modifyGateway fun g ↦ { g with
    registry := g.registry.updateState env.now c.self.sessionId.bytes .active }
  log (ofString "Direct tunnel -> " ++ hostPortText c.self.targetHost c.self.targetPort
    ++ ofString " remote=" ++ (endpoint.address.text env.v6Text).bytes ++ ofString ":"
    ++ (portText endpoint.port).bytes)
  replyEstablished

def onDirectConnectFailed (message : Text) : SessionM Unit := do
  let c ← get
  log (ofString "Direct connect failed: " ++ c.self.targetHost ++ ofString " - " ++ message.bytes)
  failWith 0x05 (.lit "connect failed")

/-! ## Connections through v2ray -/

/-- `session::do_socks5_client_handshake`, which the handler of `async_connect` in
`do_connect_via_v2rayn` calls. -/
def doSocks5ClientHandshake (localEndpoint : Endpoint) : SessionM Unit := do
  modifySelf fun s ↦ { s with localEndpoint := localEndpoint }
  let c ← get
  post (.write [socksVersion, 0x01, authNone]
    (.v2raynGreeting c.self.targetHost c.self.targetPort))

def onV2raynConnectFailed (message : Text) : SessionM Unit := do
  log (ofString "v2rayN connect failed: " ++ message.bytes)
  failWith 0x05 (.lit "v2rayn connect failed")

/-- The CONNECT request for v2ray; the length byte is the length of the host cut down to eight
bits. -/
def v2raynRequest (host : ByteString) (port : UInt16) : ByteString :=
  [socksVersion, cmdConnect, 0x00, atypDomain, host.length.toUInt8] ++ host
    ++ [(port >>> 8).toUInt8, port.toUInt8]

/-- The handler of the read of the method reply. -/
def onV2raynGreetingRead (env : Environment) (host : ByteString) (port : UInt16) (length : ℕ) :
    SessionM Unit := do
  let c ← get
  if length < 2 then closeSession env (.lit "v2rayn socks5 greeting read error")
  else if c.self.remoteBuffer.byte 0 ≠ socksVersion ∨ c.self.remoteBuffer.byte 1 ≠ authNone then
    closeSession env (.lit "v2rayn socks5 auth rejected")
  else post (.write (v2raynRequest host port) .v2raynConnect)

/-- The handler of the read of the reply to the request. -/
def onV2raynConnectRead (env : Environment) (length : ℕ) : SessionM Unit := do
  let c ← get
  if length < 2 then closeSession env (.lit "v2rayn socks5 connect read error")
  else if c.self.remoteBuffer.byte 1 ≠ 0x00 then
    closeSession env (.lit "v2rayn socks5 connect rejected")
  else do
    modifySelf fun s ↦ { s with tunnelActive := true }
    modifyGateway fun g ↦ { g with
      registry := g.registry.updateState env.now c.self.sessionId.bytes .active }
    if c.self.selectedNodeTag.bytes ≠ [] then
      modifyGateway fun g ↦ { g with
        registry := g.registry.updateNode c.self.sessionId.bytes c.self.selectedNodeTag.bytes }
    else pure ()
    log (ofString "v2rayN tunnel -> " ++ hostPortText c.self.targetHost c.self.targetPort)
    replyEstablished

end Session

end LanProxyGateway
