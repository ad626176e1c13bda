import LanProxyGateway.ProxyCore.Handlers
import LanProxyGateway.Foundation.Run

/-!
# Sessions running side by side

The state of the proxy is the singletons and the sessions that have been started, in the order of
their arrival; a session stays in the list when it is closed. A step either starts a session or
completes one pending operation of one session, in any order: two relay chains of one session, and
different sessions, interleave freely. A completion that does not fit the operation is not a step of
the system and changes nothing.

A handler is one step, from the completion that calls it to its end. `server_app::start` runs
`io_context::run` on `proxy_thread_count` threads, without a strand for each session, so with more
than one thread the handlers of the two relay chains of a session may overlap, and both may then
find the tunnel active in `close_session`. Runs of this system are those in which handlers run one
at a time, as they all do with one thread; before the relay a session has one pending operation, so
its own handlers never overlap.

An operation on a socket that has been closed may still complete either way, since the completion
can have been under way when the socket was closed.
-/

open Foundation ByteString

namespace LanProxyGateway

/-- How an operation ends. -/
inductive Completion
  | received (chunk : Chunk)
  | written
  | resolved (results : List Endpoint)
  | connected (endpoint localEndpoint : Endpoint)
  /-- An error, with its message and the number of bytes a write got across before. -/
  | failed (message : Text) (transferred : ℕ)

namespace Session

open SessionM

/-! ## From completions to handlers -/

/-- Why a session is closed when a read fails. -/
def readFailure : ReadHandler → Text
  | .handshake => .lit "handshake error"
  | .handshakeAgain => .lit "handshake read error"
  | .auth | .authAgain => .lit "auth read error"
  | .request | .requestAgain => .lit "request read error"
  | .v2raynGreeting _ _ => .lit "v2rayn socks5 greeting read error"
  | .v2raynConnect => .lit "v2rayn socks5 connect read error"
  | .relayClient => .lit "client disconnect"
  | .relayRemote => .lit "remote disconnect"

/-- The handler of a successful read. -/
def onRead (env : Environment) (length : ℕ) : ReadHandler → SessionM Unit
  | .handshake => onHandshakeRead env length
  | .handshakeAgain => handleSocks5Handshake env length
  | .auth => onAuthRead env length
  | .authAgain => doAuth
  | .request => onRequestRead env length
  | .requestAgain => doRequest
  | .v2raynGreeting host port => onV2raynGreetingRead env host port length
  | .v2raynConnect => onV2raynConnectRead env length
  | .relayClient => onRelayClientRead env length
  | .relayRemote => onRelayRemoteRead env length

/-- The handler of a successful write. -/
def onWritten (env : Environment) : WriteHandler → SessionM Unit
  | .methodReply supportAuth =>
    if supportAuth then doAuth else closeSession env (.lit "auth not supported")
  | .authReply authenticated =>
    if authenticated then doRequest else closeSession env (.lit "auth failed")
  | .closing reason => closeSession env reason
  | .tunnelReply _ => doStream
  | .v2raynGreeting host port => post (.read (.v2raynGreeting host port))
  | .v2raynConnect => post (.read .v2raynConnect)
  | .relayRemote => doReadClient
  | .relayClient => doReadRemote

/-- The handler of a failed write. Two of them do nothing, and the session ends without having been
closed. -/
def onWriteFailed (env : Environment) : WriteHandler → SessionM Unit
  | .methodReply _ => pure ()
  | .authReply authenticated =>
    if authenticated then pure () else closeSession env (.lit "auth failed")
  | .closing reason => closeSession env reason
  | .tunnelReply failure => closeSession env failure
  | .v2raynGreeting _ _ => closeSession env (.lit "v2rayn socks5 greeting write error")
  | .v2raynConnect => closeSession env (.lit "v2rayn socks5 connect write error")
  | .relayRemote => closeSession env (.lit "remote write error")
  | .relayClient => closeSession env (.lit "client write error")

/-- Bytes arrive in the buffer of a socket. -/
def receive (side : Side) (bytes : ByteString) : SessionM Unit := do
  match side with
  | .client => modifySelf fun s ↦ { s with clientBuffer := s.clientBuffer.store bytes }
  | .remote => modifySelf fun s ↦ { s with remoteBuffer := s.remoteBuffer.store bytes }
  call (.received side bytes)

/-- The program that runs when an operation completes, if the completion fits it. An IPv4 connection
has an IPv4 address at its local end, and the connection to `127.0.0.1` is one. -/
def dispatch (env : Environment) : Pending → Completion → Option (SessionM Unit)
  | .read h, .received chunk => some do
    receive h.side chunk.bytes
    onRead env chunk.bytes.length h
  | .read h, .failed _ _ => some (closeSession env (readFailure h))
  | .write data h, .written => some do
    call (.sent h.side data)
    onWritten env h
  | .write data h, .failed _ transferred => some do
    call (.sent h.side (data.take transferred))
    call (.writeFailed h.side)
    onWriteFailed env h
  | .resolveDirect _, .resolved results => some (onResolved env results)
  | .resolveDirect host, .failed message _ => some (onResolveFailed host message)
  | .connectDirect, .connected endpoint localEndpoint =>
    if endpoint.address.isV4 = localEndpoint.address.isV4 then
      some (onDirectConnected env endpoint localEndpoint)
    else none
  | .connectDirect, .failed message _ => some (onDirectConnectFailed message)
  | .resolveV2rayn, .resolved _ => some (post .connectV2rayn)
  | .resolveV2rayn, .failed _ _ => some (closeSession env (.lit "v2rayn resolve failed"))
  | .connectV2rayn, .connected _ localEndpoint =>
    if localEndpoint.address.isV4 then some (doSocks5ClientHandshake localEndpoint) else none
  | .connectV2rayn, .failed message _ => some (onV2raynConnectFailed message)
  | _, _ => none

end Session

/-! ## The steps of the system -/

structure World where
  gateway : Gateway := {}
  sessions : List Session := []

/-- A client that connects: the id drawn for its session, the uninitialised buffers, and what
`remote_endpoint` returns. -/
structure Arrival where
  sessionId : AsciiText
  clientBuffer : Buffer
  remoteBuffer : Buffer
  remote : Option Endpoint

/-- The session of an arrival before `start`. -/
def Arrival.session (a : Arrival) : Session where
  clientBuffer := a.clientBuffer
  remoteBuffer := a.remoteBuffer
  sessionId := a.sessionId

inductive Event
  | start (env : Environment) (a : Arrival)
  /-- The `k`-th pending operation of the `i`-th session completes. -/
  | complete (i k : ℕ) (completion : Completion) (env : Environment)

namespace World

/-- The program that a completion runs and the session it runs on, without the operation that
completed. -/
def handler (w : World) (i k : ℕ) (completion : Completion) (env : Environment) :
    Option (Session × SessionM Unit) := do
  let s ← w.sessions[i]?
  let p ← s.pending[k]?
  let m ← Session.dispatch env p completion
  some ({ s with pending := s.pending.eraseIdx k }, m)

/-- One step. -/
def step (w : World) : Event → Except CxxException World
  | .start env a =>
    (Session.start env a.remote ⟨a.session, w.gateway⟩).map fun r ↦
      ⟨r.2.gateway, w.sessions ++ [r.2.self]⟩
  | .complete i k completion env =>
    match w.handler i k completion env with
    | none => .ok w
    | some (s, m) => (m ⟨s, w.gateway⟩).map fun r ↦ ⟨r.2.gateway, w.sessions.set i r.2.self⟩

/-- What a step that does not throw can be: nothing, a start, or the run of a handler. -/
theorem step_cases {w t : World} {e : Event} (h : w.step e = .ok t) :
    t = w ∨
      (∃ env a c, e = .start env a ∧ Session.start env a.remote ⟨a.session, w.gateway⟩ =
        .ok ((), c) ∧
        t = ⟨c.gateway, w.sessions ++ [c.self]⟩) ∨
      ∃ i k completion env s p m c, e = .complete i k completion env ∧ w.sessions[i]? = some s ∧
        s.pending[k]? = some p ∧ Session.dispatch env p completion = some m ∧
        m ⟨{ s with pending := s.pending.eraseIdx k }, w.gateway⟩ = .ok ((), c) ∧
        t = ⟨c.gateway, w.sessions.set i c.self⟩ := by
  cases e with
  | start env a =>
    rw [step] at h
    rcases hr : Session.start env a.remote ⟨a.session, w.gateway⟩ with x | ⟨⟨⟩, c⟩
    · rw [hr] at h
      cases h
    · rw [hr] at h
      cases h
      exact .inr (.inl ⟨env, a, c, rfl, hr, rfl⟩)
  | complete i k completion env =>
    rw [step, handler] at h
    rcases hs : w.sessions[i]? with _ | s
    · rw [hs] at h
      cases h
      exact .inl rfl
    rcases hp : s.pending[k]? with _ | p
    · simp only [hs, hp, Option.bind_eq_bind, Option.bind_some, Option.bind_none] at h
      cases h
      exact .inl rfl
    rcases hm : Session.dispatch env p completion with _ | m
    · simp only [hs, hp, hm, Option.bind_eq_bind, Option.bind_some, Option.bind_none] at h
      cases h
      exact .inl rfl
    simp only [hs, hp, hm, Option.bind_eq_bind, Option.bind_some] at h
    rcases hr : m ⟨{ s with pending := s.pending.eraseIdx k }, w.gateway⟩ with x | ⟨⟨⟩, c⟩
    · rw [hr] at h
      cases h
    · rw [hr] at h
      cases h
      exact .inr (.inr ⟨i, k, completion, env, s, p, m, c, rfl, hs, hp, hm, hr, rfl⟩)

end World

end LanProxyGateway
