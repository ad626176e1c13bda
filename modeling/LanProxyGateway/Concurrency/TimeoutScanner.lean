import LanProxyGateway.Concurrency.ConnectionRegistry

/-!
# The timeout scanner

`timeout_scanner` asks the registry for the records that may have timed out and then looks at each
of them, with the one time it took after it had the list. A record whose limit is over is reported
to the callback, by the id in it. The list is a copy: what happens to the sessions in the meantime
does not change it.
-/

open Foundation ByteString

namespace LanProxyGateway

/-- `connection_registry::get_timeout_candidates`, in some order. An idle record that is old as well
is in the list twice. -/
def ConnectionRegistry.getTimeoutCandidates (r : ConnectionRegistry) (now : SteadyTime) :
    List ConnectionRecord :=
  r.connections.entries.flatMap fun entry ↦
    let record := entry.2
    (if record.state = .authenticating ∨ record.state = .handshaking ∨
      record.state = .idle then [record]
      else []) ++
    (if (record.state = .active ∨ record.state = .idle) ∧
        28800 < wholeSeconds (now - record.admitTime) then [record] else [])

structure TimeoutScanner where
  authTimeoutSec : Int := 30
  handshakeTimeoutSec : Int := 15
  idleTimeoutSec : Int := 300
  maxLifetimeSec : Int := 28800

namespace TimeoutScanner

/-- The reason to close a session that one round of the loop in `scan_loop` arrives at, if any. -/
def verdict (t : TimeoutScanner) (now : SteadyTime) (record : ConnectionRecord) : Option Text :=
  let age := wholeSeconds (now - record.admitTime)
  let reason := match record.state with
    | .authenticating => if t.authTimeoutSec ≤ age then some (Text.lit "auth_timeout") else none
    | .handshaking =>
      if t.handshakeTimeoutSec ≤ age then some (Text.lit "handshake_timeout") else none
    | .idle =>
      if record.exemptIdle = false ∧ t.idleTimeoutSec ≤ wholeSeconds (now - record.idleSince) then
        some (Text.lit "idle_timeout")
      else none
    | _ => none
  if (record.state = .active ∨ record.state = .idle) ∧ t.maxLifetimeSec ≤ age then
    some (.lit "max_lifetime")
  else reason

end TimeoutScanner

/-- The callback that `main` installs, which does no more than this, whatever the reason. -/
def timeoutCallback (r : ConnectionRegistry) (sessionId : ByteString) : ConnectionRegistry :=
  r.unregisterConnection sessionId

end LanProxyGateway
