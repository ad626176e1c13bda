import LanProxyGateway.Concurrency.Counters

/-!
# Admission: the rate limiter, the admitter and its queue

`rate_limiter` keeps, per client address, a one-second window of connections and a sixty-second
window of failed logins. `connection_admitter` asks it, then the overload protector, then compares
the count of the user name it is given and the total count with their limits; a connection above the
total limit is queued. Releasing a connection gives its slots back and admits from the front of the
queue as long as there is room.

The clock is `steady_clock` in nanoseconds. A callback is known by a number; what calling it does is
the caller's business, so the functions that admit or expire queue entries return those entries.
-/

open Foundation

namespace LanProxyGateway

/-- A `steady_clock` time point or duration, in nanoseconds. -/
abbrev SteadyTime := Int

/-- `duration_cast<seconds>(d).count()`. -/
def wholeSeconds (d : SteadyTime) : Int := d.tdiv 1000000000

/-! ## rate_limiter -/

structure IpRateInfo where
  connCount : Int := 0
  connWindowStart : SteadyTime := 0
  authFailCount : Int := 0
  authWindowStart : SteadyTime := 0
  bannedUntil : SteadyTime := 0
  deriving DecidableEq, Repr

structure RateLimiter where
  maxConnPerIpPerSec : Int := 10
  maxAuthFailsPerMin : Int := 5
  banDurationSec : Int := 60
  rates : AList fun _ : ByteString ↦ IpRateInfo := ∅

namespace RateLimiter

def checkConnectionRate (r : RateLimiter) (now : SteadyTime) (clientIp : ByteString) :
    Bool × RateLimiter :=
  match r.rates.lookup clientIp with
  | none => (true, { r with
      rates := r.rates.insert clientIp { connCount := 1, connWindowStart := now } })
  | some info =>
    if 1 ≤ wholeSeconds (now - info.connWindowStart) then
      (true, { r with
        rates := r.rates.insert clientIp { info with connCount := 1, connWindowStart := now } })
    else
      (decide (info.connCount + 1 ≤ r.maxConnPerIpPerSec), { r with
        rates := r.rates.insert clientIp { info with connCount := info.connCount + 1 } })

def checkAuthRate (r : RateLimiter) (now : SteadyTime) (clientIp : ByteString) : Bool :=
  match r.rates.lookup clientIp with
  | none => true
  | some info =>
    if now < info.bannedUntil then false
    else if 60 ≤ wholeSeconds (now - info.authWindowStart) then true
    else decide (info.authFailCount < r.maxAuthFailsPerMin)

/-- A first failure of an address only opens its window; it is never compared with the limit. -/
def recordAuthFailure (r : RateLimiter) (now : SteadyTime) (clientIp : ByteString) : RateLimiter :=
  match r.rates.lookup clientIp with
  | none => { r with
      rates := r.rates.insert clientIp { authFailCount := 1, authWindowStart := now } }
  | some info =>
    let info :=
      if 60 ≤ wholeSeconds (now - info.authWindowStart)
      then { info with authFailCount := 1, authWindowStart := now }
      else { info with authFailCount := info.authFailCount + 1 }
    let info :=
      if r.maxAuthFailsPerMin ≤ info.authFailCount
      then { info with bannedUntil := now + r.banDurationSec * 1000000000 } else info
    { r with rates := r.rates.insert clientIp info }

end RateLimiter

/-! ## connection_admitter -/

inductive AdmitResult
  | accepted
  | queued
  | rejectedTotal
  | rejectedUser
  | rejectedRate
  | rejectedBanned
  | rejectedOverload
  deriving DecidableEq, Repr

structure AdmitResponse where
  result : AdmitResult
  reason : Text
  queuePosition : ℕ
  deriving DecidableEq

/-- A `std::function` handed to the queue, known by a number. -/
abbrev Callback := ℕ

structure QueuedConnection where
  sessionId : ByteString
  username : ByteString
  clientIp : ByteString
  enqueueTime : SteadyTime
  onAdmit : Option Callback
  onTimeout : Option Callback
  isReconnect : Bool
  deriving DecidableEq, Repr

structure ConnectionAdmitter where
  maxConnections : Int := 4000
  maxConnectionsPerUser : Int := 50
  queueEnabled : Bool := true
  maxQueueSize : Int := 200
  queueTimeoutSeconds : Int := 60
  activeConnections : Int := 0
  userConnections : AList fun _ : ByteString ↦ Int := ∅
  queue : List QueuedConnection := []

namespace ConnectionAdmitter

/-- The user limit is tested on an existing entry only. -/
def userLimitReached (a : ConnectionAdmitter) (username : ByteString) : Bool :=
  match a.userConnections.lookup username with
  | some n => decide (a.maxConnectionsPerUser ≤ n)
  | none => false

/-- `m_active_connections.fetch_add(1); m_user_connections[username]++`. -/
def takeSlot (a : ConnectionAdmitter) (username : ByteString) : ConnectionAdmitter :=
  { a with
    activeConnections := a.activeConnections + 1
    userConnections := a.userConnections.insert username
      ((a.userConnections.lookup username).getD 0 + 1) }

/-- A reconnecting request goes behind the reconnecting ones at the front. -/
def enqueue (a : ConnectionAdmitter) (q : QueuedConnection) : ConnectionAdmitter :=
  if q.isReconnect then
    { a with queue := a.queue.takeWhile (·.isReconnect) ++ q :: a.queue.dropWhile (·.isReconnect) }
  else { a with queue := a.queue ++ [q] }

/-- `connection_admitter::request_admit`, once the rate limiter and the overload protector have been
asked. -/
def requestSlot (a : ConnectionAdmitter) (q : QueuedConnection) :
    AdmitResponse × ConnectionAdmitter :=
  if a.userLimitReached q.username then (⟨.rejectedUser, Text.lit "user_limit_reached", 0⟩, a)
  else if a.maxConnections ≤ a.activeConnections then
    if !a.queueEnabled then (⟨.rejectedTotal, Text.lit "total_limit_reached", 0⟩, a)
    else if a.maxQueueSize ≤ a.queue.length then (⟨.rejectedTotal, Text.lit "queue_full", 0⟩, a)
    else (⟨.queued, Text.lit "queued", (a.enqueue q).queue.length⟩, a.enqueue q)
  else (⟨.accepted, Text.lit "accepted", 0⟩, a.takeSlot q.username)

/-- `connection_admitter::request_admit`. The request becomes a queue entry only on the branch that
queues it; before that `q` just carries the arguments and the time. -/
def requestAdmit (a : ConnectionAdmitter) (limiter : RateLimiter) (overloaded : Bool)
    (q : QueuedConnection) : AdmitResponse × ConnectionAdmitter × RateLimiter :=
  let (ok, limiter) := limiter.checkConnectionRate q.enqueueTime q.clientIp
  if !ok then (⟨.rejectedRate, Text.lit "rate_limited", 0⟩, a, limiter)
  else if !limiter.checkAuthRate q.enqueueTime q.clientIp then
    (⟨.rejectedBanned, Text.lit "ip_banned", 0⟩, a, limiter)
  else if overloaded then (⟨.rejectedOverload, Text.lit "system_overloaded", 0⟩, a, limiter)
  else ((a.requestSlot q).1, (a.requestSlot q).2, limiter)

/-- The loop of `dequeue_connections`: admit from the front while there is room. -/
def admitFromQueue : List QueuedConnection → ConnectionAdmitter →
    List QueuedConnection × ConnectionAdmitter
  | [], a => ([], { a with queue := [] })
  | q :: qs, a =>
    if a.activeConnections < a.maxConnections then
      let (admitted, a) := admitFromQueue qs (a.takeSlot q.username)
      (q :: admitted, a)
    else ([], { a with queue := q :: qs })

/-- Whether `check_queue_timeouts` takes an entry out. -/
def hasTimedOut (a : ConnectionAdmitter) (now : SteadyTime) (q : QueuedConnection) : Bool :=
  decide (a.queueTimeoutSeconds ≤ wholeSeconds (now - q.enqueueTime))

def checkQueueTimeouts (a : ConnectionAdmitter) (now : SteadyTime) :
    List QueuedConnection × ConnectionAdmitter :=
  (a.queue.filter (a.hasTimedOut now),
    { a with queue := a.queue.filter fun q ↦ !a.hasTimedOut now q })

/-- `connection_admitter::dequeue_connections`: the entries admitted, those timed out, and the
admitter afterwards. -/
def dequeueConnections (a : ConnectionAdmitter) (now : SteadyTime) :
    List QueuedConnection × List QueuedConnection × ConnectionAdmitter :=
  let (admitted, a) := admitFromQueue a.queue a
  let (expired, a) := a.checkQueueTimeouts now
  (admitted, expired, a)

/-- The per-user part of `release_connection`: an unknown name is ignored. -/
def releaseUser (a : ConnectionAdmitter) (username : ByteString) : ConnectionAdmitter :=
  match a.userConnections.lookup username with
  | some n =>
    if n - 1 ≤ 0 then { a with userConnections := a.userConnections.erase username }
    else { a with userConnections := a.userConnections.insert username (n - 1) }
  | none => a

/-- The slots `release_connection` gives back, before it turns to the queue. -/
def releaseSlot (a : ConnectionAdmitter) (username : ByteString) : ConnectionAdmitter :=
  { a with activeConnections := decrementClamped a.activeConnections }.releaseUser username

/-- `connection_admitter::release_connection`. -/
def releaseConnection (a : ConnectionAdmitter) (now : SteadyTime) (username : ByteString) :
    List QueuedConnection × List QueuedConnection × ConnectionAdmitter :=
  (a.releaseSlot username).dequeueConnections now

def getUserConnections (a : ConnectionAdmitter) (username : ByteString) : Int :=
  (a.userConnections.lookup username).getD 0

end ConnectionAdmitter

end LanProxyGateway
