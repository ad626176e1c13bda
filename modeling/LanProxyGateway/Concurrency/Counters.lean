import LanProxyGateway.Foundation.Text
import Mathlib.Data.List.AList

/-!
# The connection counters

Four singletons count connections. `overload_protector` and `metrics_collector` hold plain numbers,
`load_balancer` a number per node tag, `concurrency_metrics` a record per node and per user next to
two totals. Every decrement stops at zero, in one of three ways: by a compare-and-swap loop, by
erasing the entry, or by a test in front of the `--`. A decrement too many therefore never shows as
a negative number; it shows as a number that is too small from then on.

The limits that `init` sets are fields next to the counters. Fields no modelled function reads (the
percentages of file descriptors and memory, byte totals per node) are left out; the outcome of the
two percentage tests is what `overload_protector::check` reads from `/proc`, a `SystemUsage`.
-/

open Foundation

namespace LanProxyGateway

/-- The compare-and-swap loop of the three `dec_…` functions: one less, but never below zero. -/
def decrementClamped (n : Int) : Int := if 0 < n then n - 1 else n

theorem decrementClamped_of_pos {n : Int} (h : 0 < n) : decrementClamped n = n - 1 := if_pos h

/-! ## overload_protector -/

/-- What `check` finds in `/proc`: whether file descriptors and memory are above their
thresholds. -/
structure SystemUsage where
  fdExceeded : Bool
  memExceeded : Bool
  deriving DecidableEq, Repr

structure OverloadProtector where
  maxTotalConnections : Int := 4000
  totalConnections : Int := 0

namespace OverloadProtector

/-- `overload_protector::is_overloaded`: the connection limit first, then `/proc`. -/
def isOverloaded (o : OverloadProtector) (u : SystemUsage) : Bool :=
  if o.maxTotalConnections ≤ o.totalConnections then true else u.fdExceeded || u.memExceeded

def incTotalConnections (o : OverloadProtector) : OverloadProtector :=
  { o with totalConnections := o.totalConnections + 1 }

def decTotalConnections (o : OverloadProtector) : OverloadProtector :=
  { o with totalConnections := decrementClamped o.totalConnections }

end OverloadProtector

/-! ## metrics_collector -/

structure MetricsCollector where
  activeConnections : Int := 0
  totalConnections : Int := 0
  directBytesUp : ℕ := 0
  directBytesDown : ℕ := 0
  proxyBytesUp : ℕ := 0
  proxyBytesDown : ℕ := 0

namespace MetricsCollector

def incActiveConnections (m : MetricsCollector) : MetricsCollector :=
  { m with activeConnections := m.activeConnections + 1 }

def decActiveConnections (m : MetricsCollector) : MetricsCollector :=
  { m with activeConnections := decrementClamped m.activeConnections }

def incTotalConnections (m : MetricsCollector) : MetricsCollector :=
  { m with totalConnections := m.totalConnections + 1 }

def addDirectBytes (m : MetricsCollector) (up down : ℕ) : MetricsCollector :=
  { m with directBytesUp := m.directBytesUp + up, directBytesDown := m.directBytesDown + down }

def addProxyBytes (m : MetricsCollector) (up down : ℕ) : MetricsCollector :=
  { m with proxyBytesUp := m.proxyBytesUp + up, proxyBytesDown := m.proxyBytesDown + down }

end MetricsCollector

/-! ## The connection counts of load_balancer -/

/-- What `select_node` answers with. -/
structure ScheduleResult where
  nodeTag : Text
  strategyUsed : Text
  fromAffinity : Bool
  deriving DecidableEq

structure LoadBalancer where
  nodeConnections : AList fun _ : ByteString ↦ Int := ∅

namespace LoadBalancer

def incNodeConnections (b : LoadBalancer) (tag : ByteString) : LoadBalancer :=
  match b.nodeConnections.lookup tag with
  | some n => { b with nodeConnections := b.nodeConnections.insert tag (n + 1) }
  | none => { b with nodeConnections := b.nodeConnections.insert tag 1 }

/-- `fetch_sub` hands back the value before: an entry that held one or less goes. -/
def decNodeConnections (b : LoadBalancer) (tag : ByteString) : LoadBalancer :=
  match b.nodeConnections.lookup tag with
  | some n =>
    if n ≤ 1 then { b with nodeConnections := b.nodeConnections.erase tag }
    else { b with nodeConnections := b.nodeConnections.insert tag (n - 1) }
  | none => b

def getNodeConnections (b : LoadBalancer) (tag : ByteString) : Int :=
  (b.nodeConnections.lookup tag).getD 0

end LoadBalancer

/-! ## concurrency_metrics -/

/-- The two counts in `node_metrics` and in `user_metrics`. -/
structure ConnectionCounts where
  activeConnections : Int := 0
  totalConnections : Int := 0
  deriving DecidableEq, Repr

structure ConcurrencyMetrics where
  nodeMetrics : AList fun _ : ByteString ↦ ConnectionCounts := ∅
  userMetrics : AList fun _ : ByteString ↦ ConnectionCounts := ∅
  activeConnections : Int := 0
  totalConnections : Int := 0

namespace ConcurrencyMetrics

/-- `auto& m = map[key]; m.active++; m.total++`. -/
def countIn (m : AList fun _ : ByteString ↦ ConnectionCounts) (key : ByteString) :
    AList fun _ : ByteString ↦ ConnectionCounts :=
  let c := (m.lookup key).getD {}
  m.insert key ⟨c.activeConnections + 1, c.totalConnections + 1⟩

/-- `if (it != end && it->second.active > 0) it->second.active--`. -/
def countOut (m : AList fun _ : ByteString ↦ ConnectionCounts) (key : ByteString) :
    AList fun _ : ByteString ↦ ConnectionCounts :=
  match m.lookup key with
  | some c => if 0 < c.activeConnections
      then m.insert key { c with activeConnections := c.activeConnections - 1 } else m
  | none => m

def incNodeConnections (m : ConcurrencyMetrics) (tag : ByteString) : ConcurrencyMetrics :=
  { m with nodeMetrics := countIn m.nodeMetrics tag }

def decNodeConnections (m : ConcurrencyMetrics) (tag : ByteString) : ConcurrencyMetrics :=
  { m with nodeMetrics := countOut m.nodeMetrics tag }

def incUserConnections (m : ConcurrencyMetrics) (username : ByteString) : ConcurrencyMetrics :=
  { m with
    userMetrics := countIn m.userMetrics username
    activeConnections := m.activeConnections + 1
    totalConnections := m.totalConnections + 1 }

def decUserConnections (m : ConcurrencyMetrics) (username : ByteString) : ConcurrencyMetrics :=
  { m with
    userMetrics := countOut m.userMetrics username
    activeConnections := decrementClamped m.activeConnections }

end ConcurrencyMetrics

end LanProxyGateway
