import LanProxyGateway.Concurrency.Admission
import LanProxyGateway.Foundation.Json

/-!
# The health of the nodes

`node_health_checker` keeps for each tag what the last probes of it have found. It keeps tags, and
knows of no nodes: a tag that was never probed counts as available, and an entry stays when the node
with its tag goes.

A probe begins by asking for the node and ends, some seconds later, by writing down what it found.
Only the second half is an operation of the checker (`recordProbe`).
-/

open Foundation

namespace LanProxyGateway

inductive NodeHealthStatus
  | available
  | unavailable
  | unstable
  deriving DecidableEq, Repr

structure NodeHealthInfo where
  tag : ByteString := []
  status : NodeHealthStatus := .available
  latencyMs : Int := 0
  consecutiveFailures : Int := 0
  lastCheck : SteadyTime := 0
  totalChecks : Int := 0
  failedChecks : Int := 0
  deriving DecidableEq

structure NodeHealthChecker where
  failureThreshold : Int := 3
  health : AList fun _ : ByteString ↦ NodeHealthInfo := ∅

namespace NodeHealthInfo

/-- What the end of a probe makes of an entry. A success forgives all failures in a row, and one of
all failures. -/
def probed (failureThreshold : Int) (now : SteadyTime) (success : Bool) (elapsedMs : Int)
    (info : NodeHealthInfo) : NodeHealthInfo :=
  let info := { info with lastCheck := now, totalChecks := Json.castInt (info.totalChecks + 1) }
  if success then
    let info := { info with
      latencyMs := Json.castInt elapsedMs
      consecutiveFailures := 0
      failedChecks := max 0 (info.failedChecks - 1) }
    if info.consecutiveFailures < failureThreshold then { info with status := .available }
    else info
  else
    let info := { info with
      consecutiveFailures := Json.castInt (info.consecutiveFailures + 1)
      failedChecks := Json.castInt (info.failedChecks + 1) }
    if failureThreshold ≤ info.consecutiveFailures then { info with status := .unavailable }
    else if 0 < info.consecutiveFailures then { info with status := .unstable }
    else info

/-- The count of failures in a row can grow. -/
def HasRoom (info : NodeHealthInfo) : Prop := info.consecutiveFailures < 2147483647

theorem HasRoom.le_castInt {info : NodeHealthInfo} (h : info.HasRoom) :
    info.consecutiveFailures ≤ Json.castInt (info.consecutiveFailures + 1) := by
  rw [HasRoom] at h
  rw [Json.castInt, Int.bmod_def]
  omega

/-- An entry that is unavailable has failed as often as it takes, after a probe as before it. -/
theorem counted_probed {failureThreshold : Int} {now : SteadyTime} {success : Bool}
    {elapsedMs : Int} {info : NodeHealthInfo}
    (h : info.status = .unavailable → failureThreshold ≤ info.consecutiveFailures)
    (hroom : success = false → info.status = .unavailable → info.HasRoom) :
    (info.probed failureThreshold now success elapsedMs).status = .unavailable →
      failureThreshold ≤ (info.probed failureThreshold now success elapsedMs).consecutiveFailures :=
    by
  rcases success with _ | _
  · simp only [probed, Bool.false_eq_true, if_false]
    -- only the first branch marks the tag; the last one leaves the status as it was
    split_ifs with hmany hsome
    · exact fun _ ↦ hmany
    · intro hstatus
      cases hstatus
    · exact fun hstatus ↦ (h hstatus).trans (hroom rfl hstatus).le_castInt
  · simp only [probed, if_true]
    split_ifs with hfew
    · intro hstatus
      cases hstatus
    · exact fun _ ↦ not_lt.mp hfew

/-- An entry with failures enough stays unavailable when there is one more. -/
theorem status_probed_of_unavailable {failureThreshold : Int} {now : SteadyTime} {elapsedMs : Int}
    {info : NodeHealthInfo} (h : failureThreshold ≤ info.consecutiveFailures)
    (hroom : info.HasRoom) :
    (info.probed failureThreshold now false elapsedMs).status = .unavailable := by
  simp only [probed, Bool.false_eq_true, if_false]
  rw [if_pos (h.trans hroom.le_castInt)]

end NodeHealthInfo

namespace NodeHealthChecker

/-- `node_health_checker::get_info`. -/
def getInfo (h : NodeHealthChecker) (tag : ByteString) : NodeHealthInfo :=
  (h.health.lookup tag).getD {}

/-- `node_health_checker::get_status`. -/
def getStatus (h : NodeHealthChecker) (tag : ByteString) : NodeHealthStatus :=
  match h.health.lookup tag with
  | none => .available
  | some info => info.status

/-- `node_health_checker::get_latency_ms`. -/
def getLatencyMs (h : NodeHealthChecker) (tag : ByteString) : Int :=
  match h.health.lookup tag with
  | none => 0
  | some info => info.latencyMs

/-- `auto& info = m_health[tag]; info.tag = tag; …`. -/
def modifyInfo (h : NodeHealthChecker) (tag : ByteString) (f : NodeHealthInfo → NodeHealthInfo) :
    NodeHealthChecker :=
  { h with health := h.health.insert tag (f { h.getInfo tag with tag := tag }) }

/-- The end of `node_health_checker::do_probe`. -/
def recordProbe (h : NodeHealthChecker) (tag : ByteString) (now : SteadyTime) (success : Bool)
    (elapsedMs : Int) : NodeHealthChecker :=
  h.modifyInfo tag (.probed h.failureThreshold now success elapsedMs)

/-- `node_health_checker::mark_unavailable`. -/
def markUnavailable (h : NodeHealthChecker) (tag : ByteString) : NodeHealthChecker :=
  h.modifyInfo tag fun info ↦
    { info with status := .unavailable, consecutiveFailures := h.failureThreshold }

/-! ## What is known of a tag -/

variable {h : NodeHealthChecker} {tag tag' : ByteString}

theorem getStatus_eq (h : NodeHealthChecker) (tag : ByteString) :
    h.getStatus tag = (h.getInfo tag).status := by
  rw [getStatus, getInfo]
  rcases h.health.lookup tag with _ | info <;> rfl

@[simp] theorem getInfo_modifyInfo (f : NodeHealthInfo → NodeHealthInfo) :
    (h.modifyInfo tag f).getInfo tag = f { h.getInfo tag with tag := tag } := by
  rw [getInfo, modifyInfo, AList.lookup_insert, Option.getD_some]

theorem getInfo_modifyInfo_ne (hne : tag' ≠ tag) (f : NodeHealthInfo → NodeHealthInfo) :
    (h.modifyInfo tag f).getInfo tag' = h.getInfo tag' := by
  rw [getInfo, modifyInfo, AList.lookup_insert_ne hne, getInfo]

/-! ## Staying unavailable -/

/-- Whatever is unavailable has failed often enough to be. -/
def Counted (h : NodeHealthChecker) : Prop :=
  ∀ tag, h.getStatus tag = .unavailable → h.failureThreshold ≤ (h.getInfo tag).consecutiveFailures

/-- An entry is changed into one that is counted. -/
theorem Counted.modifyInfo (hc : h.Counted) {f : NodeHealthInfo → NodeHealthInfo}
    (hf : (f { h.getInfo tag with tag := tag }).status = .unavailable →
      h.failureThreshold ≤ (f { h.getInfo tag with tag := tag }).consecutiveFailures) :
    (h.modifyInfo tag f).Counted := by
  intro tag' hstatus
  rw [getStatus_eq] at hstatus
  by_cases hne : tag' = tag
  · subst hne
    rw [getInfo_modifyInfo] at hstatus ⊢
    exact hf hstatus
  · rw [getInfo_modifyInfo_ne hne] at hstatus ⊢
    exact hc tag' ((getStatus_eq h tag').trans hstatus)

theorem Counted.markUnavailable (hc : h.Counted) (tag : ByteString) :
    (h.markUnavailable tag).Counted :=
  hc.modifyInfo fun _ ↦ le_rfl

@[simp] theorem getStatus_markUnavailable (h : NodeHealthChecker) (tag : ByteString) :
    (h.markUnavailable tag).getStatus tag = .unavailable := by
  rw [getStatus_eq, NodeHealthChecker.markUnavailable, getInfo_modifyInfo]

/-- A tag that is marked stays marked when another one is. -/
theorem unavailable_markUnavailable (hu : h.getStatus tag = .unavailable) (tag' : ByteString) :
    (h.markUnavailable tag').getStatus tag = .unavailable := by
  by_cases hne : tag = tag'
  · rw [hne, getStatus_markUnavailable]
  · rw [getStatus_eq] at hu ⊢
    rw [NodeHealthChecker.markUnavailable, getInfo_modifyInfo_ne hne, hu]

theorem Counted.recordProbe (hc : h.Counted) (now : SteadyTime) {success : Bool}
    (hroom : success = false → h.getStatus tag = .unavailable → (h.getInfo tag).HasRoom)
    (elapsedMs : Int) : (h.recordProbe tag now success elapsedMs).Counted := by
  have hbefore := hc tag
  rw [getStatus_eq] at hbefore hroom
  exact hc.modifyInfo (NodeHealthInfo.counted_probed hbefore hroom)

/-- A failed probe leaves a tag unavailable. -/
theorem Counted.unavailable_recordProbe (hc : h.Counted) (hu : h.getStatus tag = .unavailable)
    (hroom : (h.getInfo tag).HasRoom) (now : SteadyTime) (elapsedMs : Int) :
    (h.recordProbe tag now false elapsedMs).getStatus tag = .unavailable := by
  have hbefore := hc tag hu
  rw [getStatus_eq, NodeHealthChecker.recordProbe, getInfo_modifyInfo]
  exact NodeHealthInfo.status_probed_of_unavailable hbefore hroom

/-- Without a threshold a success makes nothing available. -/
theorem getStatus_recordProbe_of_nonpos (hthreshold : h.failureThreshold ≤ 0) (now : SteadyTime)
    (elapsedMs : Int) :
    (h.recordProbe tag now true elapsedMs).getStatus tag = h.getStatus tag := by
  rw [getStatus_eq, getStatus_eq, NodeHealthChecker.recordProbe, getInfo_modifyInfo]
  simp only [NodeHealthInfo.probed, if_true]
  rw [if_neg (not_lt.mpr hthreshold)]

theorem getStatus_recordProbe_ne (hne : tag' ≠ tag) (now : SteadyTime) (success : Bool)
    (elapsedMs : Int) :
    (h.recordProbe tag now success elapsedMs).getStatus tag' = h.getStatus tag' := by
  rw [getStatus_eq, getStatus_eq, recordProbe, getInfo_modifyInfo_ne hne]

end NodeHealthChecker

end LanProxyGateway
