import LanProxyGateway.Concurrency.Counters
import LanProxyGateway.Foundation.BoundedLog
import LanProxyGateway.Foundation.Run

/-!
# The history of the counters

`concurrency_metrics` takes a snapshot of its counters once a minute and keeps the last 1440 of
them. `get_history` returns those of the last minutes. The clock never goes back, so they are the
last snapshots of these minutes (`getHistory_eq`); and where any two are more than a minute apart,
as the loop that takes them sees to, none of the last day is missing (`history_complete`).
-/

open Foundation

namespace LanProxyGateway

structure HistorySnapshot where
  /-- Nanoseconds of the steady clock. -/
  timestamp : Int
  activeConnections : Int
  queuedConnections : Int
  nodeConnections : AList fun _ : ByteString ↦ Int

def maxHistory : ℕ := 1440

/-- `concurrency_metrics` with its history, and the clock. -/
structure MetricsHistory where
  now : Int := 0
  metrics : ConcurrencyMetrics := {}
  queuedConnections : Int := 0
  history : BoundedLog HistorySnapshot maxHistory := {}
  /-- All snapshots that have been taken. -/
  taken : List HistorySnapshot := []

namespace MetricsHistory

inductive Event
  | incNodeConnections (tag : ByteString)
  | decNodeConnections (tag : ByteString)
  | incUserConnections (username : ByteString)
  | decUserConnections (username : ByteString)
  | setQueuedCount (count : Int)
  | recordHistorySnapshot

def snapshot (m : MetricsHistory) : HistorySnapshot where
  timestamp := m.now
  activeConnections := m.metrics.activeConnections
  queuedConnections := m.queuedConnections
  nodeConnections := ⟨m.metrics.nodeMetrics.entries.map fun e ↦ ⟨e.1, e.2.activeConnections⟩, by
    have hnodup := m.metrics.nodeMetrics.nodupKeys
    rw [List.NodupKeys, List.keys, List.map_map]
    exact hnodup⟩

/-- `concurrency_metrics::record_history_snapshot`. -/
def recordHistorySnapshot (m : MetricsHistory) : MetricsHistory :=
  { m with history := m.history.push m.snapshot, taken := m.taken ++ [m.snapshot] }

@[simp] theorem now_recordHistorySnapshot (m : MetricsHistory) :
    m.recordHistorySnapshot.now = m.now := by
  rw [recordHistorySnapshot]

@[simp] theorem taken_recordHistorySnapshot (m : MetricsHistory) :
    m.recordHistorySnapshot.taken = m.taken ++ [m.snapshot] := by
  rw [recordHistorySnapshot]

@[simp] theorem entries_recordHistorySnapshot (m : MetricsHistory) :
    m.recordHistorySnapshot.history.entries =
      (m.history.entries ++ [m.snapshot]).rtake maxHistory := by
  rw [recordHistorySnapshot, BoundedLog.entries_push]

def handle (m : MetricsHistory) : Event → MetricsHistory
  | .incNodeConnections tag => { m with metrics := m.metrics.incNodeConnections tag }
  | .decNodeConnections tag => { m with metrics := m.metrics.decNodeConnections tag }
  | .incUserConnections username => { m with metrics := m.metrics.incUserConnections username }
  | .decUserConnections username => { m with metrics := m.metrics.decUserConnections username }
  | .setQueuedCount count => { m with queuedConnections := count }
  | .recordHistorySnapshot => m.recordHistorySnapshot

/-- An event some nanoseconds after the last. -/
def step (m : MetricsHistory) (e : ℕ × Event) : Except Empty MetricsHistory :=
  .ok ({ m with now := m.now + e.1 }.handle e.2)

/-- `steady_clock::now() - minutes(n)`. -/
def cutoff (m : MetricsHistory) (minutes : Int) : Int := m.now - minutes * 60000000000

/-- The snapshot is not from before the cutoff. -/
def isSince (m : MetricsHistory) (minutes : Int) (s : HistorySnapshot) : Bool :=
  decide (m.cutoff minutes ≤ s.timestamp)

/-- `concurrency_metrics::get_history`. -/
def getHistory (m : MetricsHistory) (minutes : Int) : List HistorySnapshot :=
  m.history.entries.filter (m.isSince minutes)

/-! ## What is in the history -/

/-- The history is the end of what has been taken, in the order of the clock. -/
structure Chronicle (m : MetricsHistory) : Prop where
  entries : m.history.entries = m.taken.rtake maxHistory
  ordered : m.taken.Pairwise fun a b ↦ a.timestamp ≤ b.timestamp
  past : ∀ s ∈ m.taken, s.timestamp ≤ m.now

theorem chronicle_start : Chronicle {} := ⟨(List.rtake_nil _).symm, .nil, nofun⟩

theorem Chronicle.tick {m : MetricsHistory} (h : Chronicle m) (d : ℕ) :
    Chronicle { m with now := m.now + d } where
  entries := h.entries
  ordered := h.ordered
  past s hs := by
    have hpast := h.past s hs
    show s.timestamp ≤ m.now + d
    omega

theorem Chronicle.record {m : MetricsHistory} (h : Chronicle m) :
    Chronicle m.recordHistorySnapshot where
  entries := by
    rw [entries_recordHistorySnapshot, h.entries, rtake_rtake_append, taken_recordHistorySnapshot]
  ordered := by
    rw [taken_recordHistorySnapshot]
    refine List.pairwise_append.mpr ⟨h.ordered, List.pairwise_singleton _ _, fun s hs b hb ↦ ?_⟩
    rw [List.mem_singleton.mp hb]
    exact h.past s hs
  past s hs := by
    rw [taken_recordHistorySnapshot] at hs
    rw [now_recordHistorySnapshot]
    rcases List.mem_append.mp hs with hs | hs
    · exact h.past s hs
    · rw [List.mem_singleton.mp hs, snapshot]

theorem Chronicle.step {m t : MetricsHistory} {e : ℕ × Event} (h : Chronicle m)
    (ht : m.step e = .ok t) : Chronicle t := by
  obtain rfl := Except.ok.inj ht
  have htick := h.tick e.1
  cases e.2 with
  | recordHistorySnapshot => exact htick.record
  | incNodeConnections tag => exact ⟨htick.entries, htick.ordered, htick.past⟩
  | decNodeConnections tag => exact ⟨htick.entries, htick.ordered, htick.past⟩
  | incUserConnections username => exact ⟨htick.entries, htick.ordered, htick.past⟩
  | decUserConnections username => exact ⟨htick.entries, htick.ordered, htick.past⟩
  | setQueuedCount count => exact ⟨htick.entries, htick.ordered, htick.past⟩

theorem chronicle {m : MetricsHistory} (h : Reachable MetricsHistory.step {} m) : Chronicle m :=
  h.induction chronicle_start fun _ _ _ hm ht ↦ hm.step ht

/-- The history of some minutes is the end of what has been taken in them. -/
theorem getHistory_eq {m : MetricsHistory} (h : Reachable MetricsHistory.step {} m)
    (minutes : Int) :
    m.getHistory minutes = (m.taken.filter (m.isSince minutes)).rtake maxHistory := by
  have hm := chronicle h
  rw [getHistory, hm.entries]
  refine filter_rtake (hm.ordered.imp fun {a b} hab ha ↦ ?_) maxHistory
  rw [isSince, decide_eq_true_iff] at ha ⊢
  exact ha.trans hab

/-! ## A day of history -/

/-- A snapshot is taken more than a minute after the one before it. -/
def Unhurried (m : MetricsHistory) (e : ℕ × Event) : Prop :=
  e.2 = .recordHistorySnapshot → ∀ s ∈ m.taken, s.timestamp + 60000000000 < m.now + e.1

/-- More than a minute lies between any two. -/
def Spaced (l : List HistorySnapshot) : Prop :=
  l.Pairwise fun a b ↦ a.timestamp + 60000000000 < b.timestamp

theorem spaced_step {m t : MetricsHistory} {e : ℕ × Event} (h : Spaced m.taken)
    (hslow : Unhurried m e) (ht : m.step e = .ok t) : Spaced t.taken := by
  obtain rfl := Except.ok.inj ht
  obtain ⟨d, e⟩ := e
  cases e with
  | recordHistorySnapshot =>
    rw [handle, taken_recordHistorySnapshot]
    refine List.pairwise_append.mpr ⟨h, List.pairwise_singleton _ _, fun s hs b hb ↦ ?_⟩
    rw [List.mem_singleton.mp hb]
    exact hslow rfl s hs
  | incNodeConnections tag => exact h
  | decNodeConnections tag => exact h
  | incUserConnections username => exact h
  | decUserConnections username => exact h
  | setQueuedCount count => exact h

/-- As many as there are minutes fit between two times that far apart. -/
theorem length_mul_lt_of_spaced {l : List HistorySnapshot} {first last : Int}
    (h : Spaced l) (hfirst : ∀ s ∈ l, first ≤ s.timestamp) (hlast : ∀ s ∈ l, s.timestamp ≤ last)
    (hle : first ≤ last) : (l.length : Int) * 60000000001 ≤ last - first + 60000000001 := by
  induction l generalizing first with
  | nil =>
    rw [List.length_nil]
    omega
  | cons s l ih =>
    obtain ⟨hhead, htail⟩ := List.pairwise_cons.mp h
    rw [List.forall_mem_cons] at hfirst hlast
    rw [List.length_cons, Nat.cast_succ]
    rcases lt_or_ge last (s.timestamp + 60000000001) with hshort | hlong
    · have hnil : l = [] := by
        rw [List.eq_nil_iff_forall_not_mem]
        intro b hb
        have hafter := hhead b hb
        have hbefore := hlast.2 b hb
        omega
      rw [hnil, List.length_nil]
      omega
    · have hnext : ∀ b ∈ l, s.timestamp + 60000000001 ≤ b.timestamp := by
        intro b hb
        have hafter := hhead b hb
        omega
      have hrest := ih htail hnext hlast.2 hlong
      omega

/-- **A day of history.** Where the snapshots are more than a minute apart, the history of the last
minutes, up to a day, is everything that has been taken in them. -/
theorem history_complete {es : List (ℕ × Event)} {m : MetricsHistory}
    (hslow : Along MetricsHistory.step Unhurried {} es) (hm : run MetricsHistory.step {} es = .ok m)
    {minutes : Int} (hpos : 0 ≤ minutes) (hday : minutes ≤ 1440) :
    m.getHistory minutes = m.taken.filter (m.isSince minutes) := by
  have hspaced : Spaced m.taken := run_induction (I := fun m ↦ Spaced m.taken)
    (fun m e t h hC ht ↦ spaced_step h hC ht) (by exact List.Pairwise.nil) hslow hm
  have hchronicle := chronicle ⟨es, hm⟩
  rw [getHistory_eq ⟨es, hm⟩]
  refine rtake_eq_self ?_
  have hcount := length_mul_lt_of_spaced (l := m.taken.filter (m.isSince minutes))
    (hspaced.sublist List.filter_sublist)
    (fun s hs ↦ of_decide_eq_true (List.mem_filter.mp hs).2)
    (fun s hs ↦ hchronicle.past s (List.mem_filter.mp hs).1)
    (show m.cutoff minutes ≤ m.now by rw [cutoff]; omega)
  rw [cutoff] at hcount
  have hbound : (m.taken.filter (m.isSince minutes)).length ≤ 1440 := by omega
  exact hbound

/-- Two snapshots, of which one is from the last minute. -/
def twoSnapshots : List (ℕ × Event) :=
  [(0, .recordHistorySnapshot), (61000000000, .recordHistorySnapshot)]

theorem unhurried_twoSnapshots : Along MetricsHistory.step Unhurried {} twoSnapshots := by
  refine ⟨fun _ s hs ↦ absurd hs List.not_mem_nil, fun t ht ↦ ⟨fun _ s hs ↦ ?_, fun _ _ ↦ trivial⟩⟩
  obtain rfl := Except.ok.inj ht
  rw [handle, taken_recordHistorySnapshot, List.nil_append, List.mem_singleton] at hs
  rw [hs, handle, now_recordHistorySnapshot, snapshot]
  decide

theorem twoSnapshots_history : ∃ m, run MetricsHistory.step {} twoSnapshots = .ok m ∧
    (m.getHistory 1).map (·.timestamp) = [61000000000] := by
  have hrun : (run MetricsHistory.step {} twoSnapshots).toOption.map
      (fun m ↦ (m.taken.filter (m.isSince 1)).map (·.timestamp)) = some [61000000000] := by
    decide +kernel
  obtain ⟨m, hm, hobs⟩ := exists_run_of_observation hrun
  refine ⟨m, hm, ?_⟩
  rw [history_complete unhurried_twoSnapshots hm (by decide) (by decide)]
  exact hobs

end MetricsHistory

end LanProxyGateway
