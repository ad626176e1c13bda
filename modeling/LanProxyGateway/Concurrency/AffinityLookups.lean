import LanProxyGateway.Concurrency.AffinityInvariant
import LanProxyGateway.Foundation.Recency

/-!
# What a client's lookup finds

The list and the index of the affinity table are there to remember the clients that were sent
somewhere last. `RecentClients` says just that, with a recency list and nothing else; as long as
nothing is cleaned up, the table finds what it finds (`lookup_eq_recent`).
-/

open Foundation

namespace LanProxyGateway

/-- The clients that were sent to a node, the latest first. -/
structure RecentClients where
  timeoutSec : Int
  maxRecords : Int
  records : List AffinityRecord := []

namespace RecentClients

def update (r : RecentClients) (now : SteadyTime) (clientIp nodeTag : ByteString) :
    RecentClients :=
  let record : AffinityRecord := ⟨clientIp, nodeTag, now⟩
  { r with records := Recency.touch (·.clientIp) r.maxRecords.toNat record r.records }

def invalidate (r : RecentClients) (clientIp : ByteString) : RecentClients :=
  { r with records := Recency.forget (·.clientIp) clientIp r.records }

def invalidateNode (r : RecentClients) (nodeTag : ByteString) : RecentClients :=
  { r with records := r.records.filter (·.nodeTag ≠ nodeTag) }

def clear (r : RecentClients) : RecentClients := { r with records := [] }

/-- The node a client was sent to, not longer ago than the timeout. -/
def lookup (r : RecentClients) (now : SteadyTime) (clientIp : ByteString) : Option ByteString :=
  (Recency.find? (·.clientIp) clientIp r.records).bind fun record ↦
    if wholeSeconds (now - record.lastAccess) ≤ r.timeoutSec then some record.nodeTag else none

/-- An operation. Nothing is ever cleaned up here. -/
def apply (r : RecentClients) (now : SteadyTime) : IpAffinityTable.Op → RecentClients
  | .update clientIp nodeTag => r.update now clientIp nodeTag
  | .invalidate clientIp => r.invalidate clientIp
  | .invalidateNode nodeTag => r.invalidateNode nodeTag
  | .clear => r.clear
  | .lookup _ | .cleanupExpired => r

theorem maxRecords_apply (r : RecentClients) (now : SteadyTime) (op : IpAffinityTable.Op) :
    (r.apply now op).maxRecords = r.maxRecords := by
  cases op <;> rfl

/-- An operation some nanoseconds after the last. -/
def step (s : SteadyTime × RecentClients) (e : ℕ × IpAffinityTable.Op) :
    SteadyTime × RecentClients :=
  (s.1 + e.1, s.2.apply (s.1 + e.1) e.2)

end RecentClients

namespace IpAffinityTable

/-- What a table remembers, without the iterators. -/
def recent (t : IpAffinityTable) : RecentClients where
  timeoutSec := t.timeoutSec
  maxRecords := t.maxRecords
  records := t.lru.map (·.toAffinityRecord)

variable {now : SteadyTime} {t u : IpAffinityTable} {ip : ByteString} {it : Iterator}

theorem map_clientIp_recent (t : IpAffinityTable) :
    t.recent.records.map (·.clientIp) = t.lru.map (·.clientIp) := List.map_map

/-- An address that is not in the index is not remembered. -/
theorem Kept.not_mem_recent (h : Kept now t) (hlookup : t.index.lookup ip = none) :
    ip ∉ t.recent.records.map (·.clientIp) := by
  rw [map_clientIp_recent]
  exact h.lookup_eq_none_iff.mp hlookup

/-- To leave out the node of an address is to leave out the record. -/
theorem Kept.records_erase (h : Kept now t) (hlookup : t.index.lookup ip = some it) :
    (t.lru.filter (·.iterator ≠ it)).map (·.toAffinityRecord) =
      Recency.forget (·.clientIp) ip t.recent.records := by
  obtain ⟨node, hnode, rfl, rfl, -⟩ := h.deref hlookup
  have hsame : ∀ n ∈ t.lru, decide (n.iterator ≠ node.iterator) =
      decide (n.clientIp ≠ node.clientIp) := by
    intro n hn
    refine decide_eq_decide.mpr (not_congr ⟨fun heq ↦ ?_, fun heq ↦ ?_⟩)
    · rw [List.inj_on_of_nodup_map h.iterators hn hnode heq]
    · rw [List.inj_on_of_nodup_map h.addresses hn hnode heq]
  rw [List.filter_congr hsame, Recency.forget, recent, List.filter_map]
  rfl

/-! ## The operations -/

theorem Kept.recent_update_known (h : Kept now t) (hlookup : t.index.lookup ip = some it)
    {nodeTag : ByteString} (hu : t.update now ip nodeTag = .ok u) :
    u.recent = t.recent.update now ip nodeTag := by
  obtain ⟨node, hnode, rfl, rfl, hderef⟩ := h.deref hlookup
  simp only [IpAffinityTable.update, hlookup, hderef] at hu
  obtain rfl := Except.ok.inj hu
  have hmem : node.clientIp ∈ t.recent.records.map (·.clientIp) := by
    rw [map_clientIp_recent]
    exact List.mem_map_of_mem hnode
  have hfits : t.recent.records.length ≤ t.recent.maxRecords.toNat := by
    have hle := h.length_le
    have hpos := List.length_pos_of_mem hnode
    have hlength : t.recent.records.length = t.lru.length := List.length_map _
    have hmax : t.recent.maxRecords = t.maxRecords := rfl
    omega
  have htouch := Recency.touch_of_mem (⟨node.clientIp, nodeTag, now⟩ : AffinityRecord) hmem hfits
  rw [RecentClients.update, htouch, ← h.records_erase hlookup]
  rfl

theorem Kept.recent_update_unknown (h : Kept now t) (hlookup : t.index.lookup ip = none)
    (hmax : 0 < t.maxRecords) {nodeTag : ByteString} (hu : t.update now ip nodeTag = .ok u) :
    u.recent = t.recent.update now ip nodeTag := by
  obtain ⟨gone, kept, hsplit, hlt, hleast, hevict⟩ := exists_evict_eq hmax t.lru.reverse t.index
  simp only [IpAffinityTable.update, hlookup, hevict] at hu
  obtain rfl := Except.ok.inj hu
  have hlru : t.lru = kept.reverse ++ gone.reverse := by
    rw [← List.reverse_append, ← hsplit, List.reverse_reverse]
  -- nobody is evicted, or one less stays than there is room for
  have htake : kept.reverse = t.lru.take (t.maxRecords.toNat - 1) := by
    rw [hlru]
    rcases hleast with rfl | hleast
    · rw [List.reverse_nil, List.append_nil, List.take_of_length_le]
      rw [List.length_reverse]
      omega
    · refine (List.take_left' ?_).symm
      rw [List.length_reverse]
      omega
  have hpos : 0 < t.recent.maxRecords.toNat := Int.pos_iff_toNat_pos.mp hmax
  have htouch := Recency.touch_of_not_mem (⟨ip, nodeTag, now⟩ : AffinityRecord)
    (h.not_mem_recent hlookup) hpos
  rw [RecentClients.update, htouch]
  simp only [recent, List.map_cons, htake, List.map_take]

theorem Kept.recent_invalidate (h : Kept now t) (hu : t.invalidate ip = .ok u) :
    u.recent = t.recent.invalidate ip := by
  rw [IpAffinityTable.invalidate] at hu
  rcases hlookup : t.index.lookup ip with _ | it
  · rw [hlookup] at hu
    obtain rfl := Except.ok.inj hu
    rw [RecentClients.invalidate, Recency.forget_of_not_mem (h.not_mem_recent hlookup)]
  · obtain ⟨node, -, -, -, hderef⟩ := h.deref hlookup
    simp only [hlookup, hderef] at hu
    obtain rfl := Except.ok.inj hu
    rw [RecentClients.invalidate, ← h.records_erase hlookup]
    rfl

theorem recent_invalidateNode (t : IpAffinityTable) (nodeTag : ByteString) :
    (t.invalidateNode nodeTag).recent = t.recent.invalidateNode nodeTag := by
  rw [RecentClients.invalidateNode, recent, recent, List.filter_map]
  rfl

/-- **A lookup finds what is remembered.** -/
theorem Kept.lookup_eq (h : Kept now t) (ip : ByteString) :
    t.lookup now ip = .ok (t.recent.lookup now ip) := by
  rw [IpAffinityTable.lookup, RecentClients.lookup]
  rcases hlookup : t.index.lookup ip with _ | it
  · rw [Recency.find?_eq_none (h.not_mem_recent hlookup)]
    rfl
  · obtain ⟨node, hnode, rfl, rfl, hderef⟩ := h.deref hlookup
    have hnodup : (t.recent.records.map (·.clientIp)).Nodup := by
      rw [map_clientIp_recent]
      exact h.addresses
    have hmem : node.toAffinityRecord ∈ t.recent.records := List.mem_map_of_mem hnode
    have hfound := Recency.find?_eq_some hnodup hmem
    rw [hfound]
    simp only [hderef, Except.map, Option.bind_some]
    have hiff : t.isExpired now node.toAffinityRecord = true ↔
        ¬wholeSeconds (now - node.lastAccess) ≤ t.recent.timeoutSec := by
      rw [isExpired, decide_eq_true_eq, not_le]
      rfl
    rw [if_congr hiff rfl rfl, ite_not]

/-! ## Runs -/

variable {s : Timed} {e : ℕ × Op}

/-- An operation other than a cleanup, of a table for one record at least. -/
theorem Kept.step_recent (h : Kept s.now s.table) (hmax : 0 < s.table.maxRecords)
    (he : e.2 ≠ .cleanupExpired) : ∃ u, IpAffinityTable.step s e = .ok u ∧ Kept u.now u.table ∧
      (u.now, u.table.recent) = RecentClients.step (s.now, s.table.recent) e := by
  obtain ⟨d, op⟩ := e
  have hlater : Kept (s.now + d) s.table :=
    h.mono (Int.le_add_of_nonneg_right (Int.natCast_nonneg d))
  have hharmless : Harmless s (d, op) := by
    cases op with
    | cleanupExpired => exact absurd rfl he
    | update clientIp nodeTag => exact fun _ ↦ hmax
    | _ => trivial
  obtain ⟨u, hu, hkept⟩ := h.step hharmless
  refine ⟨u, hu, hkept, ?_⟩
  obtain ⟨t, ht, rfl⟩ := exists_of_map_eq_ok hu
  refine Prod.ext rfl ?_
  show t.recent = s.table.recent.apply (s.now + d) op
  cases op with
  | cleanupExpired => exact absurd rfl he
  | update clientIp nodeTag =>
    rcases hlookup : s.table.index.lookup clientIp with _ | it
    · exact hlater.recent_update_unknown hlookup hmax ht
    · exact hlater.recent_update_known hlookup ht
  | lookup clientIp =>
    obtain ⟨_, -, rfl⟩ := exists_of_map_eq_ok ht
    rfl
  | invalidate clientIp => exact hlater.recent_invalidate ht
  | invalidateNode nodeTag =>
    obtain rfl := Except.ok.inj ht
    exact recent_invalidateNode _ _
  | clear =>
    obtain rfl := Except.ok.inj ht
    rfl

/-- The table after some operations, and what it should remember. -/
theorem Kept.run_recent (h : Kept s.now s.table) (hmax : 0 < s.table.maxRecords)
    {es : List (ℕ × Op)} (hes : ∀ e ∈ es, e.2 ≠ .cleanupExpired) :
    ∃ u, run IpAffinityTable.step s es = .ok u ∧ Kept u.now u.table ∧
      (u.now, u.table.recent) = es.foldl RecentClients.step (s.now, s.table.recent) := by
  induction es generalizing s with
  | nil => exact ⟨s, rfl, h, rfl⟩
  | cons e es ih =>
    rw [List.forall_mem_cons] at hes
    obtain ⟨t, ht, hkept, hrecent⟩ := h.step_recent hmax hes.1
    have hmax' : t.table.maxRecords = s.table.maxRecords := by
      have hsnd := congrArg Prod.snd hrecent
      exact (congrArg RecentClients.maxRecords hsnd).trans (RecentClients.maxRecords_apply _ _ _)
    obtain ⟨u, hu, hkept', hrecent'⟩ := ih hkept (hmax' ▸ hmax) hes.2
    refine ⟨u, ?_, hkept', ?_⟩
    · rw [run_cons, ht]
      exact hu
    · rw [hrecent', hrecent]
      rfl

/-- **What a lookup finds.** After any operations but cleanups, from any configuration with room for
a record, a lookup finds the node of a recency list. -/
theorem lookup_eq_recent (timeoutSec maxRecords : Int) (hmax : 1 ≤ maxRecords) (now : SteadyTime)
    (es : List (ℕ × Op)) (hes : ∀ e ∈ es, e.2 ≠ .cleanupExpired) (d : ℕ) (ip : ByteString) :
    ∃ s, run step ⟨now, { timeoutSec, maxRecords }⟩ es = .ok s ∧
      s.table.lookup (s.now + d) ip =
        .ok ((es.foldl RecentClients.step (now, ⟨timeoutSec, maxRecords, []⟩)).2.lookup
          (s.now + d) ip) := by
  obtain ⟨s, hs, hkept, hrecent⟩ :=
    Kept.run_recent (s := ⟨now, { timeoutSec, maxRecords }⟩) (kept_init _ _ _) hmax hes
  refine ⟨s, hs, ?_⟩
  have hlater : Kept (s.now + d) s.table :=
    hkept.mono (Int.le_add_of_nonneg_right (Int.natCast_nonneg d))
  have hsnd : s.table.recent = _ := congrArg Prod.snd hrecent
  rw [hlater.lookup_eq, hsnd]
  rfl

/-- A table for one client: the second one pushes the first one out. -/
theorem lookup_eq_recent_two : ∃ s, run step ⟨0, { maxRecords := 1 }⟩
    [firstUpdate, (5, .update (.ofString "10.0.0.2") (.ofString "vmess-2"))] = .ok s ∧
      s.table.lookup (s.now + 1) (.ofString "10.0.0.1") = .ok none := by
  obtain ⟨s, hs, hlookup⟩ := lookup_eq_recent 300 1 le_rfl 0
    [firstUpdate, (5, .update (.ofString "10.0.0.2") (.ofString "vmess-2"))]
    (by simp [firstUpdate]) 1 (.ofString "10.0.0.1")
  exact ⟨s, hs, hlookup.trans rfl⟩

end IpAffinityTable

end LanProxyGateway
