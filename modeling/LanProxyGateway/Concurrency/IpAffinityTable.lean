import LanProxyGateway.Concurrency.Admission
import LanProxyGateway.Foundation.Keys
import LanProxyGateway.Foundation.Run

/-!
# The affinity table

`ip_affinity_table` remembers which node a client was sent to: a list of records, the most recently
used one first, and an index from the address of a client into the list. The two are edited
separately.

An iterator is a number that no other node of the list has. To follow one that has no node any more,
or to take the last element of an empty list, is undefined behaviour; an operation that does ends
with an `UndefinedBehaviour` and without a state.
-/

open Foundation

namespace LanProxyGateway

inductive UndefinedBehaviour
  | danglingIterator
  | backOfEmptyList
  deriving DecidableEq, Repr

/-- The number of a list node. -/
abbrev Iterator := ℕ

structure AffinityRecord where
  clientIp : ByteString
  nodeTag : ByteString
  lastAccess : SteadyTime
  deriving DecidableEq, Repr

/-- A node of the list. -/
structure LruNode extends AffinityRecord where
  iterator : Iterator
  deriving DecidableEq, Repr

structure IpAffinityTable where
  timeoutSec : Int := 300
  maxRecords : Int := 10000
  index : AList fun _ : ByteString ↦ Iterator := ∅
  lru : List LruNode := []
  /-- The number of the next node. -/
  fresh : Iterator := 0

namespace IpAffinityTable

/-- `*it`. -/
def deref (t : IpAffinityTable) (it : Iterator) : Except UndefinedBehaviour LruNode :=
  match t.lru.find? (·.iterator = it) with
  | some node => .ok node
  | none => .error .danglingIterator

/-- Whether a record is older than the timeout. -/
def isExpired (t : IpAffinityTable) (now : SteadyTime) (r : AffinityRecord) : Bool :=
  decide (t.timeoutSec < wholeSeconds (now - r.lastAccess))

/-- `ip_affinity_table::lookup`. -/
def lookup (t : IpAffinityTable) (now : SteadyTime) (clientIp : ByteString) :
    Except UndefinedBehaviour (Option ByteString) :=
  match t.index.lookup clientIp with
  | none => .ok none
  | some it => (t.deref it).map fun node ↦
      if t.isExpired now node.toAffinityRecord then none else some node.nodeTag

/-- The loop of `update` that makes room, over the list from its back. -/
def evict (maxRecords : Int) : List LruNode → (AList fun _ : ByteString ↦ Iterator) →
    Except UndefinedBehaviour (List LruNode × AList fun _ : ByteString ↦ Iterator)
  | [], index => if maxRecords ≤ 0 then .error .backOfEmptyList else .ok ([], index)
  | back :: rest, index =>
    if maxRecords ≤ (back :: rest).length then evict maxRecords rest (index.erase back.clientIp)
    else .ok (back :: rest, index)

/-- `ip_affinity_table::update`: a known address moves to the front, an unknown one is put there. -/
def update (t : IpAffinityTable) (now : SteadyTime) (clientIp nodeTag : ByteString) :
    Except UndefinedBehaviour IpAffinityTable :=
  match t.index.lookup clientIp with
  | some it => (t.deref it).map fun node ↦ { t with
      lru := { node with nodeTag := nodeTag, lastAccess := now } ::
        t.lru.filter (·.iterator ≠ it) }
  | none => (evict t.maxRecords t.lru.reverse t.index).map fun kept ↦ { t with
      lru := ⟨⟨clientIp, nodeTag, now⟩, t.fresh⟩ :: kept.1.reverse
      index := kept.2.insert clientIp t.fresh
      fresh := t.fresh + 1 }

/-- `ip_affinity_table::invalidate`. -/
def invalidate (t : IpAffinityTable) (clientIp : ByteString) :
    Except UndefinedBehaviour IpAffinityTable :=
  match t.index.lookup clientIp with
  | none => .ok t
  | some it => (t.deref it).map fun _ ↦ { t with
      lru := t.lru.filter (·.iterator ≠ it)
      index := t.index.erase clientIp }

/-- The index without the addresses of some nodes. -/
def eraseAll (nodes : List LruNode) (index : AList fun _ : ByteString ↦ Iterator) :
    AList fun _ : ByteString ↦ Iterator :=
  nodes.foldl (fun index node ↦ index.erase node.clientIp) index

/-- `ip_affinity_table::invalidate_node`. -/
def invalidateNode (t : IpAffinityTable) (nodeTag : ByteString) : IpAffinityTable :=
  { t with
    lru := t.lru.filter (·.nodeTag ≠ nodeTag)
    index := eraseAll (t.lru.filter (·.nodeTag = nodeTag)) t.index }

/-- `ip_affinity_table::cleanup_expired`: from the back up to the first record that is not expired,
the addresses leave the index. The nodes stay in the list. -/
def cleanupExpired (t : IpAffinityTable) (now : SteadyTime) : IpAffinityTable :=
  { t with
    index := eraseAll (t.lru.reverse.takeWhile fun node ↦ t.isExpired now node.toAffinityRecord)
      t.index }

/-- `ip_affinity_table::clear`. -/
def clear (t : IpAffinityTable) : IpAffinityTable := { t with index := ∅, lru := [] }

/-! ## Small facts -/

variable {t : IpAffinityTable} {index : AList fun _ : ByteString ↦ Iterator}

/-- What a removal of addresses leaves of the index. -/
theorem lookup_eraseAll (nodes : List LruNode) (ip : ByteString) :
    (eraseAll nodes index).lookup ip =
      if ip ∈ nodes.map (·.clientIp) then none else index.lookup ip := by
  induction nodes generalizing index with
  | nil => rfl
  | cons node nodes ih =>
    have hcons : eraseAll (node :: nodes) index = eraseAll nodes (index.erase node.clientIp) := rfl
    rw [hcons, ih, List.map_cons]
    by_cases hmem : ip ∈ nodes.map (·.clientIp)
    · rw [if_pos hmem, if_pos (List.mem_cons_of_mem _ hmem)]
    · rw [if_neg hmem]
      by_cases hip : ip = node.clientIp
      · rw [hip, AList.lookup_erase, if_pos List.mem_cons_self]
      · rw [AList.lookup_erase_ne hip, if_neg (List.not_mem_cons_of_ne_of_not_mem hip hmem)]

/-- An iterator of a node of the list is followed to a node with that number. -/
theorem exists_deref_eq {node : LruNode} (h : node ∈ t.lru) :
    ∃ found ∈ t.lru, found.iterator = node.iterator ∧ t.deref node.iterator = .ok found := by
  have hexists : ∃ n ∈ t.lru, n.iterator = node.iterator := ⟨node, h, rfl⟩
  obtain ⟨found, hmem, hiterator, hfound⟩ := exists_find?_key hexists
  refine ⟨found, hmem, hiterator, ?_⟩
  rw [deref, hfound]

/-- Without room for a record the loop comes to an empty list. -/
theorem evict_of_nonpos {maxRecords : Int} (h : maxRecords ≤ 0) (nodes : List LruNode) :
    evict maxRecords nodes index = .error .backOfEmptyList := by
  induction nodes generalizing index with
  | nil => rw [evict, if_pos h]
  | cons back rest ih => rw [evict, if_pos (h.trans (Int.natCast_nonneg _)), ih]

/-- With room for one the loop cuts off a part of the list, no more than it has to, and takes its
addresses out of the index. -/
theorem exists_evict_eq {maxRecords : Int} (h : 0 < maxRecords) (nodes : List LruNode)
    (index : AList fun _ : ByteString ↦ Iterator) :
    ∃ gone kept, nodes = gone ++ kept ∧ (kept.length : Int) < maxRecords ∧
      (gone = [] ∨ (kept.length : Int) + 1 = maxRecords) ∧
      evict maxRecords nodes index = .ok (kept, eraseAll gone index) := by
  induction nodes generalizing index with
  | nil => exact ⟨[], [], rfl, h, .inl rfl, if_neg (not_le.mpr h)⟩
  | cons back rest ih =>
    rw [evict]
    split
    · rename_i hfull
      obtain ⟨gone, kept, rfl, hlt, hleast, hevict⟩ := ih (index.erase back.clientIp)
      refine ⟨back :: gone, kept, rfl, hlt, .inr ?_, hevict⟩
      rcases hleast with rfl | hleast
      · rw [List.nil_append, List.length_cons] at hfull
        push_cast at hfull
        omega
      · exact hleast
    · exact ⟨[], back :: rest, rfl, not_le.mp ‹_›, .inl rfl, rfl⟩

/-! ## Which records an operation leaves -/

variable {u : IpAffinityTable} {now : SteadyTime} {clientIp nodeTag : ByteString}

theorem mem_of_deref {it : Iterator} {node : LruNode} (h : t.deref it = .ok node) :
    node ∈ t.lru := by
  rw [deref] at h
  rcases hfind : t.lru.find? (·.iterator = it) with _ | found
  · rw [hfind] at h
    cases h
  · rw [hfind] at h
    exact Except.ok.inj h ▸ List.mem_of_find?_eq_some hfind

/-- What is looked up is the tag of a record that has not timed out. -/
theorem exists_record_of_lookup (h : t.lookup now clientIp = .ok (some nodeTag)) :
    ∃ r ∈ t.lru, t.isExpired now r.toAffinityRecord = false ∧ r.nodeTag = nodeTag := by
  rw [lookup] at h
  rcases hindex : t.index.lookup clientIp with _ | it
  · rw [hindex] at h
    cases h
  · rw [hindex] at h
    obtain ⟨r, hderef, hfound⟩ := exists_of_map_eq_ok h
    split_ifs at hfound with hexpired
    exact ⟨r, mem_of_deref hderef, Bool.eq_false_iff.mpr hexpired, Option.some.inj hfound⟩

/-- An update leaves records from before, and one of the tag. -/
theorem update_records (h : t.update now clientIp nodeTag = .ok u) :
    u.timeoutSec = t.timeoutSec ∧ ∀ r ∈ u.lru, r ∈ t.lru ∨ r.nodeTag = nodeTag := by
  rw [update] at h
  rcases hindex : t.index.lookup clientIp with _ | it
  · rw [hindex] at h
    obtain ⟨⟨lru, index⟩, hevict, rfl⟩ := exists_of_map_eq_ok h
    refine ⟨rfl, fun r hr ↦ ?_⟩
    rcases List.mem_cons.mp hr with rfl | hr
    · exact .inr rfl
    -- whatever has not been evicted was there before
    have hmax : 0 < t.maxRecords := by
      by_contra hmax
      rw [evict_of_nonpos (not_lt.mp hmax)] at hevict
      cases hevict
    obtain ⟨gone, kept, hsplit, -, -, hevict'⟩ := exists_evict_eq hmax t.lru.reverse t.index
    obtain ⟨rfl, rfl⟩ := Prod.mk.inj (Except.ok.inj (hevict'.symm.trans hevict))
    refine .inl (List.mem_reverse.mp ?_)
    rw [hsplit]
    exact List.mem_append_right gone (List.mem_reverse.mp hr)
  · rw [hindex] at h
    obtain ⟨node, -, rfl⟩ := exists_of_map_eq_ok h
    refine ⟨rfl, fun r hr ↦ ?_⟩
    rcases List.mem_cons.mp hr with rfl | hr
    · exact .inr rfl
    · exact .inl (List.mem_of_mem_filter hr)

theorem invalidate_records (h : t.invalidate clientIp = .ok u) :
    u.timeoutSec = t.timeoutSec ∧ u.lru ⊆ t.lru := by
  rw [invalidate] at h
  rcases hindex : t.index.lookup clientIp with _ | it
  · rw [hindex] at h
    obtain rfl := Except.ok.inj h
    exact ⟨rfl, fun r hr ↦ hr⟩
  · rw [hindex] at h
    obtain ⟨node, -, rfl⟩ := exists_of_map_eq_ok h
    exact ⟨rfl, fun r hr ↦ List.mem_of_mem_filter hr⟩

/-- What has timed out stays so. -/
theorem isExpired_mono {now' : SteadyTime} (hle : now ≤ now') {r : AffinityRecord}
    (h : t.isExpired now' r = false) : t.isExpired now r = false := by
  rw [isExpired, decide_eq_false_iff_not, not_lt] at h ⊢
  exact (Int.tdiv_le_tdiv (by decide) (Int.sub_le_sub_right hle _)).trans h

end IpAffinityTable

end LanProxyGateway
