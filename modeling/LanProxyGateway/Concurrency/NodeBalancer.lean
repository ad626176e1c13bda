import LanProxyGateway.Concurrency.Counters
import LanProxyGateway.Concurrency.IpAffinityTable
import LanProxyGateway.Concurrency.NodeHealth
import LanProxyGateway.V2raynManager.VmNode

/-!
# Choosing a node

`load_balancer` lists the nodes that may be chosen, its *candidates*, and hands the list to one of
four strategies. Whatever the strategy does, it chooses a candidate (`mem_of_choose`).

A client with a record in the affinity table is sent where it was sent before, past the candidates:
only the tag is looked at, whether it is marked and how many connections it has.

The time that a choice takes is left out.
-/

open Foundation ByteString

namespace LanProxyGateway

inductive ScheduleStrategy
  | roundRobin
  | weightedRoundRobin
  | leastConnections
  | lowestLatency
  deriving DecidableEq, Repr

/-- `load_balancer::strategy_from_string`. -/
def ScheduleStrategy.fromString (name : ByteString) : ScheduleStrategy :=
  if name = ofString "weighted_round_robin" then .weightedRoundRobin
  else if name = ofString "least_connections" then .leastConnections
  else if name = ofString "lowest_latency" then .lowestLatency
  else .roundRobin

/-- `load_balancer::strategy_to_string`. -/
def ScheduleStrategy.toByteString : ScheduleStrategy → ByteString
  | .roundRobin => ofString "round_robin"
  | .weightedRoundRobin => ofString "weighted_round_robin"
  | .leastConnections => ofString "least_connections"
  | .lowestLatency => ofString "lowest_latency"

/-- A `schedule_result` with a tag that need not be UTF-8. -/
structure Schedule where
  nodeTag : ByteString
  strategyUsed : ByteString
  fromAffinity : Bool
  deriving DecidableEq, Repr

structure NodeLoadInfo where
  tag : ByteString
  activeConnections : Int := 0
  weight : Int := 100
  latencyMs : Int := 0
  available : Bool := true
  deriving DecidableEq, Repr

/-- The balancer, its connection counts included. -/
structure NodeBalancer extends LoadBalancer where
  strategy : ScheduleStrategy := .roundRobin
  ipAffinityEnabled : Bool := true
  nodeCapacityThreshold : Int := 1000
  affinity : IpAffinityTable := {}
  rrIndex : UInt64 := 0
  wrrCurrentWeights : List Int := []
  nodeWeights : AList fun _ : ByteString ↦ Int := ∅

namespace NodeBalancer

/-! ## The strategies

They are called with candidates only; without any, `do_round_robin` would divide by zero. -/

/-- `load_balancer::do_round_robin`. -/
def doRoundRobin (b : NodeBalancer) (candidates : List NodeLoadInfo) :
    Option ByteString × NodeBalancer :=
  let idx := b.rrIndex.toNat % candidates.length
  (candidates[idx]?.map (·.tag), { b with rrIndex := b.rrIndex + 1 })

/-- `v.resize(n, 0)`. -/
def resize (n : ℕ) (v : List Int) : List Int := v.take n ++ List.replicate (n - v.length) 0

/-- The loop for the first largest weight, from the `i`-th on; `best` is the largest so far. -/
def bestFrom (i best : ℕ) (bestWeight : Int) : List Int → ℕ
  | [] => best
  | w :: ws => if bestWeight < w then bestFrom (i + 1) i w ws
      else bestFrom (i + 1) best bestWeight ws

def bestIndex : List Int → ℕ
  | [] => 0
  | w :: ws => bestFrom 1 0 w ws

/-- `load_balancer::do_weighted_round_robin`. -/
def doWeightedRoundRobin (b : NodeBalancer) (candidates : List NodeLoadInfo) :
    Option ByteString × NodeBalancer :=
  let current := resize candidates.length b.wrrCurrentWeights
  let totalWeight := (candidates.map (·.weight)).sum
  if totalWeight = 0 then
    (candidates.head?.map (·.tag), { b with wrrCurrentWeights := current })
  else
    let current := List.zipWith (· + ·) current (candidates.map (·.weight))
    let best := bestIndex current
    (candidates[best]?.map (·.tag),
      { b with wrrCurrentWeights := current.modify best (· - totalWeight) })

/-- `std::min_element` by the number of connections: of several the first. -/
def minElement (first : NodeLoadInfo) (rest : List NodeLoadInfo) : NodeLoadInfo :=
  rest.foldl (fun best c ↦ if c.activeConnections < best.activeConnections then c else best) first

/-- `load_balancer::do_least_connections`. -/
def doLeastConnections : List NodeLoadInfo → Option ByteString
  | [] => none
  | first :: rest => some (minElement first rest).tag

/-- The least of the latencies that have been measured. -/
def minLatency (candidates : List NodeLoadInfo) : Int :=
  candidates.foldl (fun least c ↦
    if 0 < c.latencyMs ∧ c.latencyMs < least then c.latencyMs else least) 2147483647

/-- `load_balancer::do_lowest_latency`. -/
def doLowestLatency (candidates : List NodeLoadInfo) : Option ByteString :=
  let lowLatency := candidates.filter
    (·.latencyMs ≤ Json.castInt (minLatency candidates + 10))
  if lowLatency.isEmpty then doLeastConnections candidates else doLeastConnections lowLatency

/-- The switch over the strategies. -/
def choose (b : NodeBalancer) (candidates : List NodeLoadInfo) : Option ByteString × NodeBalancer :=
  match b.strategy with
  | .roundRobin => b.doRoundRobin candidates
  | .weightedRoundRobin => b.doWeightedRoundRobin candidates
  | .leastConnections => (doLeastConnections candidates, b)
  | .lowestLatency => (doLowestLatency candidates, b)

/-! ## The two requests -/

/-- The turn of the loop over the nodes, in the order of the code. -/
def candidate (b : NodeBalancer) (health : NodeHealthChecker) (excludeTags : List ByteString)
    (node : VmNode) : Option NodeLoadInfo :=
  if node.tag ∈ excludeTags then none
  else if health.getStatus node.tag = .unavailable then none
  else if b.nodeCapacityThreshold ≤ b.getNodeConnections node.tag then none
  else some {
    tag := node.tag
    activeConnections := b.getNodeConnections node.tag
    weight := (b.nodeWeights.lookup node.tag).getD 100
    latencyMs := health.getLatencyMs node.tag
    available := true }

/-- `load_balancer::get_candidates`. -/
def getCandidates (b : NodeBalancer) (health : NodeHealthChecker) (nodes : List VmNode)
    (excludeTags : List ByteString) : List NodeLoadInfo :=
  nodes.filterMap (b.candidate health excludeTags)

/-- What the client is sent to because it was before, if it has a record and may go there. -/
def affinityNode (b : NodeBalancer) (health : NodeHealthChecker) (now : SteadyTime)
    (clientIp : ByteString) :
    Except UndefinedBehaviour (Option ByteString × NodeBalancer) := do
  if !b.ipAffinityEnabled then .ok (none, b)
  else
    match ← b.affinity.lookup now clientIp with
    | none => .ok (none, b)
    | some tag =>
      if health.getStatus tag ≠ .unavailable ∧ b.getNodeConnections tag < b.nodeCapacityThreshold
      then .ok (some tag, b)
      else
        let affinity ← b.affinity.invalidate clientIp
        .ok (none, { b with affinity := affinity })

/-- `if (selected.has_value() && m_ip_affinity_enabled) m_affinity.update(client_ip, *selected);`,
and the result. -/
def remember (b : NodeBalancer) (now : SteadyTime) (clientIp : ByteString)
    (selected : Option ByteString) (strategyUsed : ByteString) :
    Except UndefinedBehaviour (Option Schedule × NodeBalancer) := do
  let result := some ⟨selected.getD [], strategyUsed, false⟩
  match selected with
  | none => .ok (result, b)
  | some tag =>
    if !b.ipAffinityEnabled then .ok (result, b)
    else
      let affinity ← b.affinity.update now clientIp tag
      .ok (result, { b with affinity := affinity })

/-- `load_balancer::select_node`. -/
def selectNode (b : NodeBalancer) (health : NodeHealthChecker) (nodes : List VmNode)
    (now : SteadyTime) (clientIp : ByteString) :
    Except UndefinedBehaviour (Option Schedule × NodeBalancer) := do
  match ← b.affinityNode health now clientIp with
  | (some tag, b) => .ok (some ⟨tag, ofString "ip_affinity", true⟩, b)
  | (none, b) =>
    let candidates := b.getCandidates health nodes []
    if candidates.isEmpty then .ok (none, b)
    else
      let (selected, b) := b.choose candidates
      b.remember now clientIp selected b.strategy.toByteString

/-- `load_balancer::select_fallback_node`. -/
def selectFallbackNode (b : NodeBalancer) (health : NodeHealthChecker) (nodes : List VmNode)
    (now : SteadyTime) (clientIp : ByteString) (excludeTags : List ByteString) :
    Except UndefinedBehaviour (Option Schedule × NodeBalancer) :=
  let candidates := b.getCandidates health nodes excludeTags
  if candidates.isEmpty then .ok (none, b)
  else b.remember now clientIp (doLeastConnections candidates) (ofString "failover")

def setNodeWeight (b : NodeBalancer) (tag : ByteString) (weight : Int) : NodeBalancer :=
  { b with nodeWeights := b.nodeWeights.insert tag weight }

/-! ## A strategy chooses a candidate -/

variable {b b' : NodeBalancer} {cs : List NodeLoadInfo} {tag : ByteString}

/-- The tag is that of a candidate. -/
def Among (cs : List NodeLoadInfo) (selected : Option ByteString) : Prop :=
  ∃ c ∈ cs, selected = some c.tag

theorem among_getElem? {i : ℕ} (h : i < cs.length) : Among cs (cs[i]?.map (·.tag)) := by
  refine ⟨cs[i], List.getElem_mem h, ?_⟩
  rw [List.getElem?_eq_getElem h, Option.map_some]

theorem bestFrom_lt {ws : List Int} : ∀ {i best n : ℕ} {w : Int}, i + ws.length = n → best < n →
    bestFrom i best w ws < n := by
  induction ws with
  | nil => exact fun _ hbest ↦ hbest
  | cons w' ws ih =>
    intro i best n w hn hbest
    rw [List.length_cons] at hn
    rw [bestFrom]
    split
    · exact ih (by omega) (by omega)
    · exact ih (by omega) hbest

theorem bestIndex_lt {ws : List Int} (h : 0 < ws.length) : bestIndex ws < ws.length := by
  rcases ws with _ | ⟨w, ws⟩
  · exact absurd h (Nat.lt_irrefl 0)
  · exact bestFrom_lt (Nat.add_comm 1 _) (Nat.succ_pos _)

theorem length_resize (n : ℕ) (v : List Int) : (resize n v).length = n := by
  rw [resize, List.length_append, List.length_take, List.length_replicate]
  omega

theorem minElement_mem {rest : List NodeLoadInfo} : ∀ {first : NodeLoadInfo},
    minElement first rest ∈ first :: rest := by
  induction rest with
  | nil => exact List.mem_cons_self
  | cons c rest ih =>
    intro first
    rw [minElement, List.foldl_cons]
    split
    · exact List.mem_cons_of_mem first ih
    · rcases List.mem_cons.mp (@ih first) with hfirst | hrest
      · exact List.mem_cons.mpr (.inl hfirst)
      · exact List.mem_cons_of_mem first (List.mem_cons_of_mem c hrest)

theorem among_doLeastConnections (h : cs ≠ []) : Among cs (doLeastConnections cs) := by
  rcases cs with _ | ⟨first, rest⟩
  · exact absurd rfl h
  · exact ⟨_, minElement_mem, rfl⟩

theorem Among.of_subset {ds : List NodeLoadInfo} {selected : Option ByteString}
    (h : Among ds selected) (hsub : ds ⊆ cs) : Among cs selected := by
  obtain ⟨c, hc, hselected⟩ := h
  exact ⟨c, hsub hc, hselected⟩

theorem among_doLowestLatency (h : cs ≠ []) : Among cs (doLowestLatency cs) := by
  rw [doLowestLatency]
  split
  · exact among_doLeastConnections h
  · rename_i hlow
    rw [List.isEmpty_iff] at hlow
    exact (among_doLeastConnections hlow).of_subset fun _ hc ↦ List.mem_of_mem_filter hc

/-- Every strategy chooses a candidate, and leaves alone what the others are asked about. -/
theorem choose_spec (b : NodeBalancer) (h : cs ≠ []) : Among cs (b.choose cs).1 ∧
    (b.choose cs).2.toLoadBalancer = b.toLoadBalancer ∧ (b.choose cs).2.affinity = b.affinity ∧
    (b.choose cs).2.nodeCapacityThreshold = b.nodeCapacityThreshold := by
  have hpos : 0 < cs.length := List.length_pos_iff.mpr h
  rw [choose]
  split
  · exact ⟨among_getElem? (Nat.mod_lt _ hpos), rfl, rfl, rfl⟩
  -- with weights the index is that of the largest current weight, of which there are as many as
  -- candidates
  · rw [doWeightedRoundRobin]
    simp only
    split
    · rw [List.head?_eq_getElem?]
      exact ⟨among_getElem? hpos, rfl, rfl, rfl⟩
    · refine ⟨among_getElem? ?_, rfl, rfl, rfl⟩
      have hlength : (List.zipWith (· + ·) (resize cs.length b.wrrCurrentWeights)
          (cs.map (·.weight))).length = cs.length := by
        rw [List.length_zipWith, length_resize, List.length_map, Nat.min_self]
      refine (bestIndex_lt ?_).trans_eq hlength
      rw [hlength]
      exact hpos
  · exact ⟨among_doLeastConnections h, rfl, rfl, rfl⟩
  · exact ⟨among_doLowestLatency h, rfl, rfl, rfl⟩

/-! ## Where a client is sent -/

/-- What a choice asks of a node: the tag is not marked, and it has room. -/
structure Admits (b : NodeBalancer) (health : NodeHealthChecker) (tag : ByteString) : Prop where
  healthy : health.getStatus tag ≠ .unavailable
  room : b.getNodeConnections tag < b.nodeCapacityThreshold

/-- The tag of a node that may be chosen. -/
structure IsCandidate (b : NodeBalancer) (health : NodeHealthChecker) (nodes : List VmNode)
    (excludeTags : List ByteString) (tag : ByteString) : Prop extends Admits b health tag where
  node : ∃ n ∈ nodes, n.tag = tag
  notExcluded : tag ∉ excludeTags

variable {health : NodeHealthChecker} {nodes : List VmNode} {excludeTags : List ByteString}

theorem isCandidate_of_mem {c : NodeLoadInfo} (h : c ∈ b.getCandidates health nodes excludeTags) :
    IsCandidate b health nodes excludeTags c.tag := by
  obtain ⟨n, hn, hc⟩ := List.mem_filterMap.mp h
  rw [candidate] at hc
  -- the three tests that a node has to pass, in the order of the code
  split_ifs at hc with hexcluded hstatus hfull
  obtain rfl := Option.some.inj hc
  exact ⟨⟨hstatus, not_le.mp hfull⟩, ⟨n, hn, rfl⟩, hexcluded⟩

/-- Some client has a record of the tag that has not timed out. -/
def Remembers (b : NodeBalancer) (now : SteadyTime) (tag : ByteString) : Prop :=
  ∃ r ∈ b.affinity.lru, b.affinity.isExpired now r.toAffinityRecord = false ∧ r.nodeTag = tag

theorem Remembers.mono {now now' : SteadyTime} (h : Remembers b now' tag) (hle : now ≤ now') :
    Remembers b now tag := by
  obtain ⟨r, hr, hexpired, htag⟩ := h
  exact ⟨r, hr, IpAffinityTable.isExpired_mono hle hexpired, htag⟩

/-- A choice changes neither the counts nor the threshold, and whom clients are sent to only by
tags with a property. -/
structure Follows (b b' : NodeBalancer) (p : ByteString → Prop) : Prop where
  counts : b'.toLoadBalancer = b.toLoadBalancer
  threshold : b'.nodeCapacityThreshold = b.nodeCapacityThreshold
  remembers : ∀ now tag, Remembers b' now tag → Remembers b now tag ∨ p tag

theorem Follows.refl (b : NodeBalancer) (p : ByteString → Prop) : Follows b b p :=
  ⟨rfl, rfl, fun _ _ ↦ .inl⟩

theorem Follows.trans {b'' : NodeBalancer} {p : ByteString → Prop} (h : Follows b b' p)
    (h' : Follows b' b'' p) : Follows b b'' p where
  counts := h'.counts.trans h.counts
  threshold := h'.threshold.trans h.threshold
  remembers now tag htag := (h'.remembers now tag htag).elim (h.remembers now tag) .inr

theorem Follows.admits_iff {p : ByteString → Prop} (h : Follows b b' p) :
    Admits b' health tag ↔ Admits b health tag := by
  have hconns : b'.getNodeConnections tag = b.getNodeConnections tag := by rw [h.counts]
  refine ⟨fun ha ↦ ⟨ha.healthy, ?_⟩, fun ha ↦ ⟨ha.healthy, ?_⟩⟩
  · rw [← hconns, ← h.threshold]
    exact ha.room
  · rw [hconns, h.threshold]
    exact ha.room

variable {now : SteadyTime} {clientIp : ByteString} {p : ByteString → Prop}

/-- The records of another table, or ones of a tag. -/
theorem remembers_of_records {affinity : IpAffinityTable}
    (h : affinity.timeoutSec = b.affinity.timeoutSec ∧
      ∀ r ∈ affinity.lru, r ∈ b.affinity.lru ∨ p r.nodeTag) :
    ∀ now tag, Remembers { b with affinity := affinity } now tag → Remembers b now tag ∨ p tag := by
  rintro now tag ⟨r, hr, hexpired, rfl⟩
  rcases h.2 r hr with hold | hnew
  · refine .inl ⟨r, hold, ?_, rfl⟩
    rw [IpAffinityTable.isExpired, ← h.1]
    exact hexpired
  · exact .inr hnew

theorem affinityNode_spec {o : Option ByteString}
    (h : b.affinityNode health now clientIp = .ok (o, b')) : Follows b b' p ∧
      ∀ tag, o = some tag → Remembers b now tag ∧ Admits b health tag := by
  rw [affinityNode] at h
  split at h
  · obtain ⟨rfl, rfl⟩ := Prod.mk.inj (Except.ok.inj h)
    exact ⟨.refl b p, fun tag htag ↦ by cases htag⟩
  rcases hlookup : b.affinity.lookup now clientIp with e | _ | tag
  · rw [hlookup] at h
    cases h
  · rw [hlookup] at h
    obtain ⟨rfl, rfl⟩ := Prod.mk.inj (Except.ok.inj h)
    exact ⟨.refl b p, fun tag htag ↦ by cases htag⟩
  rw [hlookup] at h
  replace h : (if health.getStatus tag ≠ .unavailable ∧
      b.getNodeConnections tag < b.nodeCapacityThreshold then .ok (some tag, b)
    else (b.affinity.invalidate clientIp).bind fun affinity ↦
      .ok (none, { b with affinity := affinity })) = Except.ok (o, b') := h
  split_ifs at h with hadmits
  · obtain ⟨rfl, rfl⟩ := Prod.mk.inj (Except.ok.inj h)
    refine ⟨.refl b p, fun tag' htag' ↦ ?_⟩
    obtain rfl := Option.some.inj htag'
    exact ⟨IpAffinityTable.exists_record_of_lookup hlookup, hadmits.1, hadmits.2⟩
  · rcases hinvalidate : b.affinity.invalidate clientIp with e | affinity
    · rw [hinvalidate] at h
      cases h
    rw [hinvalidate] at h
    obtain ⟨rfl, rfl⟩ := Prod.mk.inj (Except.ok.inj h)
    obtain ⟨htimeout, hsub⟩ := IpAffinityTable.invalidate_records hinvalidate
    refine ⟨⟨rfl, rfl, ?_⟩, fun tag htag ↦ by cases htag⟩
    exact remembers_of_records ⟨htimeout, fun r hr ↦ .inl (hsub hr)⟩

theorem remember_spec {selected : Option ByteString} {strategyUsed : ByteString}
    {o : Option Schedule} (h : b.remember now clientIp selected strategyUsed = .ok (o, b'))
    (hselected : ∃ tag, selected = some tag ∧ p tag) : Follows b b' p ∧
      ∀ r, o = some r → p r.nodeTag := by
  obtain ⟨tag, rfl, hp⟩ := hselected
  have hresult : ∀ r, some (⟨tag, strategyUsed, false⟩ : Schedule) = some r → p r.nodeTag := by
    intro r hr
    rw [← Option.some.inj hr]
    exact hp
  simp only [remember] at h
  split at h
  · obtain ⟨rfl, rfl⟩ := Prod.mk.inj (Except.ok.inj h)
    exact ⟨.refl b p, hresult⟩
  · rcases hupdate : b.affinity.update now clientIp tag with e | affinity
    · rw [hupdate] at h
      cases h
    rw [hupdate] at h
    obtain ⟨rfl, rfl⟩ := Prod.mk.inj (Except.ok.inj h)
    obtain ⟨htimeout, hrecords⟩ := IpAffinityTable.update_records hupdate
    refine ⟨⟨rfl, rfl, remembers_of_records ⟨htimeout, fun r hr ↦ ?_⟩⟩, hresult⟩
    refine (hrecords r hr).imp_right ?_
    rintro rfl
    exact hp

theorem exists_isCandidate {selected : Option ByteString}
    (h : Among (b.getCandidates health nodes excludeTags) selected) :
    ∃ tag, selected = some tag ∧ IsCandidate b health nodes excludeTags tag := by
  obtain ⟨c, hc, hselected⟩ := h
  exact ⟨c.tag, hselected, isCandidate_of_mem hc⟩

theorem Follows.isCandidate_iff (h : Follows b b' p) :
    IsCandidate b' health nodes excludeTags tag ↔ IsCandidate b health nodes excludeTags tag :=
  ⟨fun hc ↦ ⟨h.admits_iff.mp hc.toAdmits, hc.node, hc.notExcluded⟩,
    fun hc ↦ ⟨h.admits_iff.mpr hc.toAdmits, hc.node, hc.notExcluded⟩⟩

/-- **Where a client is sent**: to a candidate, or to a tag that admits it and has a record. -/
theorem selectNode_spec {o : Option Schedule}
    (h : b.selectNode health nodes now clientIp = .ok (o, b')) :
    Follows b b' (IsCandidate b health nodes []) ∧ ∀ r, o = some r →
      IsCandidate b health nodes [] r.nodeTag ∨
        Remembers b now r.nodeTag ∧ Admits b health r.nodeTag := by
  rw [selectNode] at h
  rcases haffinity : b.affinityNode health now clientIp with e | ⟨_ | tag, b₁⟩
  · rw [haffinity] at h
    cases h
  -- no shortcut: the choice is among the candidates
  · rw [haffinity] at h
    obtain ⟨hfollows, -⟩ := affinityNode_spec (p := IsCandidate b health nodes []) haffinity
    replace h : (if (b₁.getCandidates health nodes []).isEmpty then .ok (none, b₁)
      else (b₁.choose (b₁.getCandidates health nodes [])).2.remember now clientIp
        (b₁.choose (b₁.getCandidates health nodes [])).1
        (b₁.choose (b₁.getCandidates health nodes [])).2.strategy.toByteString) =
          Except.ok (o, b') := h
    split_ifs at h with hempty
    · obtain ⟨rfl, rfl⟩ := Prod.mk.inj (Except.ok.inj h)
      exact ⟨hfollows, fun r hr ↦ by cases hr⟩
    · rw [List.isEmpty_iff] at hempty
      obtain ⟨hamong, hcounts, haffinity', hthreshold⟩ := choose_spec b₁ hempty
      obtain ⟨tag, htag, hcandidate⟩ := exists_isCandidate hamong
      have hchosen : Follows b₁ (b₁.choose (b₁.getCandidates health nodes [])).2
          (IsCandidate b health nodes []) := by
        refine ⟨hcounts, hthreshold, fun now tag htag ↦ .inl ?_⟩
        rw [Remembers, haffinity'] at htag
        exact htag
      obtain ⟨hremember, hresult⟩ :=
        remember_spec h ⟨tag, htag, hfollows.isCandidate_iff.mp hcandidate⟩
      exact ⟨(hfollows.trans hchosen).trans hremember, fun r hr ↦ .inl (hresult r hr)⟩
  -- the shortcut: the tag has a record, and candidates are not asked for
  · rw [haffinity] at h
    obtain ⟨rfl, rfl⟩ := Prod.mk.inj (Except.ok.inj h)
    obtain ⟨hfollows, hsent⟩ := affinityNode_spec haffinity
    refine ⟨hfollows, fun r hr ↦ ?_⟩
    obtain rfl := Option.some.inj hr
    exact .inr (hsent tag rfl)

theorem selectFallbackNode_spec {o : Option Schedule}
    (h : b.selectFallbackNode health nodes now clientIp excludeTags = .ok (o, b')) :
    Follows b b' (IsCandidate b health nodes excludeTags) ∧ ∀ r, o = some r →
      IsCandidate b health nodes excludeTags r.nodeTag := by
  simp only [selectFallbackNode] at h
  split at h
  · obtain ⟨rfl, rfl⟩ := Prod.mk.inj (Except.ok.inj h)
    exact ⟨.refl b _, fun r hr ↦ by cases hr⟩
  · rename_i hempty
    rw [List.isEmpty_iff] at hempty
    exact remember_spec h (exists_isCandidate (among_doLeastConnections hempty))

end NodeBalancer

end LanProxyGateway
