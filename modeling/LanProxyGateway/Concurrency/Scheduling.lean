import LanProxyGateway.Concurrency.NodeBalancer
import LanProxyGateway.ConfigManager.SystemConfig
import LanProxyGateway.Foundation.Run
import LanProxyGateway.V2raynManager.NodeEdits

/-!
# Are clients sent to nodes that are there?

Three singletons have a part in it. The manager holds the nodes, the health checker what is known of
their tags, and the balancer remembers tags that it has sent clients to. The last two are not told
when a tag goes, with one exception: a removal that succeeds marks it as unavailable. What has to
hold between them is that a tag that is remembered is that of a node or marked (`Linked`).

A rename tells nobody, and neither does a removal whose save throws. A probe that is under way while
its node is removed takes the mark away again if it succeeds. And `reorder_nodes` leaves nodes
without a tag behind. A run without these sends every client to a node that is there
(`usable_throughout`).

A request to the manager and a choice are one step each. A probe takes two, since it waits for the
network in between.
-/

open Foundation ByteString

namespace LanProxyGateway

open NodeStore

structure Scheduler where
  now : SteadyTime := 0
  store : NodeStore := {}
  health : NodeHealthChecker := {}
  balancer : NodeBalancer := {}
  /-- The tags of the probes that are under way. -/
  probing : List ByteString := []

namespace Scheduler

/-! ## The steps -/

inductive Event
  | request (request : Request) (disk : DiskAnswer)
  /-- `check_now`, or the turn of `periodic_check` for a tag. -/
  | checkNow (tag : ByteString)
  | probeEnds (tag : ByteString) (success : Bool) (elapsedMs : Int)
  | markUnavailable (tag : ByteString)
  | incNodeConnections (tag : ByteString)
  | decNodeConnections (tag : ByteString)
  | selectNode (clientIp : ByteString)
  | selectFallbackNode (clientIp : ByteString) (excludeTags : List ByteString)
  | setStrategy (strategy : ScheduleStrategy)
  | setIpAffinityEnabled (enabled : Bool)
  | setNodeCapacityThreshold (threshold : Int)
  | setNodeWeight (tag : ByteString) (weight : Int)

/-- The beginning of `do_probe`: nothing happens where there is no node. -/
def checkNow (s : Scheduler) (tag : ByteString) : Scheduler :=
  if s.store.nodes.any (·.tag = tag) then { s with probing := tag :: s.probing } else s

/-- What `vm_node_manager` does for the other two once a request has succeeded. -/
def afterRequest (s : Scheduler) : Request → Scheduler
  | .addNode node => s.checkNow node.tag
  | .removeNode tag => { s with
      balancer := { s.balancer with
        toLoadBalancer := s.balancer.toLoadBalancer.decNodeConnections tag }
      health := s.health.markUnavailable tag }
  | _ => s

/-- Whether a request is one that the others are told of, and has succeeded. -/
def isTold (disk : DiskAnswer) (s : NodeStore) : Request → Bool
  | .addNode node => (s.addNode disk node).1.isDone
  | .removeNode tag => (s.removeNode disk tag).1.isDone
  | _ => false

def handle (lib : LinkLibrary) (s : Scheduler) : Event → Except UndefinedBehaviour Scheduler
  | .request request disk =>
    let t := { s with store := s.store.next lib (request, disk) }
    .ok (if isTold disk s.store request then t.afterRequest request else t)
  | .checkNow tag => .ok (s.checkNow tag)
  | .probeEnds tag success elapsedMs =>
    .ok (if tag ∈ s.probing then { s with
        health := s.health.recordProbe tag s.now success elapsedMs
        probing := s.probing.erase tag }
      else s)
  | .markUnavailable tag => .ok { s with health := s.health.markUnavailable tag }
  | .incNodeConnections tag => .ok { s with balancer := { s.balancer with
      toLoadBalancer := s.balancer.toLoadBalancer.incNodeConnections tag } }
  | .decNodeConnections tag => .ok { s with balancer := { s.balancer with
      toLoadBalancer := s.balancer.toLoadBalancer.decNodeConnections tag } }
  | .selectNode clientIp =>
    (s.balancer.selectNode s.health s.store.nodes s.now clientIp).map fun r ↦
      { s with balancer := r.2 }
  | .selectFallbackNode clientIp excludeTags =>
    (s.balancer.selectFallbackNode s.health s.store.nodes s.now clientIp excludeTags).map fun r ↦
      { s with balancer := r.2 }
  | .setStrategy strategy => .ok { s with balancer := { s.balancer with strategy := strategy } }
  | .setIpAffinityEnabled enabled =>
    .ok { s with balancer := { s.balancer with ipAffinityEnabled := enabled } }
  | .setNodeCapacityThreshold threshold =>
    .ok { s with balancer := { s.balancer with nodeCapacityThreshold := threshold } }
  | .setNodeWeight tag weight => .ok { s with balancer := s.balancer.setNodeWeight tag weight }

/-- An event some nanoseconds after the last. -/
def step (lib : LinkLibrary) (s : Scheduler) (e : ℕ × Event) :
    Except UndefinedBehaviour Scheduler :=
  handle lib { s with now := s.now + e.1 } e.2

/-- The three as `main` leaves them: the manager loaded, the others as the configuration says. -/
def start (cfg : SystemConfig) (store : NodeStore) (now : SteadyTime) : Scheduler where
  now := now
  store := store
  health := { failureThreshold := cfg.healthFailureThreshold }
  balancer := {
    strategy := .fromString cfg.scheduleStrategy
    ipAffinityEnabled := cfg.ipAffinityEnabled
    nodeCapacityThreshold := cfg.nodeCapacityThreshold
    affinity := {
      timeoutSec := cfg.ipAffinityTimeoutSec
      maxRecords := cfg.ipAffinityMaxRecords } }

/-! ## The property and the condition -/

/-- A tag that a client may be sent to. -/
structure Usable (s : Scheduler) (tag : ByteString) : Prop extends
    NodeBalancer.Admits s.balancer s.health tag where
  ne_nil : tag ≠ []
  node : HasTag s.store.nodes tag

/-- Whoever is sent anywhere, now or later, is sent to a node that can be used. -/
structure SendsToUsable (s : Scheduler) : Prop where
  selectNode : ∀ (d : ℕ) clientIp r b, s.balancer.selectNode s.health s.store.nodes (s.now + d)
    clientIp = .ok (some r, b) → Usable s r.nodeTag
  selectFallbackNode : ∀ (d : ℕ) clientIp excludeTags r b, s.balancer.selectFallbackNode s.health
    s.store.nodes (s.now + d) clientIp excludeTags = .ok (some r, b) →
      Usable s r.nodeTag ∧ r.nodeTag ∉ excludeTags

/-- The request takes the last node with the tag away. -/
def Leaves (lib : LinkLibrary) (s : NodeStore) (e : Request × DiskAnswer) (tag : ByteString) :
    Prop :=
  HasTag s.nodes tag ∧ ¬HasTag (s.next lib e).nodes tag

/-- The reordering names nodes. -/
def Moves (s : NodeStore) : Request → Prop
  | .reorderNodes orderedTags => ∃ tag ∈ orderedTags, HasTag s.nodes tag
  | _ => False

/-- A tag goes only if nobody remembers it, it is marked, or it is going to be; no reordering names
a node; and no probe of a tag that somebody remembers succeeds when its node has gone. The count of
failures has room for another one. -/
def Careful (lib : LinkLibrary) (s : Scheduler) (e : ℕ × Event) : Prop :=
  match e.2 with
  | .request request disk => ¬Moves s.store request ∧
      ∀ tag, Leaves lib s.store (request, disk) tag → s.balancer.Remembers (s.now + e.1) tag →
        s.health.getStatus tag = .unavailable ∨
          request = .removeNode tag ∧ isTold disk s.store request
  | .probeEnds tag success _ => tag ∈ s.probing →
      if success then s.health.failureThreshold ≤ 0 ∨ HasTag s.store.nodes tag ∨
        ¬s.balancer.Remembers (s.now + e.1) tag
      else s.health.getStatus tag = .unavailable → (s.health.getInfo tag).HasRoom
  | _ => True

/-! ## The nodes have tags -/

def Named (nodes : List VmNode) : Prop := ∀ n ∈ nodes, n.tag ≠ []

section Named

variable {store : NodeStore} {disk : DiskAnswer} {nodes : List VmNode} {node : VmNode}

theorem Named.concat (h : Named nodes) (hnode : node.tag ≠ []) : Named (nodes ++ [node]) := by
  intro n hn
  rcases List.mem_append.mp hn with hn | hn
  · exact h n hn
  · rw [List.mem_singleton.mp hn]
    exact hnode

theorem Named.replaceNode (h : Named nodes) (hnode : node.tag ≠ []) (tag : ByteString) :
    Named (replaceNode tag node nodes) := by
  induction nodes with
  | nil => exact h
  | cons m nodes ih =>
    obtain ⟨hm, hnodes⟩ := List.forall_mem_cons.mp h
    rw [NodeStore.replaceNode]
    split
    · exact List.forall_mem_cons.mpr ⟨hnode, hnodes⟩
    · exact List.forall_mem_cons.mpr ⟨hm, ih hnodes⟩

theorem tag_ne_nil_of_validate {isV5Core : Bool} (h : VmNodeValidator.validate node isV5Core = []) :
    node.tag ≠ [] :=
  (VmNodeValidator.validate_eq_nil_iff.mp h).tag_ne_nil

theorem Named.addNode (h : Named store.nodes) (disk : DiskAnswer) (node : VmNode) :
    Named (store.addNode disk node).2.nodes := by
  rw [NodeStore.addNode]
  split
  · exact h
  · rename_i hvalid
    have hconcat := h.concat (tag_ne_nil_of_validate (not_not.mp hvalid))
    split
    · exact h
    · split
      · rename_i errorMsg t hsave
        rw [nodes_of_saveToConfig hsave, List.dropLast_concat]
        exact h
      · rw [(saved_saveToConfig disk _).nodes]
        exact hconcat

theorem Named.updateNode (h : Named store.nodes) (disk : DiskAnswer) (oldTag : ByteString)
    (node : VmNode) : Named (store.updateNode disk oldTag node).2.nodes := by
  rw [NodeStore.updateNode]
  split
  · exact h
  · rename_i hvalid
    have hreplace := h.replaceNode (tag_ne_nil_of_validate (not_not.mp hvalid)) oldTag
    split
    · exact h
    · split
      · exact h
      · rename_i backup hbackup
        split
        · rename_i errorMsg t hsave
          simp only [nodes_of_saveToConfig hsave]
          exact hreplace.replaceNode (h backup (List.mem_of_find?_eq_some hbackup)) node.tag
        · rw [(saved_saveToConfig disk _).nodes]
          exact hreplace

theorem Named.removeNode (h : Named store.nodes) (disk : DiskAnswer) (tag : ByteString) :
    Named (store.removeNode disk tag).2.nodes := by
  rw [NodeStore.removeNode]
  split
  · exact h
  · split
    · exact h
    · rename_i backup hbackup
      have hrest : Named (store.nodes.eraseP (·.tag = tag)) :=
        fun n hn ↦ h n (List.mem_of_mem_eraseP hn)
      split
      · rename_i errorMsg t hsave
        simp only [nodes_of_saveToConfig hsave]
        exact hrest.concat (h backup (List.mem_of_find?_eq_some hbackup))
      · rw [(saved_saveToConfig disk _).nodes]
        exact hrest

theorem Named.importFromLink (h : Named store.nodes) (lib : LinkLibrary) (disk : DiskAnswer)
    (vmessLink : ByteString) : Named (store.importFromLink lib disk vmessLink).2.nodes := by
  rw [NodeStore.importFromLink]
  split
  · exact h
  · exact h
  · simp only
    split
    · exact h
    · rename_i hvalid
      have hconcat := h.concat (tag_ne_nil_of_validate (not_not.mp hvalid))
      split
      · rename_i t hsave
        rw [nodes_of_saveToConfig hsave]
        exact hconcat
      · rename_i errorMsg t hsave
        simp only [nodes_of_saveToConfig hsave]
        split
        · rw [List.dropLast_concat]
          exact h
        · exact hconcat
      · rename_i e t hsave
        rw [nodes_of_saveToConfig hsave]
        exact hconcat

theorem mem_of_mem_appendMissing {rest : List VmNode} : ∀ {reordered : List VmNode},
    node ∈ appendMissing reordered rest → node ∈ reordered ∨ node ∈ rest := by
  induction rest with
  | nil => exact fun h ↦ .inl h
  | cons m rest ih =>
    intro reordered h
    rw [appendMissing] at h
    split at h
    · exact (ih h).imp_right (List.mem_cons_of_mem m)
    · rcases ih h with hmem | hmem
      · rcases List.mem_append.mp hmem with hmem | hmem
        · exact .inl hmem
        · exact .inr (List.mem_singleton.mp hmem ▸ List.mem_cons_self)
      · exact .inr (List.mem_cons_of_mem m hmem)

/-- A reordering that names no node at most drops some. -/
theorem Named.reorderNodes (h : Named store.nodes) {orderedTags : List ByteString}
    (hmoves : ¬Moves store (.reorderNodes orderedTags)) :
    Named (store.reorderNodes orderedTags).2.nodes := by
  have hpick : pickNodes orderedTags store.nodes = ([], store.nodes) :=
    pickNodes_of_unknown fun tag htag hnode ↦ hmoves ⟨tag, htag, hnode⟩
  simp only [NodeStore.reorderNodes, hpick]
  intro n hn
  exact (mem_of_mem_appendMissing hn).elim (fun hnil ↦ absurd hnil List.not_mem_nil) (h n)

theorem Named.next (h : Named store.nodes) (lib : LinkLibrary) {request : Request}
    (hmoves : ¬Moves store request) (disk : DiskAnswer) :
    Named (store.next lib (request, disk)).nodes := by
  cases request with
  | addNode node => exact h.addNode disk node
  | updateNode oldTag node => exact h.updateNode disk oldTag node
  | removeNode tag => exact h.removeNode disk tag
  | reorderNodes orderedTags => exact h.reorderNodes hmoves
  | setActiveNode tag =>
    rw [NodeStore.next, NodeStore.setActiveNode]
    split <;> exact h
  | applyConfig =>
    rw [NodeStore.next, applyConfig, (saved_saveToConfig disk store).nodes]
    exact h
  | importFromLink vmessLink => exact h.importFromLink lib disk vmessLink

end Named

/-! ## The invariant -/

/-- The nodes have tags, and a tag that is remembered is that of a node or marked. -/
structure Linked (s : Scheduler) : Prop where
  named : Named s.store.nodes
  remembered : ∀ tag, s.balancer.Remembers s.now tag →
    HasTag s.store.nodes tag ∨ s.health.getStatus tag = .unavailable
  counted : s.health.Counted

variable {s : Scheduler} {lib : LinkLibrary}

theorem Linked.usable_of_isCandidate (h : Linked s) {tag : ByteString}
    {excludeTags : List ByteString}
    (hc : NodeBalancer.IsCandidate s.balancer s.health s.store.nodes excludeTags tag) :
    Usable s tag := by
  obtain ⟨n, hn, rfl⟩ := hc.node
  exact ⟨hc.toAdmits, h.named n hn, n, hn, rfl⟩

/-- A remembered tag that is not marked is that of a node. -/
theorem Linked.usable_of_remembers (h : Linked s) {tag : ByteString} {d : ℕ}
    (hr : s.balancer.Remembers (s.now + d) tag)
    (ha : NodeBalancer.Admits s.balancer s.health tag) : Usable s tag := by
  have hnow := hr.mono (Int.le_add_of_nonneg_right (Int.natCast_nonneg d))
  obtain ⟨n, hn, rfl⟩ := (h.remembered tag hnow).resolve_right ha.healthy
  exact ⟨ha, h.named n hn, n, hn, rfl⟩

theorem Linked.sendsToUsable (h : Linked s) : SendsToUsable s where
  selectNode d clientIp r b hr := by
    obtain ⟨-, hsent⟩ := NodeBalancer.selectNode_spec hr
    rcases hsent r rfl with hc | ⟨hremembers, hadmits⟩
    · exact h.usable_of_isCandidate hc
    · exact h.usable_of_remembers hremembers hadmits
  selectFallbackNode d clientIp excludeTags r b hr := by
    obtain ⟨-, hsent⟩ := NodeBalancer.selectFallbackNode_spec hr
    exact ⟨h.usable_of_isCandidate (hsent r rfl), (hsent r rfl).notExcluded⟩

theorem Linked.later (h : Linked s) (d : ℕ) : Linked { s with now := s.now + d } where
  named := h.named
  remembered tag hr :=
    h.remembered tag (hr.mono (Int.le_add_of_nonneg_right (Int.natCast_nonneg d)))
  counted := h.counted

/-! ## One step -/

theorem Linked.markUnavailable (h : Linked s) (tag : ByteString) :
    Linked { s with health := s.health.markUnavailable tag } where
  named := h.named
  remembered tag' hr := (h.remembered tag' hr).imp_right fun hu ↦
    NodeHealthChecker.unavailable_markUnavailable hu tag
  counted := h.counted.markUnavailable tag

theorem Linked.checkNow (h : Linked s) (tag : ByteString) : Linked (s.checkNow tag) := by
  rw [Scheduler.checkNow]
  split
  · exact ⟨h.named, h.remembered, h.counted⟩
  · exact h

/-- A choice remembers candidates only. -/
theorem Linked.follows (h : Linked s) {b : NodeBalancer} {excludeTags : List ByteString}
    (hb : NodeBalancer.Follows s.balancer b
      (NodeBalancer.IsCandidate s.balancer s.health s.store.nodes excludeTags)) :
    Linked { s with balancer := b } where
  named := h.named
  remembered tag hr := by
    rcases hb.remembers _ _ hr with hold | hnew
    · exact h.remembered tag hold
    · exact .inl hnew.node
  counted := h.counted

theorem Linked.probeEnds (h : Linked s) {tag : ByteString} {success : Bool} {elapsedMs : Int}
    (hc : if success then s.health.failureThreshold ≤ 0 ∨ HasTag s.store.nodes tag ∨
        ¬s.balancer.Remembers s.now tag
      else s.health.getStatus tag = .unavailable → (s.health.getInfo tag).HasRoom) :
    Linked { s with
      health := s.health.recordProbe tag s.now success elapsedMs
      probing := s.probing.erase tag } where
  named := h.named
  remembered tag' hr := by
    by_cases hne : tag' = tag
    · subst hne
      -- the tag is marked: a failure keeps it so, a success has to be of a node or of no interest
      rcases h.remembered tag' hr with hnode | hu
      · exact .inl hnode
      rcases success with _ | _
      · exact .inr (h.counted.unavailable_recordProbe hu (hc hu) s.now elapsedMs)
      · rcases hc with hthreshold | hnode | hnot
        · refine .inr (Eq.trans ?_ hu)
          exact NodeHealthChecker.getStatus_recordProbe_of_nonpos hthreshold s.now elapsedMs
        · exact .inl hnode
        · exact absurd hr hnot
    · rw [NodeHealthChecker.getStatus_recordProbe_ne hne]
      exact h.remembered tag' hr
  counted := by
    refine h.counted.recordProbe s.now (fun hfailed ↦ ?_) elapsedMs
    subst hfailed
    exact hc

theorem Linked.request (h : Linked s) {request : Request} {disk : DiskAnswer}
    (hmoves : ¬Moves s.store request)
    (hleaves : ∀ tag, Leaves lib s.store (request, disk) tag → s.balancer.Remembers s.now tag →
      s.health.getStatus tag = .unavailable ∨
        request = .removeNode tag ∧ isTold disk s.store request) {t : Scheduler}
    (ht : handle lib s (.request request disk) = .ok t) : Linked t := by
  have hnamed := h.named.next lib hmoves disk
  -- a tag that is remembered has a node still, or it was marked, or it is going to be
  have hkept : ∀ tag, s.balancer.Remembers s.now tag →
      HasTag (s.store.next lib (request, disk)).nodes tag ∨ s.health.getStatus tag = .unavailable ∨
        request = .removeNode tag ∧ isTold disk s.store request := by
    intro tag hr
    rcases h.remembered tag hr with hnode | hu
    · by_cases hafter : HasTag (s.store.next lib (request, disk)).nodes tag
      · exact .inl hafter
      · exact .inr (hleaves tag ⟨hnode, hafter⟩ hr)
    · exact .inr (.inl hu)
  -- without a removal that has succeeded the checker stays as it was
  have hquiet : (∀ tag, ¬(request = .removeNode tag ∧ isTold disk s.store request)) →
      Linked { s with store := s.store.next lib (request, disk) } := by
    intro hnot
    refine ⟨hnamed, fun tag hr ↦ ?_, h.counted⟩
    exact (hkept tag hr).imp_right fun hu ↦ hu.resolve_right (hnot tag)
  obtain rfl := Except.ok.inj ht
  split
  · cases request with
    | addNode node => exact (hquiet fun tag hremoval ↦ by cases hremoval.1).checkNow node.tag
    | removeNode tag =>
      refine ⟨hnamed, fun tag' hr ↦ ?_, h.counted.markUnavailable tag⟩
      refine (hkept tag' hr).imp_right ?_
      rintro (hu | ⟨heq, -⟩)
      · exact NodeHealthChecker.unavailable_markUnavailable hu tag
      · obtain rfl := Request.removeNode.inj heq
        exact NodeHealthChecker.getStatus_markUnavailable s.health tag
    | _ => exact absurd ‹_› Bool.false_ne_true
  · rename_i hnot
    exact hquiet fun tag hremoval ↦ hnot hremoval.2

theorem Linked.step (h : Linked s) {e : ℕ × Event} {t : Scheduler} (hc : Careful lib s e)
    (ht : step lib s e = .ok t) : Linked t := by
  obtain ⟨d, event⟩ := e
  have hlater := h.later d
  rw [Scheduler.step] at ht
  cases event with
  | request request disk => exact hlater.request hc.1 hc.2 ht
  | checkNow tag =>
    obtain rfl := Except.ok.inj ht
    exact hlater.checkNow tag
  | probeEnds tag success elapsedMs =>
    obtain rfl := Except.ok.inj ht
    split
    · exact hlater.probeEnds (hc ‹_›)
    · exact hlater
  | markUnavailable tag =>
    obtain rfl := Except.ok.inj ht
    exact hlater.markUnavailable tag
  | selectNode clientIp =>
    obtain ⟨⟨o, b⟩, hb, rfl⟩ := exists_of_map_eq_ok ht
    exact hlater.follows (NodeBalancer.selectNode_spec hb).1
  | selectFallbackNode clientIp excludeTags =>
    obtain ⟨⟨o, b⟩, hb, rfl⟩ := exists_of_map_eq_ok ht
    exact hlater.follows (NodeBalancer.selectFallbackNode_spec hb).1
  | _ =>
    obtain rfl := Except.ok.inj ht
    exact ⟨hlater.named, hlater.remembered, hlater.counted⟩

/-- The store after an event: only requests change it. -/
def afterEvent (lib : LinkLibrary) (store : NodeStore) : Event → NodeStore
  | .request request disk => store.next lib (request, disk)
  | _ => store

theorem store_afterRequest (s : Scheduler) (request : Request) :
    (s.afterRequest request).store = s.store := by
  cases request with
  | addNode node =>
    rw [afterRequest, checkNow]
    split <;> rfl
  | _ => rfl

theorem store_of_step {e : ℕ × Event} {t : Scheduler} (ht : step lib s e = .ok t) :
    t.store = afterEvent lib s.store e.2 := by
  obtain ⟨d, event⟩ := e
  rw [Scheduler.step] at ht
  cases event with
  | request request disk =>
    rw [← Except.ok.inj ht]
    split
    · exact store_afterRequest _ request
    · rfl
  | checkNow tag =>
    rw [← Except.ok.inj ht, checkNow]
    split <;> rfl
  | probeEnds tag success elapsedMs =>
    rw [← Except.ok.inj ht]
    split <;> rfl
  | selectNode clientIp =>
    obtain ⟨r, -, rfl⟩ := exists_of_map_eq_ok ht
    rfl
  | selectFallbackNode clientIp excludeTags =>
    obtain ⟨r, -, rfl⟩ := exists_of_map_eq_ok ht
    rfl
  | _ =>
    rw [← Except.ok.inj ht]
    rfl

/-! ## A run -/

/-- Nobody is remembered at the start. -/
theorem linked_start (cfg : SystemConfig) {s₀ store : NodeStore} {remarks : Json}
    (hload : loadFromConfig s₀ remarks = .ok store) (now : SteadyTime) :
    Linked (start cfg store now) where
  named n hn := ne_nil_of_loadFromConfig hload ⟨n, hn, rfl⟩
  remembered tag := by
    rintro ⟨r, hr, -⟩
    exact absurd hr List.not_mem_nil
  counted tag hu := by
    cases hu

/-- **Where clients are sent.** From a loaded manager, a run whose steps are all careful sends
every client to a node that can be used, in every state. -/
theorem usable_throughout (lib : LinkLibrary) (cfg : SystemConfig) {s₀ store : NodeStore}
    {remarks : Json} (hload : loadFromConfig s₀ remarks = .ok store) (now : SteadyTime)
    {es : List (ℕ × Event)} (h : Along (step lib) (Careful lib) (start cfg store now) es) :
    Throughout (step lib) SendsToUsable (start cfg store now) es :=
  h.throughout (fun _ hs ↦ Linked.sendsToUsable hs) (fun _ _ _ hs hc ht ↦ hs.step hc ht)
    (linked_start cfg hload now)

/-! ## A client of a node that is removed, and one of a node that is renamed -/

def client : ByteString := ofString "10.0.0.1"

def clientOfRemoved : List (ℕ × Event) :=
  [(0, .selectNode client), (0, .request (.removeNode (ofString "vmess-1")) {})]

def clientOfRenamed : List (ℕ × Event) :=
  [(0, .selectNode client),
    (0, .request (.updateNode (ofString "vmess-1") (vmessNode "vmess-3")) {})]

/-- A removal marks the tag. -/
theorem clientOfRemoved_sendsToUsable :
    Throughout (step noLibrary) SendsToUsable (start {} twoNodeStore 0) clientOfRemoved := by
  refine usable_throughout noLibrary {} loadFromConfig_twoNodeConfig 0
    ⟨trivial, fun t ht ↦ ⟨⟨id, fun tag hleaves _ ↦ .inr ?_⟩, fun _ _ ↦ trivial⟩⟩
  rw [step, handle] at ht
  obtain ⟨⟨o, b⟩, -, rfl⟩ := exists_of_map_eq_ok ht
  obtain ⟨⟨n, hn, rfl⟩, hgone⟩ := hleaves
  have hother : (twoNodeStore.removeNode {} (ofString "vmess-1")).2.nodes.any
      (·.tag = ofString "vmess-2") := by decide +kernel
  have htold : isTold {} twoNodeStore (.removeNode (ofString "vmess-1")) := by decide +kernel
  rcases List.mem_cons.mp hn with rfl | hn
  · exact ⟨rfl, htold⟩
  · obtain ⟨m, hm, htag⟩ := List.any_eq_true.mp hother
    rw [List.mem_singleton.mp hn] at hgone
    change ¬HasTag (twoNodeStore.next noLibrary (.removeNode (ofString "vmess-1"), {})).nodes
      (ofString "vmess-2") at hgone
    rw [NodeStore.next] at hgone
    exact absurd ⟨m, hm, of_decide_eq_true htag⟩ hgone

theorem tags_of_rename : (twoNodeStore.updateNode {} (ofString "vmess-1")
    (vmessNode "vmess-3")).2.nodes.map (·.tag) = [ofString "vmess-3", ofString "vmess-2"] := by
  have hvalid : VmNodeValidator.validate (vmessNode "vmess-3") twoNodeStore.isV5Core = [] :=
    validate_vmessNode (by decide +kernel)
  rw [NodeStore.updateNode]
  simp only [hvalid]
  decide +kernel

/-- A rename does not, and its client is sent to a tag that no node has. -/
theorem clientOfRenamed_not_sendsToUsable :
    loadFromConfig { config := .json twoNodeConfig } .null = .ok twoNodeStore ∧
      ∃ t, run (step noLibrary) (start {} twoNodeStore 0) clientOfRenamed = .ok t ∧
        ¬SendsToUsable t := by
  refine ⟨loadFromConfig_twoNodeConfig, ?_⟩
  have hobserved : (run (step noLibrary) (start {} twoNodeStore 0) clientOfRenamed).toOption.map
      (fun t ↦ (t.balancer.selectNode t.health t.store.nodes (t.now + (0 : ℕ)) client).toOption.map
        (·.1.map (·.nodeTag))) = some (some (some (ofString "vmess-1"))) := by decide +kernel
  obtain ⟨t, ht, hsent⟩ := exists_run_of_observation hobserved
  refine ⟨t, ht, fun h ↦ ?_⟩
  have hstore : t.store = twoNodeStore.next noLibrary
      (.updateNode (ofString "vmess-1") (vmessNode "vmess-3"), {}) := by
    obtain ⟨u, hu, ht⟩ := run_concat_iff.mp (show run (step noLibrary) _ ([_] ++ [_]) = _ from ht)
    obtain ⟨_, hv, hu⟩ := run_concat_iff.mp (show run (step noLibrary) _ ([] ++ [_]) = _ from hu)
    obtain rfl := Except.ok.inj hv
    have hchoice : u.store = twoNodeStore := store_of_step hu
    have hrename := store_of_step ht
    rw [hchoice] at hrename
    exact hrename
  rcases hselect : t.balancer.selectNode t.health t.store.nodes (t.now + (0 : ℕ)) client with
    e | ⟨_ | r, b⟩
  · rw [hselect] at hsent
    cases hsent
  · rw [hselect] at hsent
    cases hsent
  · rw [hselect] at hsent
    have htag : r.nodeTag = ofString "vmess-1" := Option.some.inj (Option.some.inj hsent)
    obtain ⟨n, hn, hnode⟩ := (h.selectNode 0 client r b hselect).node
    have hmem : ofString "vmess-1" ∈ [ofString "vmess-3", ofString "vmess-2"] := by
      rw [← tags_of_rename, ← NodeStore.next, ← hstore, ← htag, ← hnode]
      exact List.mem_map_of_mem hn
    exact absurd hmem (by decide)

end Scheduler

end LanProxyGateway
