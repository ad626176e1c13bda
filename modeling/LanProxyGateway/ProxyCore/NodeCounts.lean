import LanProxyGateway.ProxyCore.Frame
import LanProxyGateway.ProxyCore.Slots

/-!
# Are the connections of a node counted?

Two tables count the connections of a node. The one of the load balancer is raised when a session
chooses a node and lowered when the session closes, but only if its tunnel had been established, and
by `remove_node`; the one of the concurrency metrics is lowered at the same place as the first and
never raised by anybody. `NodesCounted` says that both tables agree with the sessions.

So the tables agree exactly as long as there is nothing to count: a run in which no session chooses
a node keeps both at zero (`nodes_counted`), and the first choice of a node makes the metrics wrong
(`Nodeless.not_nodesCounted`), a failure before the tunnel is up the balancer as well.
-/

open Foundation ByteString

namespace LanProxyGateway

/-! ## The tables -/

/-- `active_connections` of a node, zero where there is no entry. -/
def ConcurrencyMetrics.nodeActive (m : ConcurrencyMetrics) (tag : ByteString) : Int :=
  ((m.nodeMetrics.lookup tag).getD {}).activeConnections

namespace LoadBalancer

variable (b : LoadBalancer) {tag tag' : ByteString}

theorem getNodeConnections_inc_ne (h : tag' ≠ tag) :
    (b.incNodeConnections tag).getNodeConnections tag' = b.getNodeConnections tag' := by
  rw [incNodeConnections, getNodeConnections, getNodeConnections]
  split <;> rw [AList.lookup_insert_ne h]

/-- A count of zero stays zero, whatever is taken off. -/
theorem getNodeConnections_dec_of_zero (h : b.getNodeConnections tag' = 0) :
    (b.decNodeConnections tag).getNodeConnections tag' = 0 := by
  rw [decNodeConnections]
  by_cases htag : tag' = tag
  · subst htag
    rw [getNodeConnections] at h
    split
    · rename_i n hn
      rw [hn, Option.getD_some] at h
      rw [if_pos (by omega), getNodeConnections, AList.lookup_erase]
      rfl
    · exact h
  · rw [getNodeConnections] at h ⊢
    split
    · split
      · rwa [AList.lookup_erase_ne htag]
      · rwa [AList.lookup_insert_ne htag]
    · exact h

end LoadBalancer

/-! ## The system with its nodes -/

/-- What can happen to the tables: a step of the sessions, and `remove_node` once the configuration
has been saved. -/
inductive NodeEvent
  | session (e : Event)
  | removeNode (tag : ByteString)

namespace World

def nodeStep (w : World) : NodeEvent → Except CxxException World
  | .session e => w.step e
  | .removeNode tag => .ok { w with
      gateway := { w.gateway with balancer := w.gateway.balancer.decNodeConnections tag } }

/-- The live sessions that have chosen the node. -/
def liveOn (w : World) (tag : ByteString) : ℕ :=
  w.sessions.countP fun s ↦ s.isLive && s.selectedNodeTag.bytes == tag

/-- Both tables count the live sessions of every node. -/
def NodesCounted (w : World) : Prop :=
  ∀ tag, tag ≠ [] → w.gateway.balancer.getNodeConnections tag = w.liveOn tag ∧
    w.gateway.concurrency.nodeActive tag = w.liveOn tag

/-- A session hands its destination to `do_route_decision`, which sends it through v2ray and finds a
node. -/
def ChoosesNode (w : World) : NodeEvent → Prop
  | .session e => ∃ i k chunk env s r host port sched, e = .complete i k (.received chunk) env ∧
      w.sessions[i]? = some s ∧ s.pending[k]? = some (.read r) ∧
      Asks env s.clientBuffer r chunk host port ∧
      (env.router.decide env.isChina host s.resolvedIp).action = .proxy ∧
      env.selectNode s.clientIp = some sched ∧ sched.nodeTag.bytes ≠ []
  | .removeNode _ => False

/-- Nobody has chosen a node, and neither table has counted one. -/
structure Nodeless (w : World) : Prop where
  sessions : ∀ s ∈ w.sessions, s.selectedNodeTag.bytes = []
  balancer : ∀ tag, tag ≠ [] → w.gateway.balancer.getNodeConnections tag = 0
  metrics : ∀ tag, tag ≠ [] → w.gateway.concurrency.nodeActive tag = 0

theorem Nodeless.nodesCounted {w : World} (hw : w.Nodeless) : w.NodesCounted := by
  intro tag htag
  have hnone : w.liveOn tag = 0 := by
    refine List.countP_eq_zero.mpr fun s hs ↦ ?_
    rw [hw.sessions s hs, Bool.and_eq_true, beq_iff_eq]
    exact fun h ↦ htag h.2.symm
  rw [hnone, hw.balancer tag htag, hw.metrics tag htag]
  exact ⟨rfl, rfl⟩

/-- A step that leaves the tables as they are. -/
theorem Nodeless.same {w : World} (hw : w.Nodeless) {g : Gateway} {sessions : List Session}
    (hnodes : g.nodeCounts = w.gateway.nodeCounts)
    (hsessions : ∀ s ∈ sessions, s ∈ w.sessions ∨ s.selectedNodeTag.bytes = []) :
    Nodeless ⟨g, sessions⟩ := by
  obtain ⟨hbalancer, hmetrics⟩ := Prod.mk.inj hnodes
  refine ⟨fun s hs ↦ ?_, fun tag htag ↦ ?_, fun tag htag ↦ ?_⟩
  · rcases hsessions s hs with hs | hs
    · exact hw.sessions s hs
    · exact hs
  · show g.balancer.getNodeConnections tag = 0
    rw [hbalancer]
    exact hw.balancer tag htag
  · show g.concurrency.nodeActive tag = 0
    rw [ConcurrencyMetrics.nodeActive, hmetrics]
    exact hw.metrics tag htag

/-- **One step**: where no node is chosen, there is none to count afterwards. -/
theorem Nodeless.step {w t : World} {e : NodeEvent} (hw : w.Nodeless) (hc : ¬ChoosesNode w e)
    (ht : w.nodeStep e = .ok t) : t.Nodeless := by
  rcases e with e | tag
  swap
  · obtain rfl := Except.ok.inj ht
    refine ⟨hw.sessions, fun tag' htag' ↦ ?_, hw.metrics⟩
    exact LoadBalancer.getNodeConnections_dec_of_zero _ (hw.balancer tag' htag')
  rcases advances_of_step ht with e | ⟨env, a, t, h, hbegins⟩ |
    ⟨i, k, c, env, t, calls, ops, hs, hp, h, hhandles⟩
  · exact hw
  · have hbegan : t.self.selectedNodeTag.bytes = [] ∧ t.gateway.nodeCounts =
        w.gateway.nodeCounts := by
      rcases hbegins with ⟨hu, -, hnodes, -⟩ | hclosed
      · exact ⟨congrArg Text.bytes hu.nodeTag, hnodes⟩
      · exact ⟨congrArg Text.bytes hclosed.unmoved.nodeTag, hclosed.nodes rfl⟩
    refine hw.same hbegan.2 fun s hs ↦ ?_
    rcases List.mem_append.mp hs with hs | hs
    · exact .inl hs
    · exact .inr (List.mem_singleton.mp hs ▸ hbegan.1)
  · rename_i s p
    have htag : s.selectedNodeTag.bytes = [] := hw.sessions s (List.mem_of_getElem? hs)
    have hmem : ∀ {u : Session}, u.selectedNodeTag.bytes = [] → ∀ s' ∈ w.sessions.set i u,
        s' ∈ w.sessions ∨ s'.selectedNodeTag.bytes = [] := by
      intro u hu s' hs'
      rcases List.mem_or_eq_of_mem_set hs' with hs' | rfl
      · exact .inl hs'
      · exact .inr hu
    rcases hhandles.turns with hsteady | ⟨r, chunk, rfl, rfl, hroutes, hasks⟩
    · refine hw.same (hsteady.nodeCounts htag) (hmem ?_)
      exact (congrArg Text.bytes hsteady.unmoved.nodeTag).trans htag
    · rcases hroutes.chosen with ⟨-, htag', hnodes⟩ | ⟨sched, hproxy, hselect, htag', hnodes⟩
      · exact hw.same hnodes (hmem ((congrArg Text.bytes htag').trans htag))
      · have hempty : sched.nodeTag.bytes = [] := by
          by_contra hne
          exact hc ⟨i, k, chunk, env, s, r, _, _, sched, rfl, hs, hp, hasks, hproxy, hselect, hne⟩
        obtain ⟨hbalancer, hmetrics⟩ := Prod.mk.inj hnodes
        refine ⟨fun s' hs' ↦ ?_, fun tag htag ↦ ?_, fun tag htag ↦ ?_⟩
        · rcases hmem ((congrArg Text.bytes htag').trans hempty) s' hs' with hs' | hs'
          · exact hw.sessions s' hs'
          · exact hs'
        · show t.gateway.balancer.getNodeConnections tag = 0
          rw [hbalancer, hempty, LoadBalancer.getNodeConnections_inc_ne _ htag]
          exact hw.balancer tag htag
        · show t.gateway.concurrency.nodeActive tag = 0
          rw [ConcurrencyMetrics.nodeActive, hmetrics]
          exact hw.metrics tag htag

/-- **The counts of the nodes.** From a proxy without sessions whose tables are zero, along a run in
which no session chooses a node, both tables count the live sessions of every node in every
state. -/
theorem nodes_counted {w₀ : World} {es : List NodeEvent} (h₀ : w₀.sessions = [])
    (hbalancer : w₀.gateway.balancer = {}) (hmetrics : w₀.gateway.concurrency.nodeMetrics = ∅)
    (hc : Along nodeStep (fun w e ↦ ¬ChoosesNode w e) w₀ es) :
    Throughout nodeStep NodesCounted w₀ es := by
  have hinit : w₀.Nodeless := by
    refine ⟨?_, fun tag _ ↦ ?_, fun tag _ ↦ ?_⟩
    · rw [h₀]
      exact fun s hs ↦ absurd hs List.not_mem_nil
    · rw [hbalancer]
      rfl
    · rw [ConcurrencyMetrics.nodeActive, hmetrics]
      rfl
  exact hc.throughout (fun w hw ↦ hw.nodesCounted) (fun w e t hw hc ht ↦ hw.step hc ht) hinit

/-- The first session with a node makes the metrics wrong. -/
theorem Nodeless.not_nodesCounted {w t : World} {e : Event} (hw : w.Nodeless)
    (ho : ∀ s ∈ w.sessions, s.Orderly) (ht : w.step e = .ok t)
    (hchosen : ∃ s ∈ t.sessions, s.selectedNodeTag.bytes ≠ []) : ¬t.NodesCounted := by
  obtain ⟨s', hs', hne⟩ := hchosen
  have hold : s' ∉ w.sessions := fun hmem ↦ hne (hw.sessions s' hmem)
  rcases advances_of_step ht with e | ⟨env, a, t, h, hbegins⟩ |
    ⟨i, k, c, env, t, calls, ops, hs, hp, h, hhandles⟩
  · exact absurd hs' hold
  · rcases List.mem_append.mp hs' with hs' | hs'
    · exact absurd hs' hold
    · obtain rfl := List.mem_singleton.mp hs'
      rcases hbegins with ⟨hu, -⟩ | hclosed
      · exact absurd (congrArg Text.bytes hu.nodeTag) hne
      · exact absurd (congrArg Text.bytes hclosed.unmoved.nodeTag) hne
  · rename_i s p
    have hmem : s ∈ w.sessions := List.mem_of_getElem? hs
    have htag : s.selectedNodeTag.bytes = [] := hw.sessions s hmem
    obtain rfl := (List.mem_or_eq_of_mem_set hs').resolve_left hold
    rcases hhandles.turns with hsteady | ⟨r, chunk, rfl, rfl, hroutes, hasks⟩
    · exact absurd ((congrArg Text.bytes hsteady.unmoved.nodeTag).trans htag) hne
    rcases hroutes.chosen with ⟨-, htag', -⟩ | ⟨sched, -, -, htag', hnodes⟩
    · exact absurd ((congrArg Text.bytes htag').trans htag) hne
    intro hcounted
    have hpmem : .read r ∈ s.pending := List.mem_of_getElem? hp
    have hadmitted : t.self.admitted = true :=
      h.admitted.trans ((ho s hmem).admitted (List.ne_nil_of_mem hpmem))
    have hopen : t.self.isOpen = true := by
      by_contra hclosed
      rw [hroutes.isOpen, Bool.not_eq_true] at hclosed
      exact (ho s hmem).closed hclosed _ hpmem (Pending.lane_of_isEarly hasks.isEarly.1)
    have hcount : 0 < liveOn ⟨t.gateway, w.sessions.set i t.self⟩ t.self.selectedNodeTag.bytes := by
      refine List.countP_pos_iff.mpr ⟨t.self, hs', ?_⟩
      rw [Session.isLive, hadmitted, hopen, Bool.and_eq_true, beq_iff_eq]
      exact ⟨rfl, rfl⟩
    have hzero : t.gateway.concurrency.nodeActive t.self.selectedNodeTag.bytes = 0 := by
      rw [ConcurrencyMetrics.nodeActive, (Prod.mk.inj hnodes).2]
      exact hw.metrics _ hne
    have hequal := (hcounted _ hne).2
    rw [hzero] at hequal
    omega

/-- For a client that logs in and connects directly there is nothing to count. -/
theorem loginRun_nodes_counted :
    Throughout nodeStep NodesCounted {} (loginRun.map NodeEvent.session) := by
  refine nodes_counted rfl rfl rfl ⟨?_, fun _ _ ↦ ⟨?_, fun _ _ ↦ trivial⟩⟩
  · rintro ⟨i, k, chunk, env, s, r, host, port, sched, he, -⟩
    cases he
  · rintro ⟨i, k, chunk, env, s, r, host, port, sched, he, -, -, -, -, hselect, -⟩
    cases he
    cases hselect

/-- A gateway with one node. -/
def nodeEnvironment : Environment :=
  { sampleEnvironment .proxy with
    selectNode := fun _ ↦ some ⟨.lit "vmess-1", .lit "weighted_round_robin", false⟩ }

/-- A client asks for a host, a node is chosen, and the way to v2ray fails. -/
def leakRun : List NodeEvent :=
  [.session (.start nodeEnvironment sampleArrival),
    .session (.complete 0 0 (.received sampleHead) nodeEnvironment),
    .session (.complete 0 0 (.failed (.lit "Host not found") 0) nodeEnvironment)]

/-- Its session is closed, and the balancer counts it for ever. -/
theorem leakRun_not_nodesCounted : ∃ w, run nodeStep {} leakRun = .ok w ∧
    w.liveOn (ofString "vmess-1") = 0 ∧
    w.gateway.balancer.getNodeConnections (ofString "vmess-1") = 1 ∧ ¬w.NodesCounted := by
  have hrun : (run nodeStep {} leakRun).toOption.map
      (fun w ↦ (w.liveOn (ofString "vmess-1"),
        w.gateway.balancer.getNodeConnections (ofString "vmess-1"))) = some (0, 1) := by
    decide +kernel
  obtain ⟨w, hw, hobs⟩ := exists_run_of_observation hrun
  obtain ⟨hlive, hcount⟩ := Prod.mk.inj hobs
  refine ⟨w, hw, hlive, hcount, fun hcounted ↦ ?_⟩
  have hequal := (hcounted (ofString "vmess-1") (by decide)).1
  rw [hlive, hcount] at hequal
  exact absurd hequal (by decide)

end World

end LanProxyGateway
