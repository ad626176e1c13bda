import LanProxyGateway.Concurrency.RotationBounds
import LanProxyGateway.WebServer.Privilege

/-!
# Weights set in the web interface

The interface and the scheduler work on one state, in any order. The interface is the only one that
sets the weight of a node, and it accepts a weight from 1 to 100. So the weighted rotation picks
among accepted weights, and for as long as there are at most `N` nodes with `100 * N ^ 2` an `int`,
it does not overflow, whatever has been picked, added, removed and marked before.
-/

open Foundation ByteString

namespace LanProxyGateway

namespace Backend

open NodeBalancer

variable {lib : WebLibrary} {o : Outside} {s t : Backend} {N : ℕ}

/-- The balancer of the scheduler. -/
abbrev balancer (s : Backend) : NodeBalancer := s.scheduler.balancer

theorem sameRotation_afterRequest (s : Scheduler) (request : NodeStore.Request) :
    SameRotation s.balancer (s.afterRequest request).balancer := by
  cases request with
  | addNode node =>
    rw [Scheduler.afterRequest, Scheduler.checkNow]
    split <;> exact .refl _
  | removeNode tag => exact ⟨rfl, rfl⟩
  | _ => exact .refl _

theorem sameRotation_afterNode (s : Backend) (store : NodeStore) (r : NodeRequest) :
    SameRotation s.balancer (s.afterNode lib o store r).balancer := by
  have htold : ∀ request, SameRotation s.balancer (s.scheduler.afterRequest request).balancer :=
    sameRotation_afterRequest s.scheduler
  simp only [afterNode]
  repeat' split
  · exact htold _
  · exact .refl _
  · exact .refl _
  · exact htold _
  · exact .refl _
  · exact .refl _

theorem sameRotation_node (s : Backend) (r : NodeRequest) :
    SameRotation s.balancer (s.node lib o r).2.balancer :=
  sameRotation_afterNode
    (s.withStore (s.scheduler.store.serve lib.toLinkLibrary o.disk r).2) s.scheduler.store r

theorem balancer_foldl_checkNow (nodes : List VmNode) (s : Scheduler) :
    (nodes.foldl (fun t n ↦ t.checkNow n.tag) s).balancer = s.balancer := by
  induction nodes generalizing s with
  | nil => rfl
  | cons n nodes ih =>
    rw [List.foldl_cons, ih, Scheduler.checkNow]
    split <;> rfl

/-- One call: a weight that is set was accepted. -/
theorem bounded_handle (h : s.balancer.Bounded N) (call : ApiCall) :
    (s.handle lib o call).2.balancer.Bounded N := by
  cases call with
  | node r => exact h.same (s.sameRotation_node r)
  | putNodeWeight tag body =>
    simp only [handle, putNodeWeight]
    split
    · exact h
    · split
      · exact h
      · split
        · exact h
        · split
          · exact h
          · rename_i weight _ haccepted
            rw [not_or, not_lt, not_lt] at haccepted
            exact ⟨h.within, acceptsWeights_setNodeWeight h.weights haccepted.1 haccepted.2 tag⟩
  | postHealthCheck =>
    rw [handle, postHealthCheck, balancer, balancer_foldl_checkNow]
    exact h
  | postLogin body =>
    have hsame : s.Untouched (s.postLogin lib o body).2 := s.postLogin_untouched body
    rw [handle, hsame]
    exact h
  | putSchedule body =>
    simp only [handle, putSchedule]
    repeat' split
    all_goals exact h.same ⟨rfl, rfl⟩
  | putIpAffinity body =>
    simp only [handle, putIpAffinity]
    repeat' split
    all_goals exact h.same ⟨rfl, rfl⟩
  | putNodesReorder body =>
    simp only [handle, putNodesReorder]
    split <;> exact h
  | postUsers body =>
    simp only [handle, postUsers]
    repeat' split
    all_goals exact h
  | deleteUser username =>
    simp only [handle, deleteUser]
    repeat' split
    all_goals exact h
  | postRules body =>
    simp only [handle, postRules]
    split <;> exact h
  | putV2raynConfig body =>
    simp only [handle, putV2raynConfig]
    repeat' split
    all_goals exact h
  | _ => exact h

end Backend

/-! ## The interface and the scheduler -/

inductive ControlEvent
  | api (e : ApiEvent)
  /-- Some nanoseconds after the last event. -/
  | scheduler (e : ℕ × Scheduler.Event)

namespace ControlEvent

/-- The interface is the only one that sets weights. -/
def SetsWeight : ControlEvent → Prop
  | .scheduler (_, .setNodeWeight _ _) => True
  | _ => False

end ControlEvent

namespace Backend

open NodeBalancer

variable {lib : WebLibrary} {s t : Backend} {N : ℕ}

def control (lib : WebLibrary) (s : Backend) : ControlEvent → Except UndefinedBehaviour Backend
  | .api e => .ok (s.respond lib e.outside e.request e.call).2
  | .scheduler e => (Scheduler.step lib.toLinkLibrary s.scheduler e).map fun t ↦
      { s with scheduler := t }

/-- There are at most so many nodes when the event comes. -/
def FewNodes (N : ℕ) (s : Backend) (e : ControlEvent) : Prop :=
  s.scheduler.store.nodes.length ≤ N ∧ ¬e.SetsWeight

theorem bounded_step {u v : Scheduler} {e : ℕ × Scheduler.Event} (h : u.balancer.Bounded N)
    (hnodes : u.store.nodes.length ≤ N) (hnot : ∀ tag w, e.2 ≠ .setNodeWeight tag w)
    (hv : Scheduler.step lib.toLinkLibrary u e = .ok v) : v.balancer.Bounded N := by
  obtain ⟨d, event⟩ := e
  rw [Scheduler.step] at hv
  cases event with
  | request request disk =>
    have htold : ∀ w : Scheduler, w.balancer = u.balancer →
        (w.afterRequest request).balancer.Bounded N := by
      intro w hw
      rw [← hw] at h
      exact h.same (sameRotation_afterRequest w request)
    rw [← Except.ok.inj hv]
    split
    · exact htold _ rfl
    · exact h
  | checkNow tag =>
    rw [← Except.ok.inj hv, Scheduler.checkNow]
    split <;> exact h
  | probeEnds tag success elapsedMs =>
    rw [← Except.ok.inj hv]
    split <;> exact h
  | selectNode clientIp =>
    obtain ⟨⟨o, b⟩, hb, rfl⟩ := exists_of_map_eq_ok hv
    exact h.selectNode hnodes hb
  | selectFallbackNode clientIp excludeTags =>
    obtain ⟨⟨o, b⟩, hb, rfl⟩ := exists_of_map_eq_ok hv
    exact h.selectFallbackNode hb
  | setNodeWeight tag weight => exact absurd rfl (hnot tag weight)
  | _ =>
    rw [← Except.ok.inj hv]
    exact h.same ⟨rfl, rfl⟩

theorem bounded_control {e : ControlEvent} (h : s.balancer.Bounded N) (hfew : FewNodes N s e)
    (ht : s.control lib e = .ok t) : t.balancer.Bounded N := by
  cases e with
  | api e =>
    obtain rfl := Except.ok.inj ht
    rw [respond]
    split
    · exact bounded_handle h e.call
    · split
      · exact h
      · exact bounded_handle h e.call
  | scheduler e =>
    obtain ⟨v, hv, rfl⟩ := exists_of_map_eq_ok ht
    refine bounded_step h hfew.1 (fun tag w hset ↦ hfew.2 ?_) hv
    rw [← Prod.mk.eta (p := e), hset]
    trivial

/-- **The weighted rotation never overflows** with at most so many nodes, in any run of requests and
scheduler events. -/
theorem noOverflow_of_run {cfg : SystemConfig} {store : NodeStore} {now : SteadyTime}
    {es : List ControlEvent} (hstart : s.scheduler = .start cfg store now)
    (hN : 100 * N ^ 2 ≤ 2147483647) (hfew : Along (control lib) (FewNodes N) s es)
    (ht : run (control lib) s es = .ok t) (hnodes : t.scheduler.store.nodes.length ≤ N) :
    t.balancer.NoOverflow
      (t.balancer.getCandidates t.scheduler.health t.scheduler.store.nodes []) := by
  have hbounded : s.balancer.Bounded N := by
    rw [balancer, hstart]
    exact bounded_start rfl rfl
  have hend : t.balancer.Bounded N :=
    run_induction (I := fun s ↦ s.balancer.Bounded N)
      (fun s e t h hC ht ↦ bounded_control h hC ht) hbounded hfew ht
  exact noOverflow_of_within hend.within (acceptedWeights_getCandidates hend.weights)
    (length_getCandidates_le.trans hnodes) hN

/-- Two nodes, and a client for one of them. -/
def twoNodes : Backend where
  scheduler := .start {} NodeStore.twoNodeStore 0

def weightedChoice : List ControlEvent :=
  [.scheduler (0, .setStrategy .weightedRoundRobin), .scheduler (0, .selectNode Scheduler.client)]

theorem weightedChoice_noOverflow : ∃ t,
    run (control Panel.aliceLibrary) twoNodes weightedChoice = .ok t ∧
      t.balancer.NoOverflow
        (t.balancer.getCandidates t.scheduler.health t.scheduler.store.nodes []) := by
  have hfew : Along (control Panel.aliceLibrary) (FewNodes 2) twoNodes weightedChoice := by
    refine ⟨⟨le_rfl, id⟩, fun t ht ↦ ⟨⟨?_, id⟩, fun _ _ ↦ trivial⟩⟩
    obtain rfl := Except.ok.inj ht
    exact le_rfl
  obtain ⟨t, ht, hstore⟩ : ∃ t,
      run (control Panel.aliceLibrary) twoNodes weightedChoice = .ok t ∧
        t.scheduler.store = NodeStore.twoNodeStore := ⟨_, rfl, rfl⟩
  refine ⟨t, ht, noOverflow_of_run (N := 2) rfl (by decide) hfew ht ?_⟩
  rw [hstore]
  exact le_rfl

end Backend

end LanProxyGateway
