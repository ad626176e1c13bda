import LanProxyGateway.Concurrency.HealthHistory

/-!
# Going over to another node

`failover_handler::on_connection_failed` marks the node that has failed and asks the balancer for
another one, unless its caller has been answered twice already. The gateway does not call it; it may
be called by any thread, with any arguments. Between the mark and the choice the other threads go
on: nodes come and go, probes end, clients are sent to nodes, and further calls begin and end. So
the two halves of a call are steps of their own here (`run_fails_fallsBack` puts them together), and
everything else may happen between any two of them. A choice is one step; one that has read the
status of a node before a mark counts as made before the mark.

A node that a call has marked is avoided by everybody from then on, until a probe finds it alive;
and no call is answered with the node that it was about (`failover_run`).

A call whose retries are used up does not mark its node.
-/

open Foundation ByteString

namespace LanProxyGateway

open NodeStore

/-- `failover_result`. -/
structure FailoverResult where
  nodeTag : ByteString
  retried : Bool := false
  retryCount : Int := 0
  deriving DecidableEq, Repr

/-- The arguments of a call. -/
structure FailedConnection where
  failedTag : ByteString
  clientIp : ByteString
  retryCount : Int
  deriving DecidableEq, Repr

namespace FailoverHandler

def maxRetry : Int := 2

/-- `on_connection_failed` up to the mark; there is none where the retries are used up. -/
def markFailed (s : Scheduler) (c : FailedConnection) : Option Scheduler :=
  if maxRetry ≤ c.retryCount then none
  else some { s with health := s.health.markUnavailable c.failedTag }

/-- `on_connection_failed` behind the mark. -/
def fallBack (s : Scheduler) (c : FailedConnection) :
    Except UndefinedBehaviour (Option FailoverResult × Scheduler) :=
  (s.balancer.selectFallbackNode s.health s.store.nodes s.now c.clientIp [c.failedTag]).map
    fun r ↦ (r.1.map fun sched ↦ ⟨sched.nodeTag, true, c.retryCount + 1⟩,
      { s with balancer := r.2 })

/-- `failover_handler::on_connection_failed`, when nobody comes in between. -/
def onConnectionFailed (s : Scheduler) (c : FailedConnection) :
    Except UndefinedBehaviour (Option FailoverResult × Scheduler) :=
  match markFailed s c with
  | none => .ok (none, s)
  | some s => fallBack s c

end FailoverHandler

/-- The scheduler and the calls. -/
structure Failover where
  scheduler : Scheduler
  /-- The calls between their two halves. -/
  calls : List FailedConnection := []
  /-- The calls that have returned, and what they returned, the last one first. -/
  answers : List (FailedConnection × Option FailoverResult) := []
  /-- The nodes that a call has marked and no probe has found alive since. -/
  marked : List ByteString := []

namespace Failover

inductive Event
  | fails (d : ℕ) (c : FailedConnection)
  | fallsBack (d k : ℕ)
  | scheduler (e : ℕ × Scheduler.Event)

def later (f : Failover) (d : ℕ) : Scheduler := { f.scheduler with now := f.scheduler.now + d }

/-- What is still marked after the checker has been told something. -/
def unmark (marked : List ByteString) (told : List HealthEvent) : List ByteString :=
  marked.filter fun tag ↦ !told.any fun h ↦ h.finding = .success ∧ h.tag = tag

def step (lib : LinkLibrary) (f : Failover) : Event → Except UndefinedBehaviour Failover
  | .fails d c =>
    match FailoverHandler.markFailed (f.later d) c with
    | none => .ok { f with scheduler := f.later d, answers := (c, none) :: f.answers }
    | some s => .ok { f with
        scheduler := s, calls := c :: f.calls, marked := c.failedTag :: f.marked }
  | .fallsBack d k =>
    match f.calls[k]? with
    | none => .ok { f with scheduler := f.later d }
    | some c => (FailoverHandler.fallBack (f.later d) c).map fun r ↦ { f with
        scheduler := r.2, calls := f.calls.eraseIdx k, answers := (c, r.1) :: f.answers }
  | .scheduler e => (Scheduler.step lib f.scheduler e).map fun s ↦ { f with
      scheduler := s, marked := unmark f.marked ((f.later e.1).told e.2) }

theorem later_zero (f : Failover) : f.later 0 = f.scheduler := by
  rw [later, Nat.cast_zero, Int.add_zero]

/-- The two halves with nothing in between are the handler. -/
theorem run_fails_fallsBack (lib : LinkLibrary) (f : Failover) (c : FailedConnection) (d : ℕ)
    (hretries : c.retryCount < FailoverHandler.maxRetry) :
    (run (step lib) f [.fails d c, .fallsBack 0 0]).map (fun g ↦ (g.answers, g.scheduler)) =
      (FailoverHandler.onConnectionFailed (f.later d) c).map
        fun r ↦ ((c, r.1) :: f.answers, r.2) := by
  have hmark : FailoverHandler.markFailed (f.later d) c =
      some { f.later d with health := (f.later d).health.markUnavailable c.failedTag } :=
    if_neg (not_le.mpr hretries)
  simp only [run_cons, step, FailoverHandler.onConnectionFailed, hmark, later_zero, Except.bind,
    List.getElem?_cons_zero]
  rcases FailoverHandler.fallBack { f.later d with
    health := (f.later d).health.markUnavailable c.failedTag } c with e | ⟨o, s⟩
  · rfl
  · rfl

/-- The count of failures of a node that is unavailable has room for another one. -/
def HasRoom (f : Failover) : Event → Prop
  | .scheduler e => ∀ h ∈ (f.later e.1).told e.2,
      h.finding = .failure → f.scheduler.health.getStatus h.tag = .unavailable →
        (f.scheduler.health.getInfo h.tag).HasRoom
  | _ => True

/-- The marks are in force. -/
structure Sound (f : Failover) : Prop where
  counted : f.scheduler.health.Counted
  unavailable : ∀ tag ∈ f.marked, f.scheduler.health.getStatus tag = .unavailable

/-- A call that is answered with a node. -/
structure Answers (c : FailedConnection) (r : FailoverResult) : Prop where
  retriesLeft : c.retryCount < FailoverHandler.maxRetry
  retryCount : r.retryCount = c.retryCount + 1
  ne_failed : r.nodeTag ≠ c.failedTag

/-- The calls had retries left, and were not answered with the node that they were about. -/
structure Answered (f : Failover) : Prop where
  calls : ∀ c ∈ f.calls, c.retryCount < FailoverHandler.maxRetry
  answers : ∀ c r, (c, some r) ∈ f.answers → Answers c r

/-! ## One step -/

variable {lib : LinkLibrary} {f g : Failover}

/-- An event tells the checker one thing or none. -/
theorem told_eq (s : Scheduler) (event : Scheduler.Event) :
    s.told event = [] ∨ ∃ h, s.told event = [h] ∧ h.finding ≠ .cleared := by
  cases event with
  | request request disk =>
    cases request with
    | removeNode tag =>
      rw [Scheduler.told]
      split
      · exact .inr ⟨_, rfl, fun h ↦ by cases h⟩
      · exact .inl rfl
    | _ => exact .inl rfl
  | probeEnds tag success elapsedMs =>
    rw [Scheduler.told]
    split
    · refine .inr ⟨_, rfl, ?_⟩
      rcases success with _ | _
      · exact fun h ↦ by cases h
      · exact fun h ↦ by cases h
    · exact .inl rfl
  | markUnavailable tag => exact .inr ⟨_, rfl, fun h ↦ by cases h⟩
  | _ => exact .inl rfl

/-- An event that is no success keeps what is unavailable as it is. -/
theorem unavailable_apply {h : NodeHealthChecker} (hc : h.Counted) {e : HealthEvent}
    {tags : List ByteString} (htags : ∀ tag ∈ tags, h.getStatus tag = .unavailable)
    (hsuccess : e.finding = .success → e.tag ∉ tags) (hcleared : e.finding ≠ .cleared)
    (hroom : e.finding = .failure → h.getStatus e.tag = .unavailable →
      (h.getInfo e.tag).HasRoom) :
    (h.apply e).Counted ∧ ∀ tag ∈ tags, (h.apply e).getStatus tag = .unavailable := by
  cases e with
  | markAvailable tag => exact absurd rfl hcleared
  | markUnavailable tag =>
    exact ⟨hc.markUnavailable tag, fun tag' htag' ↦
      NodeHealthChecker.unavailable_markUnavailable (htags tag' htag') tag⟩
  | probed tag now success elapsedMs =>
    have hfailed : success = false → h.getStatus tag = .unavailable → (h.getInfo tag).HasRoom := by
      rintro rfl
      exact hroom rfl
    refine ⟨hc.recordProbe now hfailed elapsedMs, fun tag' htag' ↦ ?_⟩
    by_cases hne : tag' = tag
    · subst hne
      rcases success with _ | _
      · exact hc.unavailable_recordProbe (htags tag' htag') (hfailed rfl (htags tag' htag')) now
          elapsedMs
      · exact absurd htag' (hsuccess rfl)
    · rw [NodeHealthChecker.apply, NodeHealthChecker.getStatus_recordProbe_ne hne]
      exact htags tag' htag'

/-- The others go on, and take the marks away that no longer hold. -/
theorem Sound.scheduler (h : f.Sound) {e : ℕ × Scheduler.Event}
    (hroom : f.HasRoom (.scheduler e)) {s : Scheduler}
    (hs : Scheduler.step lib f.scheduler e = .ok s) :
    ({ f with
      scheduler := s, marked := unmark f.marked ((f.later e.1).told e.2) }).Sound := by
  have hmarked : ∀ tag ∈ unmark f.marked ((f.later e.1).told e.2), tag ∈ f.marked :=
    fun tag htag ↦ (List.mem_filter.mp htag).1
  suffices hkept : s.health.Counted ∧ ∀ tag ∈ unmark f.marked ((f.later e.1).told e.2),
      s.health.getStatus tag = .unavailable from ⟨hkept.1, hkept.2⟩
  rw [Scheduler.health_step hs]
  obtain hnone | ⟨event, hone, hcleared⟩ := told_eq (f.later e.1) e.2
  -- nothing was found out, so every mark stays and nothing happens to its node
  · rw [hnone] at hmarked ⊢
    rw [later] at hnone
    rw [hnone]
    exact ⟨h.counted, fun tag htag ↦ h.unavailable tag (hmarked tag htag)⟩
  -- a success is about a node whose mark has gone; anything else keeps a node unavailable
  · have hfailure := hroom event (hone ▸ List.mem_singleton_self event)
    have hsuccess : event.finding = .success →
        event.tag ∉ unmark f.marked ((f.later e.1).told e.2) := by
      intro hfound hmem
      rw [hone, unmark, List.mem_filter, List.any_cons, List.any_nil] at hmem
      simp [hfound] at hmem
    have hbefore : ∀ tag ∈ unmark f.marked ((f.later e.1).told e.2),
        f.scheduler.health.getStatus tag = .unavailable :=
      fun tag htag ↦ h.unavailable tag (hmarked tag htag)
    have hkept := unavailable_apply h.counted hbefore hsuccess hcleared hfailure
    rw [later] at hone
    rw [hone]
    exact hkept

theorem Sound.step (h : f.Sound) {e : Event} (hroom : f.HasRoom e)
    (hg : f.step lib e = .ok g) : g.Sound := by
  cases e with
  | fails d c =>
    rw [Failover.step, FailoverHandler.markFailed] at hg
    split_ifs at hg
    · obtain rfl := Except.ok.inj hg
      exact ⟨h.counted, h.unavailable⟩
    · obtain rfl := Except.ok.inj hg
      refine ⟨h.counted.markUnavailable c.failedTag, fun tag htag ↦ ?_⟩
      rcases List.mem_cons.mp htag with rfl | hold
      · exact NodeHealthChecker.getStatus_markUnavailable _ _
      · exact NodeHealthChecker.unavailable_markUnavailable (h.unavailable tag hold) c.failedTag
  | fallsBack d k =>
    rw [Failover.step] at hg
    split at hg
    · obtain rfl := Except.ok.inj hg
      exact ⟨h.counted, h.unavailable⟩
    · obtain ⟨r, hr, rfl⟩ := exists_of_map_eq_ok hg
      obtain ⟨q, -, rfl⟩ := exists_of_map_eq_ok hr
      exact ⟨h.counted, h.unavailable⟩
  | scheduler e =>
    obtain ⟨s, hs, rfl⟩ := exists_of_map_eq_ok hg
    exact h.scheduler hroom hs

/-- The node that is chosen behind the mark is another one. -/
theorem answers_fallBack {s t : Scheduler} {c : FailedConnection} {r : FailoverResult}
    (hretries : c.retryCount < FailoverHandler.maxRetry)
    (h : FailoverHandler.fallBack s c = .ok (some r, t)) : Answers c r := by
  obtain ⟨⟨o, b⟩, hq, hanswer⟩ := exists_of_map_eq_ok h
  obtain ⟨hsome, -⟩ := Prod.mk.inj hanswer
  obtain ⟨sched, rfl, rfl⟩ := Option.map_eq_some_iff.mp hsome
  obtain ⟨-, hcandidate⟩ := NodeBalancer.selectFallbackNode_spec hq
  refine ⟨hretries, rfl, fun heq ↦ ?_⟩
  exact (hcandidate sched rfl).notExcluded (List.mem_singleton.mpr heq)

theorem Answered.step (h : f.Answered) {e : Event} (hg : f.step lib e = .ok g) :
    g.Answered := by
  cases e with
  | fails d c =>
    rw [Failover.step, FailoverHandler.markFailed] at hg
    split_ifs at hg with hretries
    · obtain rfl := Except.ok.inj hg
      refine ⟨h.calls, fun c' r hmem ↦ h.answers c' r ?_⟩
      exact (List.mem_cons.mp hmem).resolve_left fun heq ↦ by cases heq
    · obtain rfl := Except.ok.inj hg
      exact ⟨List.forall_mem_cons.mpr ⟨not_le.mp hretries, h.calls⟩, h.answers⟩
  | fallsBack d k =>
    rw [Failover.step] at hg
    split at hg
    · obtain rfl := Except.ok.inj hg
      exact ⟨h.calls, h.answers⟩
    · rename_i c hc
      have hretries := h.calls c (List.mem_of_getElem? hc)
      obtain ⟨⟨o, s⟩, hr, rfl⟩ := exists_of_map_eq_ok hg
      refine ⟨fun c' hc' ↦ h.calls c' (List.mem_of_mem_eraseIdx hc'), fun c' r hmem ↦ ?_⟩
      rcases List.mem_cons.mp hmem with heq | hold
      · obtain ⟨rfl, rfl⟩ := Prod.mk.inj heq
        exact answers_fallBack hretries hr
      · exact h.answers c' r hold
  | scheduler e =>
    obtain ⟨s, -, rfl⟩ := exists_of_map_eq_ok hg
    exact ⟨h.calls, h.answers⟩

/-! ## Runs -/

/-- Nobody who asks for a node, now or later, is sent to the tag. -/
structure Avoids (s : Scheduler) (tag : ByteString) : Prop where
  selectNode : ∀ (d : ℕ) clientIp r b, s.balancer.selectNode s.health s.store.nodes (s.now + d)
    clientIp = .ok (some r, b) → r.nodeTag ≠ tag
  selectFallbackNode : ∀ (d : ℕ) clientIp excludeTags r b, s.balancer.selectFallbackNode s.health
    s.store.nodes (s.now + d) clientIp excludeTags = .ok (some r, b) → r.nodeTag ≠ tag

theorem avoids_of_unavailable {s : Scheduler} {tag : ByteString}
    (h : s.health.getStatus tag = .unavailable) : Avoids s tag where
  selectNode d clientIp r b hr := by
    obtain ⟨-, hsent⟩ := NodeBalancer.selectNode_spec hr
    rintro rfl
    -- the affinity record of a client is tested for the status too
    rcases hsent r rfl with hcandidate | ⟨-, hadmits⟩
    · exact hcandidate.healthy h
    · exact hadmits.healthy h
  selectFallbackNode d clientIp excludeTags r b hr := by
    obtain ⟨-, hsent⟩ := NodeBalancer.selectFallbackNode_spec hr
    rintro rfl
    exact (hsent r rfl).healthy h

/-- **Going over to another node.** In every run from a started scheduler, however calls and
everything else are mixed: nobody is sent to a node that a call has marked and no probe has found
alive since, and a call that was answered with a node had retries left and was answered with another
node than the one it was about. -/
theorem failover_run {cfg : SystemConfig} {store : NodeStore} {now : SteadyTime} {es : List Event}
    (hroom : Along (step lib) HasRoom { scheduler := .start cfg store now } es)
    (hf : run (step lib) { scheduler := .start cfg store now } es = .ok f) :
    (∀ tag ∈ f.marked, Avoids f.scheduler tag) ∧
      ∀ c r, (c, some r) ∈ f.answers → Answers c r := by
  have hstart : ({ scheduler := .start cfg store now } : Failover).Sound := by
    refine ⟨fun tag hu ↦ ?_, fun tag htag ↦ absurd htag List.not_mem_nil⟩
    cases hu
  have hnone : ({ scheduler := .start cfg store now } : Failover).Answered :=
    ⟨fun c hc ↦ absurd hc List.not_mem_nil, fun c r hr ↦ absurd hr List.not_mem_nil⟩
  obtain ⟨hsound, hanswered⟩ : f.Sound ∧ f.Answered :=
    run_induction (I := fun f ↦ f.Sound ∧ f.Answered)
      (fun f e g h hC hg ↦ ⟨h.1.step hC hg, h.2.step hg⟩) ⟨hstart, hnone⟩ hroom hf
  exact ⟨fun tag htag ↦ avoids_of_unavailable (hsound.unavailable tag htag), hanswered.answers⟩

/-- A client cannot be connected to the first node, and while its call is under way another one
takes its turn. -/
def oneFails : List Event :=
  [.fails 3000000000 ⟨ofString "vmess-1", Scheduler.client, 0⟩,
    .scheduler (0, .selectNode (ofString "192.168.1.11")), .fallsBack 0 0]

theorem hasRoom_oneFails : Along (step noLibrary) HasRoom
    { scheduler := .start {} twoNodeStore 0 } oneFails :=
  ⟨trivial, fun _ _ ↦ ⟨fun _ hh ↦ absurd hh List.not_mem_nil, fun _ _ ↦
    ⟨trivial, fun _ _ ↦ trivial⟩⟩⟩

/-- The call is answered with the second node, and nobody is sent to the first. -/
theorem oneFails_failover : ∃ f c r,
    run (step noLibrary) { scheduler := .start {} twoNodeStore 0 } oneFails = .ok f ∧
      f.answers = [(c, some r)] ∧ r.nodeTag = ofString "vmess-2" ∧ r.nodeTag ≠ c.failedTag ∧
      Avoids f.scheduler (ofString "vmess-1") := by
  have hrun : (run (step noLibrary) { scheduler := .start {} twoNodeStore 0 }
      oneFails).toOption.map (fun f ↦ (f.answers, f.marked)) =
        some ([(⟨ofString "vmess-1", Scheduler.client, 0⟩, some ⟨ofString "vmess-2", true, 1⟩)],
          [ofString "vmess-1"]) := by decide +kernel
  obtain ⟨f, hf, hobserved⟩ := exists_run_of_observation hrun
  obtain ⟨hanswers, hmarked⟩ := Prod.mk.inj hobserved
  obtain ⟨havoids, hanswered⟩ := failover_run hasRoom_oneFails hf
  refine ⟨f, _, _, hf, hanswers, rfl, ?_, havoids _ ?_⟩
  · exact (hanswered _ _ (hanswers ▸ List.mem_singleton_self _)).ne_failed
  · rw [hmarked]
    exact List.mem_singleton_self _

end Failover

end LanProxyGateway
