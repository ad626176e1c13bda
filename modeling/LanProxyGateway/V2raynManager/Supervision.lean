import LanProxyGateway.V2raynManager.V2raynProcess

/-!
# Does the status match the process?

Between operations the status should be `running` exactly while there is a v2ray child under the pid
the supervisor keeps; there should never be two; and a stop or a restart should leave none of the
earlier ones. `Supervised` says so.

All operations keep it but one. `on_child_exit` clears the pid and calls `do_start` to restart
v2ray, and `do_start` returns at once because the status still says `running`: from then on the
status is `running` without a child. Whose exit it was plays no part, since `waitpid(-1)` reaps a
`python3` child just as well. The step that does this is `ReapsWhileRunning`, and it breaks the
property every time, so avoiding it is the exact condition (`along_iff_supervised`).
-/

open Foundation

namespace LanProxyGateway

/-- The pids of the v2ray children in a list. -/
def v2rayPids (children : List Child) : List ℕ := (children.filter (·.isV2ray)).map Child.pid

theorem v2rayPids_cons_v2ray (pid : ℕ) (exited : Bool) (children : List Child) :
    v2rayPids (⟨pid, true, exited⟩ :: children) = pid :: v2rayPids children := rfl

theorem v2rayPids_cons_other (pid : ℕ) (exited : Bool) (children : List Child) :
    v2rayPids (⟨pid, false, exited⟩ :: children) = v2rayPids children := rfl

/-- Removing children by their pid. -/
theorem v2rayPids_filter_pid (p : ℕ → Bool) (children : List Child) :
    v2rayPids (children.filter fun c ↦ p c.pid) = (v2rayPids children).filter p := by
  rw [v2rayPids, v2rayPids, List.filter_map, List.filter_filter, List.filter_filter]
  congr 2
  funext c
  exact Bool.and_comm _ _

/-- Removing children that are not v2ray. -/
theorem v2rayPids_filter_other {p : Child → Bool} (hp : ∀ c, c.isV2ray = true → p c = true)
    (children : List Child) : v2rayPids (children.filter p) = v2rayPids children := by
  rw [v2rayPids, v2rayPids, List.filter_filter]
  congr 2
  funext c
  cases hc : c.isV2ray
  · rfl
  · rw [hp c hc]
    rfl

/-- Changing what is known about children without changing who they are. -/
theorem v2rayPids_map {f : Child → Child} (hv : ∀ c, (f c).isV2ray = c.isV2ray)
    (hp : ∀ c, (f c).pid = c.pid) (children : List Child) :
    v2rayPids (children.map f) = v2rayPids children := by
  rw [v2rayPids, v2rayPids, List.filter_map, List.map_map]
  congr 1
  · exact funext hp
  · exact congrArg₂ List.filter (funext hv) rfl

namespace Host

/-- The state of the supervisor matches the processes. -/
structure Supervised (h : Host) : Prop where
  running_iff : h.process.status = .running ↔
    0 < h.process.pid ∧ h.process.pid ∈ v2rayPids h.children
  atMostOne : (v2rayPids h.children).length ≤ 1
  stop_leaves_none : v2rayPids h.stop.children = []
  restart_leaves_new : ∀ fork, ∀ pid ∈ v2rayPids (h.restart fork).children, fork = some pid

/-- The invariant: either v2ray runs and is the one v2ray child, or it does not run and there is
none. No crash has been counted. -/
structure Consistent (h : Host) : Prop where
  cases : (h.process.status = .running ∧ 0 < h.process.pid ∧
      v2rayPids h.children = [h.process.pid]) ∨
    (h.process.status ≠ .running ∧ h.process.pid = 0 ∧ v2rayPids h.children = [])
  noCrash : h.process.crashCount = 0

/-- A poll that reaps a child while the status is `running`. -/
def ReapsWhileRunning (h : Host) (e : Event) : Prop :=
  (∃ now pick fork, e = .poll now pick fork) ∧ h.process.childExited = true ∧
    h.process.status = .running ∧ ∃ c ∈ h.children, c.exited = true

/-! ## What the operations do to a consistent state -/

theorem forked_eq_some {h : Host} {fork : Option ℕ} {pid : ℕ} (hf : h.forked fork = some pid) :
    fork = some pid ∧ 0 < pid := by
  rw [forked, Option.filter_eq_some_iff, isFree, Bool.and_eq_true, decide_eq_true_iff] at hf
  exact ⟨hf.1, hf.2.1⟩

/-- Starting: nothing happens to a running v2ray, and otherwise the child of the fork is the only
one. -/
theorem Consistent.doStart {h : Host} (hc : h.Consistent) (fork : Option ℕ) :
    (h.doStart fork).Consistent := by
  rw [Host.doStart]
  rcases hc.cases with ⟨hrun, -⟩ | ⟨hrun, hpid, hnone⟩
  · rw [if_pos hrun]
    exact hc
  · rw [if_neg hrun]
    rcases hf : h.forked fork with _ | pid
    · exact ⟨.inr ⟨(by decide : V2raynStatus.failed ≠ .running), hpid, hnone⟩, hc.noCrash⟩
    · refine ⟨.inl ⟨rfl, (forked_eq_some hf).2, ?_⟩, hc.noCrash⟩
      rw [v2rayPids_cons_v2ray, hnone]

/-- Stopping leaves no v2ray child. -/
theorem Consistent.doStop {h : Host} (hc : h.Consistent) :
    h.doStop.process.status ≠ .running ∧ h.doStop.process.pid = 0 ∧
      v2rayPids h.doStop.children = [] ∧ h.doStop.process.crashCount = 0 := by
  rw [Host.doStop]
  rcases hc.cases with ⟨-, hpos, hone⟩ | ⟨hrun, hpid, hnone⟩
  · rw [if_neg hpos.ne']
    refine ⟨(by decide : V2raynStatus.stopped ≠ .running), rfl, ?_, hc.noCrash⟩
    show v2rayPids (h.children.filter fun c ↦ c.pid != h.process.pid) = []
    rw [v2rayPids_filter_pid (· != h.process.pid), hone]
    simp
  · rw [if_pos hpid]
    exact ⟨hrun, hpid, hnone, hc.noCrash⟩

theorem Consistent.stop {h : Host} (hc : h.Consistent) : h.stop.Consistent :=
  ⟨.inr ⟨hc.doStop.1, hc.doStop.2.1, hc.doStop.2.2.1⟩, hc.doStop.2.2.2⟩

theorem Consistent.supervised {h : Host} (hc : h.Consistent) : h.Supervised where
  running_iff := by
    rcases hc.cases with ⟨hrun, hpos, hone⟩ | ⟨hrun, hpid, -⟩
    · rw [hone]
      exact ⟨fun _ ↦ ⟨hpos, List.mem_singleton_self _⟩, fun _ ↦ hrun⟩
    · exact ⟨fun h ↦ absurd h hrun, fun h ↦ absurd hpid h.1.ne'⟩
  atMostOne := by
    rcases hc.cases with ⟨-, -, hone⟩ | ⟨-, -, hnone⟩
    · rw [hone]
      rfl
    · rw [hnone]
      exact Nat.zero_le 1
  stop_leaves_none := hc.doStop.2.2.1
  restart_leaves_new := by
    intro fork pid hmem
    obtain ⟨hrun, -, hnone, -⟩ := hc.doStop
    rw [restart, Host.doStart, if_neg hrun] at hmem
    rcases hf : h.doStop.forked fork with _ | pid'
    · rw [hf] at hmem
      exact absurd (hnone ▸ hmem) List.not_mem_nil
    · rw [hf] at hmem
      change pid ∈ v2rayPids (⟨pid', true, false⟩ :: h.doStop.children) at hmem
      rw [v2rayPids_cons_v2ray, hnone, List.mem_singleton] at hmem
      rw [hmem]
      exact (forked_eq_some hf).1

/-! ## One step, and a run -/

private theorem waitAny_eq_none {h : Host} {pick : ℕ} (hnone : ¬∃ c ∈ h.children, c.exited = true) :
    h.waitAny pick = none := by
  rw [not_exists] at hnone
  rw [waitAny, Option.or_eq_none_iff, List.find?_eq_none, List.find?_eq_none]
  refine ⟨fun c hc he ↦ hnone c ⟨hc, ?_⟩, fun c hc he ↦ hnone c ⟨hc, he⟩⟩
  rw [Bool.and_eq_true] at he
  exact he.1

/-- A child that is reaped while v2ray does not run costs nothing. -/
theorem Consistent.checkChildExit {h : Host} (hc : h.Consistent) {now : SteadyTime} {pick : ℕ}
    {fork : Option ℕ} (hsafe : ¬h.ReapsWhileRunning (.poll now pick fork)) :
    (h.checkChildExit now pick fork).Consistent := by
  rw [Host.checkChildExit]
  by_cases hflag : h.process.childExited = true
  · rw [if_pos hflag, onChildExit]
    rcases hw : waitAny _ pick with _ | c
    · exact ⟨hc.cases, hc.noCrash⟩
    · have hrun : h.process.status ≠ .running := by
        intro hrun
        refine hsafe ⟨⟨now, pick, fork, rfl⟩, hflag, hrun, ?_⟩
        by_contra hnone
        have hnone' : waitAny { h with process := { h.process with childExited := false } } pick
            = none := waitAny_eq_none hnone
        rw [hnone'] at hw
        cases hw
      rcases hc.cases with ⟨hrun', -⟩ | ⟨-, hpid, hnone⟩
      · exact absurd hrun' hrun
      · show (if _ then _ else _ : Host).Consistent
        rw [if_pos (.inr hrun)]
        refine ⟨.inr ⟨hrun, rfl, ?_⟩, hc.noCrash⟩
        show v2rayPids (h.children.filter fun d ↦ d.pid != c.pid) = []
        rw [v2rayPids_filter_pid (· != c.pid), hnone]
        rfl
  · rw [if_neg hflag]
    exact hc

/-- Changes of the other children do not concern the supervisor. -/
theorem Consistent.of_v2rayPids_eq {h t : Host} (hc : h.Consistent)
    (hpids : v2rayPids t.children = v2rayPids h.children)
    (hstatus : t.process.status = h.process.status) (hpid : t.process.pid = h.process.pid)
    (hcrash : t.process.crashCount = h.process.crashCount) : t.Consistent := by
  refine ⟨?_, hcrash.trans hc.noCrash⟩
  rw [hpids, hstatus, hpid]
  exact hc.cases

/-- **One step.** Every event but a poll that reaps while v2ray runs keeps the invariant. -/
theorem Consistent.next {h : Host} (hc : h.Consistent) {e : Event}
    (hsafe : ¬h.ReapsWhileRunning e) : (h.next e).Consistent := by
  cases e with
  | start execPath configPath logPath fork =>
    have hpaths : ({ h with process := { h.process with
        execPath := execPath, configPath := configPath, logPath := logPath } } : Host).Consistent :=
      hc.of_v2rayPids_eq rfl rfl rfl rfl
    exact hpaths.doStart fork
  | stop => exact hc.stop
  | restart fork => exact hc.stop.doStart fork
  | poll now pick fork => exact hc.checkChildExit hsafe
  | childExits pid =>
    rw [Host.next, Host.childExits]
    split
    · refine hc.of_v2rayPids_eq (v2rayPids_map (fun c ↦ ?_) (fun c ↦ ?_) _) rfl rfl rfl
      · split <;> rfl
      · split <;> rfl
    · exact hc
  | otherSpawned pid =>
    rw [Host.next, Host.otherSpawned]
    split
    · exact hc.of_v2rayPids_eq (v2rayPids_cons_other pid false _) rfl rfl rfl
    · exact hc
  | otherReaped pid =>
    refine hc.of_v2rayPids_eq (v2rayPids_filter_other (fun c hv ↦ ?_) _) rfl rfl rfl
    rw [hv]
    simp
  | signalDelivered => exact hc.of_v2rayPids_eq rfl rfl rfl rfl

private theorem exists_waitAny {h : Host} (hex : ∃ c ∈ h.children, c.exited = true) (pick : ℕ) :
    ∃ c, h.waitAny pick = some c := by
  obtain ⟨c, hc, he⟩ := hex
  rcases hw : h.waitAny pick with _ | d
  · rw [waitAny, Option.or_eq_none_iff, List.find?_eq_none, List.find?_eq_none] at hw
    exact absurd he (hw.2 c hc)
  · exact ⟨d, rfl⟩

/-- The first crash opens a window of its own, so it is counted as the first of that window. -/
theorem restartWindow_first {p : V2raynProcess} (hp : p.crashCount = 1) (now : SteadyTime) :
    restartWindow p now = { p with crashWindowStart := now } := by
  rw [restartWindow, if_pos hp]
  refine if_neg ?_
  show ¬5 ≤ (now - now).tdiv 60000000000
  rw [Int.sub_self]
  decide

/-- The window changes nothing but the count and where it begins. -/
theorem exists_restartWindow_eq (p : V2raynProcess) (now : SteadyTime) :
    ∃ n start, restartWindow p now = { p with crashCount := n, crashWindowStart := start } := by
  rw [restartWindow]
  split <;> split <;> exact ⟨_, _, rfl⟩

/-- A poll that reaps while v2ray runs leaves the status `running` without a pid. -/
theorem reapsWhileRunning_next {h : Host} (hcrash : h.process.crashCount = 0) {e : Event}
    (hreap : h.ReapsWhileRunning e) :
    (h.next e).process.status = .running ∧ (h.next e).process.pid = 0 := by
  obtain ⟨⟨now, pick, fork, rfl⟩, hflag, hrun, hex⟩ := hreap
  rw [Host.next, Host.checkChildExit, if_pos hflag, onChildExit]
  obtain ⟨c, hw⟩ := exists_waitAny (h := { h with
    process := { h.process with childExited := false } }) hex pick
  rw [hw]
  dsimp only
  split
  · exact ⟨hrun, rfl⟩
  · -- `do_start` finds the status it is meant to change and returns
    rw [restartWindow_first (by rw [hcrash])]
    dsimp only
    rw [hcrash, if_neg (by decide), Host.doStart]
    dsimp only
    rw [if_pos hrun]
    exact ⟨hrun, rfl⟩

theorem not_supervised_of_reapsWhileRunning {h : Host} (hc : h.Consistent) {e : Event}
    (hreap : h.ReapsWhileRunning e) : ¬(h.next e).Supervised := by
  obtain ⟨hrun, hpid⟩ := reapsWhileRunning_next hc.noCrash hreap
  intro hs
  have hpos := (hs.running_iff.mp hrun).1
  rw [hpid] at hpos
  exact Nat.lt_irrefl 0 hpos

theorem consistent_init : ({} : Host).Consistent := ⟨.inr ⟨by decide, rfl, rfl⟩, rfl⟩

/-- **The supervisor matches the process** in every state of a run exactly when no poll of the run
reaps a child while the status is `running`. -/
theorem along_iff_supervised (es : List Event) :
    Along step (fun h e ↦ ¬h.ReapsWhileRunning e) {} es ↔ Throughout step Supervised {} es := by
  refine along_iff_throughout (I := Consistent) (fun h hc ↦ hc.supervised) ?_ ?_ consistent_init
  · rintro h e t hc hsafe ht
    cases ht
    exact hc.next hsafe
  · intro h e hc hbad
    exact ⟨h.next e, rfl, not_supervised_of_reapsWhileRunning hc (not_not.mp hbad)⟩

/-- v2ray is started, exits, and the exit is polled. -/
def crashRun : List Event :=
  [.start [] [] [] (some 7), .childExits 7, .signalDelivered, .poll 0 0 (some 8)]

/-- After one crash the status is `running` and there is no v2ray child. -/
theorem crashRun_not_supervised :
    ∃ h, run step ({} : Host) crashRun = .ok h ∧ h.process.status = .running ∧
      v2rayPids h.children = [] ∧ ¬h.Supervised := by
  refine ⟨_, rfl, rfl, rfl, fun hs ↦ ?_⟩
  exact absurd (hs.running_iff.mp rfl).1 (by decide)

end Host

end LanProxyGateway
