import LanProxyGateway.Concurrency.Scheduling

/-!
# What the status of a node says about its past

The health checker keeps a status and a count for each tag, and forgets everything else. What was
found out about a tag can still be read off them: it is unavailable exactly when the last probes of
it have failed as often as the threshold, or when it was marked and every probe since has failed; it
is available exactly when nothing has been found out about it or the last probe was a success
(`health_of_run`).

The events of all tags are interleaved with each other and with the requests and choices around
them. What concerns one tag is picked out first (`findings`), and the entry of the tag is a function
of that (`judged_apply`).
-/

open Foundation ByteString

namespace LanProxyGateway

open NodeStore

/-- What comes out about a tag. -/
inductive Finding
  | success
  | failure
  | marked
  | cleared
  deriving DecidableEq, Repr

/-- An operation of the checker that writes. -/
inductive HealthEvent
  | probed (tag : ByteString) (now : SteadyTime) (success : Bool) (elapsedMs : Int)
  | markUnavailable (tag : ByteString)
  | markAvailable (tag : ByteString)

namespace HealthEvent

def tag : HealthEvent → ByteString
  | probed tag _ _ _ => tag
  | markUnavailable tag => tag
  | markAvailable tag => tag

def finding : HealthEvent → Finding
  | probed _ _ success _ => if success then .success else .failure
  | markUnavailable _ => .marked
  | markAvailable _ => .cleared

/-- What the event makes of the entry of its tag. -/
def write (threshold : Int) (info : NodeHealthInfo) : HealthEvent → NodeHealthInfo
  | probed _ now success elapsedMs => info.probed threshold now success elapsedMs
  | markUnavailable _ => { info with status := .unavailable, consecutiveFailures := threshold }
  | markAvailable _ => { info with status := .available, consecutiveFailures := 0 }

end HealthEvent

/-- What comes out about one tag, from the first event on. -/
def findings (tag : ByteString) (es : List HealthEvent) : List Finding :=
  (es.filter (·.tag = tag)).map (·.finding)

theorem findings_concat (tag : ByteString) (es : List HealthEvent) (e : HealthEvent) :
    findings tag (es ++ [e]) = if e.tag = tag then findings tag es ++ [e.finding]
      else findings tag es := by
  rw [findings, List.filter_append, List.map_append, List.filter_singleton]
  split_ifs with htag
  · rw [decide_eq_true htag, cond_true]
    rfl
  · rw [decide_eq_false htag, cond_false, List.map_nil, List.append_nil, findings]

namespace NodeHealthChecker

/-- `node_health_checker::mark_available`. -/
def markAvailable (h : NodeHealthChecker) (tag : ByteString) : NodeHealthChecker :=
  h.modifyInfo tag fun info ↦ { info with status := .available, consecutiveFailures := 0 }

def apply (h : NodeHealthChecker) : HealthEvent → NodeHealthChecker
  | .probed tag now success elapsedMs => h.recordProbe tag now success elapsedMs
  | .markUnavailable tag => h.markUnavailable tag
  | .markAvailable tag => h.markAvailable tag

end NodeHealthChecker

/-! ## Counting -/

/-- The count of failures in a row, behind one more finding. -/
def afterFinding (threshold n : Int) : Finding → Int
  | .success => 0
  | .failure => n + 1
  | .marked => threshold
  | .cleared => 0

/-- The count that a tag comes to. A mark counts as many failures as it takes. -/
def streak (threshold : Int) (fs : List Finding) : Int := fs.foldl (afterFinding threshold) 0

/-- The status that a tag comes to. -/
def verdict (threshold : Int) (fs : List Finding) : NodeHealthStatus :=
  if threshold ≤ streak threshold fs then .unavailable
  else if fs.getLast? = some .failure then .unstable
  else .available

@[simp] theorem streak_nil (threshold : Int) : streak threshold [] = 0 := rfl

theorem streak_concat (threshold : Int) (fs : List Finding) (f : Finding) :
    streak threshold (fs ++ [f]) = afterFinding threshold (streak threshold fs) f := by
  rw [streak, List.foldl_concat, streak]

theorem streak_bounds {threshold : Int} (hpos : 1 ≤ threshold) (fs : List Finding) :
    0 ≤ streak threshold fs ∧ streak threshold fs ≤ threshold + fs.length := by
  induction fs using List.reverseRecOn with
  | nil =>
    rw [streak_nil, List.length_nil]
    omega
  | append_singleton fs f ih =>
    rw [streak_concat, List.length_append, List.length_singleton]
    cases f with
    | success | cleared | marked => simp only [afterFinding]; omega
    | failure => simp only [afterFinding]; omega

/-- The entry of a tag is what its findings come to. -/
structure Judged (threshold : Int) (fs : List Finding) (info : NodeHealthInfo) : Prop where
  count : info.consecutiveFailures = streak threshold fs
  status : info.status = verdict threshold fs

section Judged

variable {threshold : Int} {fs : List Finding} {info : NodeHealthInfo}

theorem Judged.tagged (h : Judged threshold fs info) (tag : ByteString) :
    Judged threshold fs { info with tag := tag } := ⟨h.count, h.status⟩

theorem Judged.success (hpos : 1 ≤ threshold) (now : SteadyTime) (elapsedMs : Int) :
    Judged threshold (fs ++ [.success]) (info.probed threshold now true elapsedMs) := by
  have hstreak : streak threshold (fs ++ [.success]) = 0 := streak_concat threshold fs .success
  have hnot : ¬threshold ≤ 0 := by omega
  refine ⟨?_, ?_⟩
  · simp only [NodeHealthInfo.probed, if_true, hstreak]
    split <;> rfl
  · simp only [NodeHealthInfo.probed, if_true, verdict, hstreak, if_neg hnot]
    rw [if_pos (by omega), List.getLast?_concat]
    rfl

theorem Judged.failure (h : Judged threshold fs info) (hpos : 1 ≤ threshold)
    (hroom : threshold + fs.length < 2147483647) (now : SteadyTime) (elapsedMs : Int) :
    Judged threshold (fs ++ [.failure]) (info.probed threshold now false elapsedMs) := by
  obtain ⟨hlo, hhi⟩ := streak_bounds hpos fs
  have hstreak : streak threshold (fs ++ [.failure]) = streak threshold fs + 1 :=
    streak_concat threshold fs .failure
  have hcast : Json.castInt (info.consecutiveFailures + 1) = streak threshold fs + 1 := by
    rw [h.count]
    exact Json.castInt_of_bounds (by omega) (by omega)
  have hsome : 0 < streak threshold fs + 1 := by omega
  simp only [NodeHealthInfo.probed, Bool.false_eq_true, if_false, hcast]
  refine ⟨?_, ?_⟩
  · split_ifs <;> exact hstreak.symm
  · rw [verdict, hstreak, List.getLast?_concat, if_pos rfl]
    split_ifs
    · rfl
    · rfl

theorem Judged.marked : Judged threshold (fs ++ [.marked])
    { info with status := .unavailable, consecutiveFailures := threshold } := by
  have hstreak : streak threshold (fs ++ [.marked]) = threshold :=
    streak_concat threshold fs .marked
  refine ⟨hstreak.symm, ?_⟩
  rw [verdict, hstreak, if_pos le_rfl]

theorem Judged.cleared (hpos : 1 ≤ threshold) : Judged threshold (fs ++ [.cleared])
    { info with status := .available, consecutiveFailures := 0 } := by
  have hstreak : streak threshold (fs ++ [.cleared]) = 0 := streak_concat threshold fs .cleared
  have hnot : ¬threshold ≤ 0 := by omega
  refine ⟨hstreak.symm, ?_⟩
  rw [verdict, hstreak, if_neg hnot, List.getLast?_concat]
  rfl

/-- **One event** adds its finding to those of its tag. -/
theorem Judged.write (h : Judged threshold fs info) (hpos : 1 ≤ threshold)
    (hroom : threshold + fs.length < 2147483647) (e : HealthEvent) :
    Judged threshold (fs ++ [e.finding]) (e.write threshold info) := by
  cases e with
  | probed tag now success elapsedMs =>
    rcases success with _ | _
    · exact h.failure hpos hroom now elapsedMs
    · exact .success hpos now elapsedMs
  | markUnavailable tag => exact .marked
  | markAvailable tag => exact .cleared hpos

end Judged

/-! ## All events -/

theorem failureThreshold_foldl_apply (h : NodeHealthChecker) (es : List HealthEvent) :
    (es.foldl NodeHealthChecker.apply h).failureThreshold = h.failureThreshold := by
  induction es generalizing h with
  | nil => rfl
  | cons e es ih =>
    rw [List.foldl_cons, ih]
    cases e <;> rfl

theorem getInfo_apply_self (h : NodeHealthChecker) (e : HealthEvent) :
    (h.apply e).getInfo e.tag =
      e.write h.failureThreshold { h.getInfo e.tag with tag := e.tag } := by
  cases e with
  | probed | markUnavailable | markAvailable => exact NodeHealthChecker.getInfo_modifyInfo _

/-- An event writes the entry of its own tag. -/
theorem getInfo_apply_ne (h : NodeHealthChecker) {e : HealthEvent} {tag : ByteString}
    (hne : e.tag ≠ tag) : (h.apply e).getInfo tag = h.getInfo tag := by
  cases e with
  | probed | markUnavailable | markAvailable =>
    exact NodeHealthChecker.getInfo_modifyInfo_ne hne.symm _

/-- **Each entry is what its tag has come to**, whatever has happened to the others. -/
theorem judged_apply {h : NodeHealthChecker} (hempty : h.health = ∅)
    (hpos : 1 ≤ h.failureThreshold) {es : List HealthEvent} {tag : ByteString}
    (hroom : h.failureThreshold + (findings tag es).length ≤ 2147483647) :
    Judged h.failureThreshold (findings tag es)
      ((es.foldl NodeHealthChecker.apply h).getInfo tag) := by
  induction es using List.reverseRecOn with
  | nil =>
    have hnone : h.getInfo tag = {} := by
      rw [NodeHealthChecker.getInfo, hempty]
      rfl
    have hnot : ¬h.failureThreshold ≤ 0 := by omega
    rw [List.foldl_nil, hnone]
    refine ⟨rfl, ?_⟩
    rw [findings, List.filter_nil, List.map_nil, verdict, streak_nil, if_neg hnot]
    rfl
  | append_singleton es e ih =>
    rw [findings_concat] at hroom
    rw [List.foldl_concat, findings_concat]
    split_ifs with htag
    · rw [if_pos htag, List.length_append, List.length_singleton] at hroom
      have hbefore := ih (by omega)
      subst htag
      rw [getInfo_apply_self, failureThreshold_foldl_apply]
      exact (hbefore.tagged e.tag).write hpos (by omega) e
    · rw [if_neg htag] at hroom
      rw [getInfo_apply_ne _ htag]
      exact ih hroom

/-! ## Reading the status -/

/-- The findings end in as many failures as the threshold, or in a mark with only failures behind
it. -/
def Condemned (threshold : Int) (fs : List Finding) : Prop :=
  ∃ (earlier : List Finding) (n : ℕ), fs = earlier ++ List.replicate n .failure ∧
    (threshold ≤ n ∨ earlier.getLast? = some .marked)

theorem condemned_of_nonpos {n : Int} (hn : n ≤ 0) (fs : List Finding) : Condemned n fs :=
  ⟨fs, 0, (List.append_nil fs).symm, .inl hn⟩

/-- One more failure leaves one less to go. -/
theorem condemned_failure_iff {n : Int} (hn : 1 ≤ n) (fs : List Finding) :
    Condemned n (fs ++ [.failure]) ↔ Condemned (n - 1) fs := by
  constructor
  · rintro ⟨earlier, k, hfs, hmany⟩
    cases k with
    | zero =>
      rw [List.replicate_zero, List.append_nil] at hfs
      rw [← hfs, List.getLast?_concat] at hmany
      rcases hmany with hmany | hmarked
      · omega
      · cases hmarked
    | succ k =>
      rw [List.replicate_succ', ← List.append_assoc] at hfs
      obtain ⟨hfs, -⟩ := List.append_inj' hfs rfl
      exact ⟨earlier, k, hfs, hmany.imp_left fun h ↦ by omega⟩
  · rintro ⟨earlier, k, hfs, hmany⟩
    refine ⟨earlier, k + 1, ?_, hmany.imp_left fun h ↦ by omega⟩
    rw [hfs, List.replicate_succ', List.append_assoc]

theorem condemned_concat_iff {n : Int} (hn : 1 ≤ n) (fs : List Finding) {f : Finding}
    (hf : f ≠ .failure) : Condemned n (fs ++ [f]) ↔ f = .marked := by
  constructor
  · rintro ⟨earlier, k, hfs, hmany⟩
    cases k with
    | zero =>
      rw [List.replicate_zero, List.append_nil] at hfs
      rw [← hfs, List.getLast?_concat] at hmany
      exact Option.some.inj (hmany.resolve_left fun h ↦ by omega)
    | succ k =>
      rw [List.replicate_succ', ← List.append_assoc] at hfs
      obtain ⟨-, hlast⟩ := List.append_inj' hfs rfl
      exact absurd (List.cons.inj hlast).1 hf
  · rintro rfl
    exact ⟨fs ++ [.marked], 0, (List.append_nil _).symm, .inr List.getLast?_concat⟩

/-- The count says which findings the list ends in. In the induction the number that is asked for
goes down by one with each failure. -/
theorem le_streak_iff {threshold n : Int} (hpos : 1 ≤ threshold) (hle : n ≤ threshold)
    (fs : List Finding) : n ≤ streak threshold fs ↔ Condemned n fs := by
  induction fs using List.reverseRecOn generalizing n with
  | nil =>
    rw [streak_nil]
    refine ⟨fun hn ↦ condemned_of_nonpos hn [], ?_⟩
    rintro ⟨earlier, k, hfs, hmany⟩
    obtain ⟨rfl, hnone⟩ := List.append_eq_nil_iff.mp hfs.symm
    rw [List.replicate_eq_nil_iff] at hnone
    rcases hmany with hmany | hmarked
    · omega
    · cases hmarked
  | append_singleton fs f ih =>
    obtain ⟨hlo, -⟩ := streak_bounds hpos (fs ++ [f])
    rcases lt_or_ge n 1 with hn | hn
    · exact iff_of_true (by omega) (condemned_of_nonpos (by omega) _)
    by_cases hf : f = .failure
    · have hbefore := ih (n := n - 1) (by omega)
      rw [hf, condemned_failure_iff hn, ← hbefore, streak_concat, afterFinding]
      omega
    · rw [condemned_concat_iff hn fs hf, streak_concat]
      cases f with
      | success | cleared => exact iff_of_false (not_le.mpr (by rw [afterFinding]; omega)) nofun
      | failure => exact absurd rfl hf
      | marked => exact iff_of_true hle rfl

theorem verdict_eq_unavailable_iff {threshold : Int} (hpos : 1 ≤ threshold) (fs : List Finding) :
    verdict threshold fs = .unavailable ↔ Condemned threshold fs := by
  rw [← le_streak_iff hpos le_rfl, verdict]
  split_ifs with hmany hlast
  · exact iff_of_true rfl hmany
  · exact iff_of_false nofun hmany
  · exact iff_of_false nofun hmany

theorem verdict_eq_available_iff {threshold : Int} (hpos : 1 ≤ threshold) (fs : List Finding) :
    verdict threshold fs = .available ↔
      ∀ f, fs.getLast? = some f → f = .success ∨ f = .cleared := by
  induction fs using List.reverseRecOn with
  | nil =>
    have hnot : ¬threshold ≤ 0 := by omega
    rw [verdict, streak_nil, if_neg hnot]
    exact iff_of_true rfl nofun
  | append_singleton fs f =>
    have hnot : ¬threshold ≤ 0 := by omega
    rw [verdict, streak_concat, List.getLast?_concat]
    simp only [Option.some.injEq, forall_eq']
    cases f with
    | success => exact iff_of_true (by rw [afterFinding, if_neg hnot]; rfl) (.inl rfl)
    | cleared => exact iff_of_true (by rw [afterFinding, if_neg hnot]; rfl) (.inr rfl)
    | marked => exact iff_of_false (by rw [afterFinding, if_pos le_rfl]; nofun) (by simp)
    | failure =>
      refine iff_of_false ?_ (by simp)
      simp only [if_true]
      split_ifs
      · nofun
      · nofun

/-! ## Runs of the scheduler -/

namespace Scheduler

/-- What an event tells the checker. -/
def told (s : Scheduler) : Event → List HealthEvent
  | .request (.removeNode tag) disk =>
    if isTold disk s.store (.removeNode tag) then [.markUnavailable tag] else []
  | .probeEnds tag success elapsedMs =>
    if tag ∈ s.probing then [.probed tag s.now success elapsedMs] else []
  | .markUnavailable tag => [.markUnavailable tag]
  | _ => []

/-- What the checker is told along a run. -/
def heard (lib : LinkLibrary) : Scheduler → List (ℕ × Event) → List HealthEvent
  | _, [] => []
  | s, e :: es =>
    told { s with now := s.now + e.1 } e.2 ++
      match step lib s e with
      | .ok t => heard lib t es
      | .error _ => []

variable {lib : LinkLibrary}

/-- The checker is told of what it has to write, and of nothing else. -/
theorem health_step {s t : Scheduler} {e : ℕ × Event} (ht : step lib s e = .ok t) :
    t.health = (told { s with now := s.now + e.1 } e.2).foldl NodeHealthChecker.apply s.health := by
  obtain ⟨d, event⟩ := e
  rw [step] at ht
  cases event with
  | request request disk =>
    obtain rfl := Except.ok.inj ht
    cases request with
    | removeNode tag =>
      rw [told]
      split
      · rfl
      · rfl
    | addNode node =>
      simp only [afterRequest, checkNow]
      split_ifs <;> rfl
    | _ =>
      simp only [afterRequest]
      split_ifs <;> rfl
  | probeEnds tag success elapsedMs =>
    obtain rfl := Except.ok.inj ht
    rw [told]
    split
    · rfl
    · rfl
  | checkNow tag =>
    obtain rfl := Except.ok.inj ht
    rw [checkNow]
    split
    · rfl
    · rfl
  | selectNode | selectFallbackNode =>
    obtain ⟨r, -, rfl⟩ := exists_of_map_eq_ok ht
    rfl
  | _ =>
    obtain rfl := Except.ok.inj ht
    rfl

theorem health_run {s t : Scheduler} {es : List (ℕ × Event)}
    (ht : run (step lib) s es = .ok t) :
    t.health = (heard lib s es).foldl NodeHealthChecker.apply s.health := by
  induction es generalizing s with
  | nil =>
    obtain rfl := Except.ok.inj ht
    rfl
  | cons e es ih =>
    rw [run_cons] at ht
    cases hu : step lib s e with
    | error x =>
      rw [hu] at ht
      cases ht
    | ok u =>
      rw [hu] at ht
      rw [heard, hu, List.foldl_append, ← health_step hu]
      exact ih ht

/-- **What a status says.** In every run of the scheduler from its start, a tag is unavailable
exactly when its findings end in as many failures as the threshold, or in a mark with only failures
behind it; it is available exactly when they are none or end in a success. -/
theorem health_of_run {cfg : SystemConfig} {store : NodeStore} {now : SteadyTime}
    {es : List (ℕ × Event)} {t : Scheduler} {tag : ByteString}
    (hpos : 1 ≤ cfg.healthFailureThreshold)
    (hroom : cfg.healthFailureThreshold +
      (findings tag (heard lib (start cfg store now) es)).length ≤ 2147483647)
    (ht : run (step lib) (start cfg store now) es = .ok t) :
    (t.health.getStatus tag = .unavailable ↔
      Condemned cfg.healthFailureThreshold (findings tag (heard lib (start cfg store now) es))) ∧
    (t.health.getStatus tag = .available ↔
      ∀ f, (findings tag (heard lib (start cfg store now) es)).getLast? = some f →
        f = .success ∨ f = .cleared) := by
  have hthreshold : (start cfg store now).health.failureThreshold = cfg.healthFailureThreshold :=
    rfl
  have hjudged : Judged cfg.healthFailureThreshold
      (findings tag (heard lib (start cfg store now) es)) (t.health.getInfo tag) := by
    rw [health_run ht, ← hthreshold]
    exact judged_apply rfl hpos hroom
  rw [NodeHealthChecker.getStatus_eq, hjudged.status]
  exact ⟨verdict_eq_unavailable_iff hpos _, verdict_eq_available_iff hpos _⟩

/-- Three probes of one node, one after the other. -/
def failedProbes : List (ℕ × Event) :=
  (List.replicate 3 [(0, .checkNow (ofString "vmess-1")),
    (5000000000, .probeEnds (ofString "vmess-1") false 5000)]).flatten

/-- The third failure makes the node unavailable. -/
theorem failedProbes_unavailable : ∃ t,
    run (step noLibrary) (start {} twoNodeStore 0) failedProbes = .ok t ∧
      t.health.getStatus (ofString "vmess-1") = .unavailable := by
  have hrun : (run (step noLibrary) (start {} twoNodeStore 0) failedProbes).toOption.map
      (fun t ↦ t.probing) = some [] := by decide +kernel
  obtain ⟨t, ht, -⟩ := exists_run_of_observation hrun
  have hfindings : findings (ofString "vmess-1")
      (heard noLibrary (start {} twoNodeStore 0) failedProbes) =
        [] ++ List.replicate 3 .failure := by decide +kernel
  exact ⟨t, ht, (health_of_run (by decide) (by rw [hfindings]; decide) ht).1.mpr
    ⟨[], 3, hfindings, .inl (by decide)⟩⟩

end Scheduler

end LanProxyGateway
