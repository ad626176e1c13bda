import LanProxyGateway.RouteDecision.Reload
import LanProxyGateway.RouteDecision.RuleManager

/-!
# Does routing survive a restart?

The rule manager keeps the file of the custom rules in step with the engine, so a fresh engine loads
the very list that the running one has. But it builds its index from that list, while the index of
the running engine is still the one of the list it started with. A rule that was removed goes on to
decide through the index until the restart, and a rule without an id, which decides through the
index only, begins to decide with the restart. `routing_survives_iff` says for which requests this
makes no difference.
-/

open Foundation ByteString

namespace LanProxyGateway

namespace RouteEngine

variable {files : ByteString → FileContent} {geoipAvailable : Bool}
  {builtinPath customPath defaultAction : ByteString} {e : RouteEngine}

/-- What is left for a request that no rule decides about is the same for all of them. -/
theorem LoadedFrom.unruled_eq {files' : ByteString → FileContent} {customPath' : ByteString}
    {e' : RouteEngine}
    (h : LoadedFrom files geoipAvailable builtinPath customPath defaultAction e)
    (h' : LoadedFrom files' geoipAvailable builtinPath customPath' defaultAction e')
    (isChina : ByteString → Bool) (ip : ByteString) :
    e'.unruled isChina ip = e.unruled isChina ip := by
  rw [unruled, unruled, matchGeoip, matchGeoip, h.geoipAvailable, h'.geoipAvailable,
    h.defaultAction, h'.defaultAction]

end RouteEngine

namespace RuleManager

open RouteEngine

variable {files files' : ByteString → FileContent} {geoipAvailable : Bool}
  {builtinPath customPath geoipDbPath defaultAction : ByteString} {std : PrioritySort}

/-! ## The file stays in step -/

/-- The engine goes back to an `init`, and a fresh one would load its custom rules from the file. -/
structure Tracked (files : ByteString → FileContent) (geoipAvailable : Bool)
    (builtinPath customPath defaultAction : ByteString) (s : Rules) : Prop where
  loaded : LoadedFrom files geoipAvailable builtinPath customPath defaultAction s.engine
  unflagged : ∀ rule ∈ s.engine.customRules, rule.isBuiltin = false
  file : (if customPath.isEmpty then [] else rulesIn false s.customFile) = s.engine.customRules

/-- A process that has just started. -/
def started (files : ByteString → FileContent) (geoipAvailable : Bool)
    (builtinPath customPath geoipDbPath defaultAction : ByteString) : Rules where
  engine := init {} files geoipAvailable builtinPath customPath geoipDbPath defaultAction
  customFile := files customPath

theorem tracked_started : Tracked files geoipAvailable builtinPath customPath defaultAction
    (started files geoipAvailable builtinPath customPath geoipDbPath defaultAction) where
  loaded := loadedFrom_init
  unflagged rule hrule := by
    change rule ∈ (if customPath.isEmpty then [] else rulesIn false (files customPath)) at hrule
    split at hrule
    · exact absurd hrule List.not_mem_nil
    · exact isBuiltin_of_mem_rulesIn hrule
  file := rfl

/-- A change whose save succeeds is in the file. -/
theorem tracked_saved (s : Rules) {answer : SaveAnswer}
    (hpath : customPath ≠ []) (hopens : answer.opensTmp = true) (hrenames : answer.renames = true)
    {e : RouteEngine}
    (hloaded : LoadedFrom files geoipAvailable builtinPath customPath defaultAction e)
    (hunflagged : ∀ rule ∈ e.customRules, rule.isBuiltin = false) :
    Tracked files geoipAvailable builtinPath customPath defaultAction
      (s.saved customPath answer e) where
  loaded := hloaded
  unflagged := hunflagged
  file := by
    have hbuiltin : ∀ rule ∈ e.builtinRules, rule.isBuiltin := by
      intro rule hrule
      rw [hloaded.builtinRules, rulesAt] at hrule
      split at hrule
      · exact absurd hrule List.not_mem_nil
      · exact isBuiltin_of_mem_rulesIn hrule
    have hempty : ¬customPath.isEmpty := fun hempty ↦ hpath (List.isEmpty_iff.mp hempty)
    rw [Rules.saved, if_neg hempty, if_neg hempty, saveToFile, hopens, hrenames]
    exact rulesIn_savedRules hbuiltin hunflagged

/-- **Calls keep the file in step.** -/
theorem Tracked.step {s t : Rules} {c : Call × SaveAnswer}
    (h : Tracked files geoipAvailable builtinPath customPath defaultAction s)
    (hsaves : Saves customPath c) (hstep : callStep std customPath s c = .ok t) :
    Tracked files geoipAvailable builtinPath customPath defaultAction t := by
  obtain rfl := Except.ok.inj hstep
  obtain ⟨hpath, hopens, hrenames⟩ := hsaves
  rcases c with ⟨rule | ruleId, answer⟩
  · refine tracked_saved s hpath hopens hrenames (h.loaded.with_customRules _) fun r hr ↦ ?_
    rcases List.mem_append.mp ((std.perm _).mem_iff.mp hr) with hr | hr
    · exact h.unflagged r hr
    · rw [List.mem_singleton.mp hr]
      exact rule.unflagged
  · change Tracked _ _ _ _ _ (removeRule customPath answer s ruleId).2
    rw [removeRule, removeCustomRule]
    rcases s.engine.customRules.find? _ with _ | rule
    · exact h
    · simp only
      split_ifs
      · exact h
      · refine tracked_saved s hpath hopens hrenames (h.loaded.with_customRules _) fun r hr ↦ ?_
        exact h.unflagged r (List.mem_of_mem_eraseP hr)

/-! ## The exact condition -/

/-- **When routing survives a restart.** After calls that all saved, the running engine and a fresh
one agree about a request exactly when a custom rule with an id decides about it, or the rules the
running engine was loaded with and the rules it has now choose alike for the host. -/
theorem routing_survives_iff (isChina : ByteString → Bool) {calls : List (Call × SaveAnswer)}
    {s : Rules}
    (hsaves : Along (callStep std customPath) (fun _ c ↦ Saves customPath c)
      (started files geoipAvailable builtinPath customPath geoipDbPath defaultAction) calls)
    (hrun : run (callStep std customPath)
      (started files geoipAvailable builtinPath customPath geoipDbPath defaultAction) calls = .ok s)
    (hbuiltin : files' builtinPath = files builtinPath) (hcustom : files' customPath = s.customFile)
    (host ip : ByteString) :
    (RouteEngine.decide isChina s.engine host ip).action = (RouteEngine.decide isChina
        (started files' geoipAvailable builtinPath customPath geoipDbPath defaultAction).engine
        host ip).action ↔
      (decidingRule s.engine.customRules host ip).isSome ∨
        (chosenDomain (rulesAt files true builtinPath ++ rulesAt files false customPath) host).getD
            (s.engine.unruled isChina ip) =
          (chosenDomain (s.engine.builtinRules ++ s.engine.customRules) host).getD
            (s.engine.unruled isChina ip) := by
  have htracked : Tracked files geoipAvailable builtinPath customPath defaultAction s :=
    run_induction (fun _ _ _ h hsaves hstep ↦ h.step hsaves hstep) tracked_started hsaves hrun
  have hfresh : LoadedFrom files' geoipAvailable builtinPath customPath defaultAction
      (started files' geoipAvailable builtinPath customPath geoipDbPath defaultAction).engine :=
    loadedFrom_init
  have hrules : rulesAt files' false customPath = s.engine.customRules := by
    rw [← htracked.file, ← hcustom, rulesAt]
  have hsame : rulesAt files' true builtinPath = s.engine.builtinRules := by
    rw [htracked.loaded.builtinRules, rulesAt, rulesAt, hbuiltin]
  have hdecides : (started files' geoipAvailable builtinPath customPath geoipDbPath
      defaultAction).engine.customRules = s.engine.customRules := hrules
  rw [action_decide htracked.loaded.index, action_decide hfresh.index, hdecides, hrules, hsame,
    htracked.loaded.unruled_eq hfresh]
  rcases decidingRule s.engine.customRules host ip with _ | rule
  · simp
  · simp

/-- The rule that names under `.com` go out directly. -/
def comRule : CustomRule where
  ruleId := Text.lit "com"
  ruleType := Text.lit "domain_suffix"
  pattern := Text.lit ".com"
  action := .direct
  unflagged := rfl

/-- It starts. -/
def cnStarted (files : ByteString → FileContent) : Rules :=
  started files false (ofString "builtin_rules.json") (ofString "custom_rules.json") []
    (ofString "proxy")

/-- What a process finds that starts after the given one. -/
def filesAfter (s : Rules) : ByteString → FileContent := fun path ↦
  if path = ofString "custom_rules.json" then s.customFile else cnCustomFiles path

/-- A call that is saved. -/
theorem along_singleton {customPath : ByteString} {s : Rules} {c : Call}
    (hpath : customPath ≠ []) : Along (callStep std customPath) (fun _ c ↦ Saves customPath c) s
      [(c, {})] :=
  ⟨⟨hpath, rfl, rfl⟩, fun _ _ ↦ trivial⟩

/-- The rule that is added decides at once, and after a restart. -/
theorem routing_survives_addition : ∃ s,
    run (callStep .stable (ofString "custom_rules.json")) (cnStarted cnCustomFiles)
        [(.addRule comRule, {})] = .ok s ∧
      (RouteEngine.decide (fun _ ↦ false) s.engine (ofString "a.com") []).action =
        (RouteEngine.decide (fun _ ↦ false) (cnStarted (filesAfter s)).engine (ofString "a.com")
          []).action := by
  rcases hrun : run (callStep .stable (ofString "custom_rules.json")) (cnStarted cnCustomFiles)
    [(.addRule comRule, {})] with x | s
  · exact x.elim
  have hbuiltin : filesAfter s (ofString "builtin_rules.json") =
      cnCustomFiles (ofString "builtin_rules.json") := if_neg (by decide)
  have hcustom : filesAfter s (ofString "custom_rules.json") = s.customFile := if_pos rfl
  refine ⟨s, rfl, (routing_survives_iff _ (along_singleton (by decide)) hrun hbuiltin hcustom
    _ _).mpr (.inl ?_)⟩
  obtain rfl := Except.ok.inj hrun
  decide +kernel

/-- A rule is removed, and the file is saved. -/
def removal : Call := .removeRule (ofString "cn_suffix_1")

/-- It goes on to decide, and stops doing so with the restart. -/
theorem routing_changes_after_removal : ∃ s,
    run (callStep .stable (ofString "custom_rules.json")) (cnStarted cnCustomFiles) [(removal, {})]
        = .ok s ∧
      Along (callStep .stable (ofString "custom_rules.json"))
        (fun _ c ↦ Saves (ofString "custom_rules.json") c) (cnStarted cnCustomFiles)
        [(removal, {})] ∧
      s.engine.customRules = [] ∧
      (RouteEngine.decide (fun _ ↦ false) s.engine (ofString "a.cn") []).action = .direct ∧
      (RouteEngine.decide (fun _ ↦ false) (cnStarted (filesAfter s)).engine (ofString "a.cn")
        []).action = .proxy := by
  refine ⟨_, rfl, along_singleton (by decide), ?_, ?_, ?_⟩
  · rfl
  · decide +kernel
  · decide +kernel

end RuleManager

end LanProxyGateway
