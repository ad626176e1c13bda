import LanProxyGateway.RouteDecision.RuleManager

/-!
# When a reload is a no-op

`reload_rules` does not know the paths `init` was given. It reads the builtin rules from a file
called `reload`, unless there are none, and the custom rules from nowhere. So the custom rules are
lost, and the builtin rules are whatever that file holds. In addition it builds the domain index
anew, which `add_custom_rule` and `remove_custom_rule` do not, and so lets the rules changed since
the last load take effect in the index. `reloadIsNoOp_iff` says when none of this is noticed, in
terms of the lists of rules.
-/

open Foundation ByteString

namespace LanProxyGateway

namespace RouteEngine

variable (isChina : ByteString → Bool) (files : ByteString → FileContent)
  (builtinPath customPath : ByteString)

/-- The parsed content of a rules file; an empty path names none. -/
def rulesAt (isBuiltin : Bool) (path : ByteString) : List RouteRule :=
  if path.isEmpty then [] else rulesIn isBuiltin (files path)

/-! ## What changes leave alone -/

/-- The engine has its builtin rules, its index and its defaults from an `init`. -/
structure LoadedFrom (files : ByteString → FileContent) (geoipAvailable : Bool)
    (builtinPath customPath defaultAction : ByteString) (e : RouteEngine) : Prop where
  builtinRules : e.builtinRules = rulesAt files true builtinPath
  index : e.index =
    (rulesAt files true builtinPath ++ rulesAt files false customPath).foldl indexRule {}
  defaultAction : e.defaultAction = actionOfString defaultAction
  geoipAvailable : e.geoipAvailable = geoipAvailable

section

variable {files : ByteString → FileContent} {geoipAvailable : Bool}
  {builtinPath customPath geoipDbPath defaultAction : ByteString} {e : RouteEngine}

theorem loadedFrom_init : LoadedFrom files geoipAvailable builtinPath customPath defaultAction
    (init {} files geoipAvailable builtinPath customPath geoipDbPath defaultAction) := by
  rw [init, buildDomainIndex, loadCustomRules, loadBuiltinRules]
  by_cases h : builtinPath.isEmpty
  · rw [if_pos h]
    refine ⟨?_, ?_, rfl, rfl⟩
    · rw [rulesAt, if_pos h]
    · rw [rulesAt, if_pos h, rulesAt]
  · rw [if_neg h]
    refine ⟨?_, ?_, rfl, rfl⟩
    · rw [rulesAt, if_neg h]
    · rw [rulesAt, if_neg h, rulesAt]

/-- Other custom rules make no difference to it. -/
theorem LoadedFrom.with_customRules
    (h : LoadedFrom files geoipAvailable builtinPath customPath defaultAction e)
    (rules : List RouteRule) :
    LoadedFrom files geoipAvailable builtinPath customPath defaultAction
      { e with customRules := rules } :=
  ⟨h.builtinRules, h.index, h.defaultAction, h.geoipAvailable⟩

/-- So does no change. -/
theorem LoadedFrom.change
    (h : LoadedFrom files geoipAvailable builtinPath customPath defaultAction e)
    (std : PrioritySort) (c : Change) :
    LoadedFrom files geoipAvailable builtinPath customPath defaultAction (e.change std c) := by
  cases c with
  | addCustomRule rule => exact h.with_customRules _
  | removeCustomRule ruleId =>
    rw [RouteEngine.change, removeCustomRule]
    split
    · split
      · exact h
      · exact h.with_customRules _
    · exact h

/-- Nor do several. -/
theorem LoadedFrom.foldl_change
    (h : LoadedFrom files geoipAvailable builtinPath customPath defaultAction e)
    (std : PrioritySort) (changes : List Change) :
    LoadedFrom files geoipAvailable builtinPath customPath defaultAction
      (changes.foldl (RouteEngine.change std) e) := by
  induction changes generalizing e with
  | nil => exact h
  | cons c changes ih => exact ih (h.change std c)

end

/-! ## A reload -/

/-- The engine holds what the two files hold: what they were when they were loaded, or what was
saved since. -/
structure InStep (e : RouteEngine) : Prop where
  builtin : e.builtinRules = rulesAt files true builtinPath
  custom : e.customRules = rulesAt files false customPath

/-- A reload restores the rules of the two files, changes no decision, and further reloads change
nothing more. -/
structure ReloadIsNoOp (e : RouteEngine) : Prop where
  builtin : (e.reloadRules files).builtinRules = rulesAt files true builtinPath
  custom : (e.reloadRules files).customRules = rulesAt files false customPath
  decide_eq : ∀ host ip,
    (decide isChina (e.reloadRules files) host ip).action = (decide isChina e host ip).action
  again : ∀ n, (fun e' ↦ reloadRules e' files)^[n + 1] e = e.reloadRules files

/-- What a reload leaves: no custom rules, and the builtin rules of the file it thinks of. -/
theorem reloadRules_eq (e : RouteEngine) :
    e.reloadRules files = buildDomainIndex { e with
      builtinRules := if e.builtinRules = [] then [] else rulesIn true (files (ofString "reload"))
      customRules := [] } := by
  rw [reloadRules]
  by_cases h : e.builtinRules = []
  · rw [h]
    show buildDomainIndex { e with customRules := [] } = _
    rw [if_pos rfl, ← h]
  · rw [if_neg h, if_neg fun hempty ↦ h (List.isEmpty_iff.mp hempty)]
    rfl

/-- Every further reload finds the same two lists and does the same with them. -/
theorem reloadRules_reloadRules (e : RouteEngine) :
    (e.reloadRules files).reloadRules files = e.reloadRules files := by
  rw [reloadRules_eq files (e.reloadRules files), reloadRules_eq files e]
  by_cases h : e.builtinRules = []
  · rw [if_pos h]
    rfl
  · rw [if_neg h]
    by_cases hr : rulesIn true (files (ofString "reload")) = []
    · rw [hr]
      rfl
    · show buildDomainIndex { e with
        builtinRules := if rulesIn true (files (ofString "reload")) = [] then [] else
          rulesIn true (files (ofString "reload"))
        customRules := []
        index := _ } = _
      rw [if_neg hr]
      rfl

theorem iterate_reloadRules (e : RouteEngine) (n : ℕ) :
    (fun e' ↦ reloadRules e' files)^[n + 1] e = e.reloadRules files := by
  induction n with
  | zero => rfl
  | succ n ih => rw [Function.iterate_succ_apply', ih, reloadRules_reloadRules]

variable {isChina files builtinPath customPath} {e : RouteEngine}

/-- What a reload restores. -/
theorem reloadRules_restores_iff (h : e.InStep files builtinPath customPath) :
    ((e.reloadRules files).builtinRules = rulesAt files true builtinPath ∧
        (e.reloadRules files).customRules = rulesAt files false customPath) ↔
      rulesAt files false customPath = [] ∧
        (rulesAt files true builtinPath = [] ∨
          rulesIn true (files (ofString "reload")) = rulesAt files true builtinPath) := by
  rw [reloadRules_eq files e, buildDomainIndex, ← h.builtin]
  dsimp only
  constructor
  · rintro ⟨hbuiltin, hcustom⟩
    refine ⟨hcustom.symm, or_iff_not_imp_left.mpr fun hsome ↦ ?_⟩
    rwa [if_neg hsome] at hbuiltin
  · rintro ⟨hcustom, hbuiltin⟩
    refine ⟨?_, hcustom.symm⟩
    by_cases hsome : e.builtinRules = []
    · rw [if_pos hsome, hsome]
    · rw [if_neg hsome]
      exact hbuiltin.resolve_left hsome

/-- With the rules restored, the new index is the one of the builtin rules, and it is up to the two
indexes whether a decision changes. -/
theorem decide_reloadRules_iff {indexed : List RouteRule}
    (hindex : e.index = indexed.foldl indexRule {}) (hnone : e.customRules = [])
    (hrules : (e.reloadRules files).builtinRules = e.builtinRules) (host ip : ByteString) :
    (decide isChina (e.reloadRules files) host ip).action = (decide isChina e host ip).action ↔
      (chosenDomain indexed host).getD (e.unruled isChina ip) =
        (chosenDomain e.builtinRules host).getD (e.unruled isChina ip) := by
  have hreload : e.reloadRules files = e.buildDomainIndex := by
    have heq := reloadRules_eq files e
    rw [heq] at hrules ⊢
    change ite _ _ _ = _ at hrules
    rw [hrules, ← hnone]
  have hbuilt : e.buildDomainIndex.index = e.builtinRules.foldl indexRule {} := by
    rw [buildDomainIndex, hnone, List.append_nil]
  have hcustom : e.buildDomainIndex.customRules = [] := hnone
  have hdecides : decidingRule [] host ip = none := rfl
  rw [hreload, action_decide hbuilt, action_decide hindex, hcustom, hnone, hdecides]
  exact eq_comm

/-- **When a reload is a no-op.** After any changes of the rules that `init` has loaded, with an
engine in step with its files: the custom file has no rules, the builtin file has none or the same
as the file called `reload`, and for every request the rules that were loaded choose the same action
as the builtin rules alone. -/
theorem reloadIsNoOp_iff (isChina : ByteString → Bool) (files₀ : ByteString → FileContent)
    (geoipAvailable : Bool) (geoipDbPath defaultAction : ByteString) (std : PrioritySort)
    (changes : List Change)
    (he : e = changes.foldl (change std)
      (init {} files₀ geoipAvailable builtinPath customPath geoipDbPath defaultAction))
    (h : e.InStep files builtinPath customPath) :
    e.ReloadIsNoOp isChina files builtinPath customPath ↔
      rulesAt files false customPath = [] ∧
        (rulesAt files true builtinPath = [] ∨
          rulesIn true (files (ofString "reload")) = rulesAt files true builtinPath) ∧
        ∀ host ip, (chosenDomain (rulesAt files₀ true builtinPath ++
            rulesAt files₀ false customPath) host).getD (e.unruled isChina ip) =
          (chosenDomain (rulesAt files true builtinPath) host).getD (e.unruled isChina ip) := by
  have hloaded : LoadedFrom files₀ geoipAvailable builtinPath customPath defaultAction e := by
    rw [he]
    exact loadedFrom_init.foldl_change std changes
  have hrestores := reloadRules_restores_iff h
  rw [← and_assoc, ← hrestores]
  constructor
  · intro hno
    have hnone : e.customRules = [] := h.custom.trans (hrestores.mp ⟨hno.builtin, hno.custom⟩).1
    refine ⟨⟨hno.builtin, hno.custom⟩, fun host ip ↦ ?_⟩
    rw [← h.builtin]
    exact (decide_reloadRules_iff hloaded.index hnone (hno.builtin.trans h.builtin.symm) host
      ip).mp (hno.decide_eq host ip)
  · rintro ⟨⟨hbuiltin, hcustom⟩, hchoice⟩
    have hnone : e.customRules = [] := h.custom.trans (hrestores.mp ⟨hbuiltin, hcustom⟩).1
    refine ⟨hbuiltin, hcustom, fun host ip ↦ ?_, iterate_reloadRules files e⟩
    rw [decide_reloadRules_iff hloaded.index hnone (hbuiltin.trans h.builtin.symm), h.builtin]
    exact hchoice host ip

/-- One builtin rule, that names under `.cn` go out directly, and no custom rules. -/
def cnFiles : ByteString → FileContent := fun path ↦
  if path = ofString "builtin_rules.json" then
    .json (.object [(ofString "rules", .array [.object [
      (ofString "rule_id", .string (ofString "cn_suffix_1")),
      (ofString "rule_type", .string (ofString "domain_suffix")),
      (ofString "pattern", .string (ofString ".cn")),
      (ofString "action", .string (ofString "direct"))]])])
  else .absent

/-- The engine that loads them. -/
def cnEngine : RouteEngine :=
  init {} cnFiles false (ofString "builtin_rules.json") (ofString "custom_rules.json") []
    (ofString "proxy")

/-- The same rule as a custom one. -/
def cnCustomFiles : ByteString → FileContent := fun path ↦
  if path = ofString "custom_rules.json" then cnFiles (ofString "builtin_rules.json") else .absent

/-- The engine that loads it and then removes it. -/
def cnRemoved : RouteEngine :=
  [Change.removeCustomRule (ofString "cn_suffix_1")].foldl (change .stable)
    (init {} cnCustomFiles false (ofString "builtin_rules.json") (ofString "custom_rules.json") []
      (ofString "proxy"))

/-- Both files are empty after the removal is saved; what a reload changes is the index. -/
theorem cnRemoved_reloadIsNoOp_iff :
    cnRemoved.ReloadIsNoOp (fun _ ↦ false) (fun _ ↦ .absent) (ofString "builtin_rules.json")
        (ofString "custom_rules.json") ↔
      rulesAt (fun _ ↦ .absent) false (ofString "custom_rules.json") = [] ∧
        (rulesAt (fun _ ↦ .absent) true (ofString "builtin_rules.json") = [] ∨
          rulesIn true .absent =
            rulesAt (fun _ ↦ .absent) true (ofString "builtin_rules.json")) ∧
        ∀ host ip, (chosenDomain (rulesAt cnCustomFiles true (ofString "builtin_rules.json") ++
            rulesAt cnCustomFiles false (ofString "custom_rules.json")) host).getD
              (cnRemoved.unruled (fun _ ↦ false) ip) =
          (chosenDomain (rulesAt (fun _ ↦ .absent) true (ofString "builtin_rules.json")) host).getD
            (cnRemoved.unruled (fun _ ↦ false) ip) :=
  reloadIsNoOp_iff _ cnCustomFiles false [] (ofString "proxy") .stable _ rfl
    ⟨by decide +kernel, by decide +kernel⟩

/-- Loaded, unchanged and reloaded, it sends the names under `.cn` to the proxy. -/
theorem cnEngine_reload_changes_decision :
    cnEngine.InStep cnFiles (ofString "builtin_rules.json") (ofString "custom_rules.json") ∧
      (decide (fun _ ↦ false) cnEngine (ofString "a.cn") []).action = .direct ∧
      (decide (fun _ ↦ false) (cnEngine.reloadRules cnFiles) (ofString "a.cn") []).action = .proxy ∧
      ¬cnEngine.ReloadIsNoOp (fun _ ↦ false) cnFiles (ofString "builtin_rules.json")
        (ofString "custom_rules.json") := by
  refine ⟨⟨by decide +kernel, by decide +kernel⟩, rfl, rfl, fun h ↦ ?_⟩
  exact absurd (h.decide_eq (ofString "a.cn") []) (by decide)

end RouteEngine

end LanProxyGateway
