import LanProxyGateway.RouteDecision.RoutingRestart

/-!
# Does the highest priority win?

Priorities count only through the order of the custom list, and only `add_custom_rule` puts that
list in order: `load_custom_rules` leaves it as the file has it, and the index knows no priorities
at all, nor which of its rules are builtin. Once a rule has been added the custom list is sorted and
stays so (`sorted_of_addition`), and then the first rule that applies is one of the highest priority
(`topHas_of_sorted`). `highestWins_iff` is the exact condition.
-/

open Foundation ByteString

namespace LanProxyGateway

namespace RouteEngine

variable {std : PrioritySort} {rules : List RouteRule} {e : RouteEngine} {host ip : ByteString}

/-! ## The highest priority -/

/-- Of the rules with a property, one of the highest priority has the action. -/
def TopHas (rules : List RouteRule) (P : RouteRule → Prop) (action : RouteAction) : Prop :=
  ∃ rule ∈ rules, P rule ∧ rule.action = action ∧
    ∀ other ∈ rules, P other → other.priority ≤ rule.priority

/-- A rule with an id applies. -/
def NamedApplies (rules : List RouteRule) (host ip : ByteString) : Prop :=
  ∃ rule ∈ rules, rule.Applies host ip ∧ rule.ruleId.bytes ≠ []

/-- The highest priority wins: that of the custom rules that apply, if one of them has an id, and
else that of the builtin rules for the domain. -/
structure HighestWins (isChina : ByteString → Bool) (e : RouteEngine) (host ip : ByteString) :
    Prop where
  custom : NamedApplies e.customRules host ip →
    TopHas e.customRules (·.Applies host ip) (decide isChina e host ip).action
  builtin : ¬NamedApplies e.customRules host ip →
    (∃ rule ∈ e.builtinRules, rule.CoversDomain host) →
    TopHas e.builtinRules (·.CoversDomain host) (decide isChina e host ip).action

/-- The rules are in the order of their priorities. -/
def Sorted (rules : List RouteRule) : Prop := rules.Pairwise fun a b ↦ b.priority ≤ a.priority

theorem decidingRule_eq_some {rule : RouteRule} (h : decidingRule rules host ip = some rule) :
    rules.find? (·.Applies host ip) = some rule ∧ rule.Applies host ip ∧
      NamedApplies rules host ip := by
  rw [decidingRule, Option.filter_eq_some_iff] at h
  obtain ⟨hfind, hid⟩ := h
  have happlies : rule.Applies host ip := by simpa using List.find?_some hfind
  exact ⟨hfind, happlies, rule, List.mem_of_find?_eq_some hfind, happlies, by simpa using hid⟩

/-- In a list that is in order, the first rule that applies has the highest priority. -/
theorem topHas_of_sorted (hsorted : Sorted rules) {rule : RouteRule}
    (h : decidingRule rules host ip = some rule) :
    TopHas rules (·.Applies host ip) rule.action := by
  obtain ⟨hfind, happlies, -⟩ := decidingRule_eq_some h
  refine ⟨rule, List.mem_of_find?_eq_some hfind, happlies, rfl, fun other hother ho ↦ ?_⟩
  obtain ⟨-, pre, post, rfl, hpre⟩ := List.find?_eq_some_iff_append.mp hfind
  rcases List.mem_append.mp hother with hmem | hmem
  · exact absurd ho (by simpa using hpre other hmem)
  · rcases List.mem_cons.mp hmem with rfl | hmem
    · exact Int32.le_refl _
    · exact (List.pairwise_cons.mp (List.pairwise_append.mp hsorted).2.1).1 other hmem

/-! ## Runs -/

/-- The changes of a running engine. -/
def changeStep (std : PrioritySort) (e : RouteEngine) (c : Change) : Except Empty RouteEngine :=
  .ok (e.change std c)

/-- A change keeps a list in order. -/
theorem sorted_change (h : Sorted e.customRules) (c : Change) :
    Sorted (e.change std c).customRules := by
  cases c with
  | addCustomRule rule => exact std.sorted _
  | removeCustomRule ruleId =>
    rw [change, removeCustomRule]
    split
    · split
      · exact h
      · exact h.sublist List.eraseP_sublist
    · exact h

/-- **From the first addition on the list is in order.** -/
theorem sorted_of_addition {cs : List Change} {e' : RouteEngine} {rule : RouteRule}
    (hadded : .addCustomRule rule ∈ cs) (hrun : run (changeStep std) e cs = .ok e') :
    Sorted e'.customRules := by
  induction cs generalizing e with
  | nil => exact absurd hadded List.not_mem_nil
  | cons c cs ih =>
    change run (changeStep std) (e.change std c) cs = .ok e' at hrun
    rcases List.mem_cons.mp hadded with rfl | hadded
    · have hadded : Sorted (e.change std (.addCustomRule rule)).customRules := std.sorted _
      refine run_induction (I := fun e ↦ Sorted e.customRules) (C := fun _ _ ↦ True) ?_ hadded
        along_true hrun
      intro e c t h _ hstep
      obtain rfl := Except.ok.inj hstep
      exact sorted_change h c
    · exact ih hadded hrun

variable {files : ByteString → FileContent} {geoipAvailable : Bool}
  {builtinPath customPath geoipDbPath defaultAction : ByteString}

theorem loadedFrom_of_run {cs : List Change}
    (hrun : run (changeStep std) (init {} files geoipAvailable builtinPath customPath geoipDbPath
      defaultAction) cs = .ok e) :
    LoadedFrom files geoipAvailable builtinPath customPath defaultAction e := by
  refine run_induction (C := fun _ _ ↦ True) ?_ loadedFrom_init along_true hrun
  intro e c t h _ hstep
  obtain rfl := Except.ok.inj hstep
  exact h.change std c

/-! ## The exact condition -/

/-- Of the rules that decide, the one that comes first has the action of one that has the highest
priority. Where no custom rule decides, what the index was built from does, or else the database or
the default. -/
def TopFirst (isChina : ByteString → Bool) (indexed : List RouteRule) (e : RouteEngine)
    (host ip : ByteString) : Prop :=
  match decidingRule e.customRules host ip with
  | some rule => TopHas e.customRules (·.Applies host ip) rule.action
  | none =>
    (NamedApplies e.customRules host ip → TopHas e.customRules (·.Applies host ip)
      ((chosenDomain indexed host).getD (e.unruled isChina ip))) ∧
    (¬NamedApplies e.customRules host ip → (∃ rule ∈ e.builtinRules, rule.CoversDomain host) →
      TopHas e.builtinRules (·.CoversDomain host)
        ((chosenDomain indexed host).getD (e.unruled isChina ip)))

/-- **When the highest priority wins.** After any changes of the custom rules. What applies is what
the engine matches, so a rule of the type `ip_cidr` applies wherever there is an address, whatever
its pattern is. -/
theorem highestWins_iff (isChina : ByteString → Bool) {cs : List Change}
    (hrun : run (changeStep std) (init {} files geoipAvailable builtinPath customPath geoipDbPath
      defaultAction) cs = .ok e) (host ip : ByteString) :
    HighestWins isChina e host ip ↔
      TopFirst isChina (rulesAt files true builtinPath ++ rulesAt files false customPath) e host
        ip := by
  have haction : (decide isChina e host ip).action = _ :=
    action_decide (loadedFrom_of_run hrun).index
  rw [TopFirst]
  rcases hdecides : decidingRule e.customRules host ip with _ | rule
  · rw [hdecides] at haction
    change _ = (chosenDomain _ host).getD _ at haction
    rw [← haction]
    exact ⟨fun h ↦ ⟨h.custom, h.builtin⟩, fun h ↦ ⟨h.1, h.2⟩⟩
  · rw [hdecides] at haction
    change _ = rule.action at haction
    have hnamed := (decidingRule_eq_some hdecides).2.2
    change _ ↔ TopHas e.customRules _ rule.action
    rw [← haction]
    exact ⟨fun h ↦ h.custom hnamed, fun h ↦ ⟨fun _ ↦ h, fun hnot ↦ absurd hnamed hnot⟩⟩

/-- A rule about `.cn` and, after it, one about one name under it, of higher priority. -/
def overlapping : Json := .object [(ofString "rules", .array [
  .object [(ofString "rule_id", .string (ofString "cn")),
    (ofString "rule_type", .string (ofString "domain_suffix")),
    (ofString "pattern", .string (ofString ".cn")),
    (ofString "priority", .integer 1)],
  .object [(ofString "rule_id", .string (ofString "a")),
    (ofString "rule_type", .string (ofString "domain_exact")),
    (ofString "pattern", .string (ofString "a.cn")),
    (ofString "action", .string (ofString "proxy")),
    (ofString "priority", .integer 10)]])]

/-- An engine that loads these rules as custom ones. -/
def overlappingEngine : RouteEngine :=
  init {} (fun path ↦ if path = ofString "custom_rules.json" then .json overlapping else .absent)
    false (ofString "builtin_rules.json") (ofString "custom_rules.json") [] (ofString "proxy")

/-- An addition puts the rules in order, and then the one of higher priority decides. -/
theorem highestWins_after_addition : ∃ e,
    run (changeStep .stable) overlappingEngine [.addCustomRule RuleManager.comRule.toRouteRule]
        = .ok e ∧
      HighestWins (fun _ ↦ false) e (ofString "a.cn") [] := by
  rcases hrun : run (changeStep .stable) overlappingEngine
    [.addCustomRule RuleManager.comRule.toRouteRule] with x | e
  · exact x.elim
  refine ⟨e, rfl, (highestWins_iff _ hrun _ _).mpr ?_⟩
  have hsorted := sorted_of_addition List.mem_cons_self hrun
  have hdecides : (decidingRule e.customRules (ofString "a.cn") []).isSome := by
    obtain rfl := Except.ok.inj hrun
    decide +kernel
  obtain ⟨rule, hrule⟩ := Option.isSome_iff_exists.mp hdecides
  rw [TopFirst, hrule]
  exact topHas_of_sorted hsorted hrule

/-- As loaded, the rule that comes first decides. -/
theorem overlappingEngine_lowest_wins : ¬HighestWins (fun _ ↦ false) overlappingEngine
    (ofString "a.cn") [] := by
  intro h
  have hnamed : NamedApplies overlappingEngine.customRules (ofString "a.cn") [] := by
    rw [NamedApplies]
    decide +kernel
  have haction : (decide (fun _ ↦ false) overlappingEngine (ofString "a.cn") []).action =
      .direct := by
    decide +kernel
  have hfirst : ∀ rule ∈ overlappingEngine.customRules, rule.action = .direct →
      ∃ other ∈ overlappingEngine.customRules, other.Applies (ofString "a.cn") [] ∧
        rule.priority < other.priority := by
    decide +kernel
  obtain ⟨rule, hrule, -, hdirect, htop⟩ := h.custom hnamed
  obtain ⟨other, hother, happlies, hlt⟩ := hfirst rule hrule (hdirect.trans haction)
  exact absurd (htop other hother happlies) (Int32.not_le.mpr hlt)

end RouteEngine

end LanProxyGateway
