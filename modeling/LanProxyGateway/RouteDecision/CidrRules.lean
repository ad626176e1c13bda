import LanProxyGateway.Foundation.IpRange
import LanProxyGateway.RouteDecision.Choice

/-!
# Rules for ranges of addresses

The web page offers rules of the type `ip_cidr`, with a range of addresses for a pattern.
`match_custom_rules` does not read the pattern: the first such rule that is enabled applies to every
address. So it answers for the address as it should exactly where it happens to be the first rule
whose range has the address, or where it has no id and `decide` passes over it
(`rangesMatched_iff`).
-/

open Foundation ByteString

namespace LanProxyGateway

namespace RouteRule

variable (rule : RouteRule) (ip : ByteString)

/-- The rule is enabled and about a range of addresses. -/
def IsCidr : Prop := rule.enabled = true ∧ rule.ruleType.bytes = ofString "ip_cidr"

/-- The rule is enabled and about a range that the address is in. -/
def CoversIp : Prop := rule.IsCidr ∧ InRange ip rule.pattern.bytes

instance : Decidable rule.IsCidr := inferInstanceAs (Decidable (_ ∧ _))

instance : Decidable (rule.CoversIp ip) := inferInstanceAs (Decidable (_ ∧ _))

end RouteRule

namespace RouteEngine

variable {isChina : ByteString → Bool} {e : RouteEngine} {host ip : ByteString}
  {rules : List RouteRule}

/-- The decision of a rule about a range. -/
def cidrDecision (rule : RouteRule) : RouteResult :=
  ⟨rule.action, rule.ruleId.bytes, ofString "custom_ip_cidr"⟩

/-- Where no domain rule covers the host, the first rule about a range matches, whatever the
range. -/
theorem matchCustomRules_of_uncovered (hip : ip ≠ [])
    (hdomain : ∀ rule ∈ rules, ¬rule.CoversDomain host) :
    matchCustomRules host ip rules =
      ((rules.find? (·.IsCidr)).map cidrDecision).getD noMatch := by
  induction rules with
  | nil => rfl
  | cons rule rules ih =>
    obtain ⟨hrule, hrules⟩ := List.forall_mem_cons.mp hdomain
    by_cases h : rule.IsCidr
    · have hexact : ofString "ip_cidr" ≠ ofString "domain_exact" := by decide
      have hsuffix : ofString "ip_cidr" ≠ ofString "domain_suffix" := by decide
      rw [List.find?_cons_of_pos (by simpa using h), matchCustomRules, h.1, h.2,
        if_neg (by decide), if_neg fun hc ↦ hexact hc.1, if_neg fun hc ↦ hsuffix hc.1,
        if_pos ⟨rfl, hip⟩]
      rfl
    · rw [List.find?_cons_of_neg (by simpa using h), ← ih hrules, matchCustomRules]
      split_ifs with henabled hexact hsuffix hcidr
      · rfl
      · exact absurd ⟨by simpa using henabled, .inl hexact⟩ hrule
      · exact absurd ⟨by simpa using henabled, .inr hsuffix⟩ hrule
      · exact absurd ⟨by simpa using henabled, hcidr.1⟩ h
      · rfl

/-- The stages behind the custom rules call their decisions something else. -/
theorem matchType_decide_of_noMatch
    (hcustom : (matchCustomRules host ip e.customRules).ruleId = []) :
    (decide isChina e host ip).matchType ≠ ofString "custom_ip_cidr" := by
  have hnames : ∀ name ∈ [ofString "builtin_domain_exact", ofString "builtin_domain_suffix", [],
      ofString "geoip", ofString "default"], name ≠ ofString "custom_ip_cidr" := by
    decide
  have hdomain : (e.matchDomainRules host).matchType ≠ ofString "custom_ip_cidr" := by
    rw [matchDomainRules]
    split
    · exact hnames _ (by simp)
    · split <;> exact hnames _ (by simp [noMatch])
  have hgeoip : (matchGeoip isChina e ip).matchType ≠ ofString "custom_ip_cidr" := by
    rw [matchGeoip]
    split
    · exact hnames _ (by simp [noMatch])
    · split <;> exact hnames _ (by simp)
  simp only [decide, hcustom, ne_eq, not_true_eq_false, if_false]
  split
  · exact hdomain
  · split
    · exact hgeoip
    · exact hnames _ (by simp [defaultDecision])

/-- A decision that no custom rule makes is the one that would be made without them. -/
theorem decide_of_noMatch (hcustom : (matchCustomRules host ip e.customRules).ruleId = []) :
    decide isChina e host ip = decide isChina { e with customRules := [] } host ip := by
  have hnone : (matchCustomRules host ip []).ruleId = [] := rfl
  simp only [decide, hcustom, hnone, ne_eq, not_true_eq_false, if_false]
  rfl

/-! ## What the rules promise -/

/-- The rules about ranges decide by the ranges. -/
structure RangesMatched (isChina : ByteString → Bool) (e : RouteEngine) (host ip : ByteString) :
    Prop where
  /-- The rule that is returned is the first one that covers the address. -/
  returned : (decide isChina e host ip).matchType = ofString "custom_ip_cidr" →
    ∃ rule, e.customRules.find? (·.CoversIp ip) = some rule ∧
      decide isChina e host ip = cidrDecision rule
  /-- An address in no range goes on to the later stages. -/
  fallsThrough : (∀ rule ∈ e.customRules, ¬rule.CoversIp ip) →
    decide isChina e host ip = decide isChina { e with customRules := [] } host ip

/-- If the first rule about a range has an id, it is the first one that covers the address, or
says the same. -/
def FirstCovers (rules : List RouteRule) (ip : ByteString) : Prop :=
  ∀ first, rules.find? (·.IsCidr) = some first → first.ruleId.bytes ≠ [] →
    ∃ rule, rules.find? (·.CoversIp ip) = some rule ∧
      rule.ruleId.bytes = first.ruleId.bytes ∧ rule.action = first.action

/-- **When a rule for a range is a rule for that range.** For a host that no custom rule covers. -/
theorem rangesMatched_iff (hip : IsIpText ip)
    (hdomain : ∀ rule ∈ e.customRules, ¬rule.CoversDomain host) :
    RangesMatched isChina e host ip ↔ FirstCovers e.customRules ip := by
  have hmatch := matchCustomRules_of_uncovered (ne_nil_of_isIpText hip) hdomain
  have hdecide : ∀ first, e.customRules.find? (·.IsCidr) = some first →
      first.ruleId.bytes ≠ [] → decide isChina e host ip = cidrDecision first := by
    intro first hfirst hid
    have hcustom : matchCustomRules host ip e.customRules = cidrDecision first := by
      rw [hmatch, hfirst]
      rfl
    simp only [decide, hcustom]
    exact if_pos hid
  constructor
  · intro h first hfirst hid
    have hd := hdecide first hfirst hid
    obtain ⟨rule, hrule, heq⟩ := h.returned (by rw [hd]; rfl)
    rw [hd] at heq
    have hids : first.ruleId.bytes = rule.ruleId.bytes := congrArg RouteResult.ruleId heq
    exact ⟨rule, hrule, hids.symm, (congrArg RouteResult.action heq).symm⟩
  · intro h
    by_cases hnone : (matchCustomRules host ip e.customRules).ruleId = []
    · exact ⟨fun ht ↦ absurd ht (matchType_decide_of_noMatch hnone),
        fun _ ↦ decide_of_noMatch hnone⟩
    · -- a custom rule decides, so there is a first rule about a range, and it has an id
      rcases hfirst : e.customRules.find? (·.IsCidr) with _ | first
      · rw [hmatch, hfirst] at hnone
        exact absurd rfl hnone
      have hid : first.ruleId.bytes ≠ [] := by
        rw [hmatch, hfirst] at hnone
        exact hnone
      obtain ⟨rule, hrule, hruleId, haction⟩ := h first hfirst hid
      refine ⟨fun _ ↦ ⟨rule, hrule, ?_⟩, fun huncovered ↦ ?_⟩
      · rw [hdecide first hfirst hid, cidrDecision, cidrDecision, hruleId, haction]
      · have hcovers : rule.CoversIp ip := by simpa using List.find?_some hrule
        exact absurd hcovers (huncovered rule (List.mem_of_find?_eq_some hrule))

/-- A rule that sends a private network directly, and nothing else. -/
def privateRule : RouteRule where
  ruleId := .lit "lan"
  ruleType := .lit "ip_cidr"
  pattern := .lit "10.0.0.0/8"
  action := .direct

def privateEngine : RouteEngine := { customRules := [privateRule] }

/-- For an address of that network the rule is right. -/
theorem privateEngine_rangesMatched : RangesMatched (fun _ ↦ false) privateEngine (ofString "h")
    (ofString "10.1.2.3") ↔ FirstCovers privateEngine.customRules (ofString "10.1.2.3") :=
  rangesMatched_iff (by decide +kernel) (by decide +kernel)

/-- An address outside is sent directly too, and not to the proxy, which is the default. -/
theorem privateEngine_hijacks :
    IsIpText (ofString "93.184.216.34") ∧
      (∀ rule ∈ privateEngine.customRules, ¬rule.CoversDomain (ofString "h")) ∧
      ¬InRange (ofString "93.184.216.34") privateRule.pattern.bytes ∧
      decide (fun _ ↦ false) privateEngine (ofString "h") (ofString "93.184.216.34") =
        cidrDecision privateRule ∧
      ¬RangesMatched (fun _ ↦ false) privateEngine (ofString "h") (ofString "93.184.216.34") := by
  have hdecide : decide (fun _ ↦ false) privateEngine (ofString "h") (ofString "93.184.216.34") =
      cidrDecision privateRule := by
    decide +kernel
  refine ⟨by decide +kernel, by decide +kernel, by decide +kernel, hdecide, fun h ↦ ?_⟩
  obtain ⟨rule, hrule, -⟩ := h.returned (by rw [hdecide]; rfl)
  have hnone : privateEngine.customRules.find? (·.CoversIp (ofString "93.184.216.34")) = none := by
    decide +kernel
  rw [hnone] at hrule
  cases hrule

end RouteEngine

end LanProxyGateway
