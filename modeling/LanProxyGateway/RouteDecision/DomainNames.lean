import LanProxyGateway.Foundation.AsciiCase
import LanProxyGateway.RouteDecision.Choice
import Mathlib.Data.List.Find

/-!
# Domain rules and domain names

Domain names do not depend on the case of their letters, and a name is below another one when the
other one and a dot in front of it end it. Both matchers of the engine compare bytes: the host with
the pattern, or the end of the host with it. So a pattern with letters tells spellings of one name
apart, and a suffix that does not begin with a dot covers names that merely end in the same letters.

A rule that never gets its turn breaks nothing, so the condition of `followsDns_iff` is about the
rules that engines may be made of: all engines made of rules from a list follow the names exactly
when every rule of the list does.
-/

open Foundation ByteString

namespace LanProxyGateway

/-- A dot in front of a pattern is no part of the name. -/
def nameOf : ByteString → ByteString
  | 46 :: name => name
  | pattern => pattern

/-- The host is the name in the pattern, or below it. -/
def IsSubdomain (host pattern : ByteString) : Prop :=
  SameLetters host (nameOf pattern) ∨ lower (46 :: nameOf pattern) <:+ lower host

instance (host pattern : ByteString) : Decidable (IsSubdomain host pattern) :=
  inferInstanceAs (Decidable (_ ∨ _))

namespace RouteRule

/-- If the rule is about a domain, its pattern has no letters, and a suffix begins with a dot. -/
structure DnsSafe (rule : RouteRule) : Prop where
  exact : rule.enabled = true → rule.ruleType.bytes = ofString "domain_exact" →
    Letterless rule.pattern.bytes
  suffix : rule.enabled = true → rule.ruleType.bytes = ofString "domain_suffix" →
    Letterless rule.pattern.bytes ∧ rule.pattern.bytes.head? = some 46

variable {rule : RouteRule} {host host' ip : ByteString}

theorem DnsSafe.isExactFor (h : rule.DnsSafe) (hsame : SameLetters host host')
    (hrule : rule.IsExactFor host) : rule.IsExactFor host' := by
  obtain ⟨henabled, htype, hhost⟩ := hrule
  refine ⟨henabled, htype, ?_⟩
  rw [← hhost]
  exact hsame.eq_of_letterless (hhost ▸ h.exact henabled htype)

theorem DnsSafe.isSuffixFor (h : rule.DnsSafe) (hsame : SameLetters host host')
    (hrule : rule.IsSuffixFor host) : rule.IsSuffixFor host' :=
  ⟨hrule.1, hrule.2.1, hsame.suffix_of_letterless (h.suffix hrule.1 hrule.2.1).1 hrule.2.2⟩

/-- A suffix that begins with a dot covers the names below it. -/
theorem DnsSafe.isSubdomain (h : rule.DnsSafe) (hrule : rule.IsSuffixFor host) :
    IsSubdomain host rule.pattern.bytes := by
  obtain ⟨henabled, htype, q, rfl⟩ := hrule
  have hdot := (h.suffix henabled htype).2
  rcases hpattern : rule.pattern.bytes with _ | ⟨c, name⟩
  · rw [hpattern] at hdot
    cases hdot
  rw [hpattern] at hdot
  obtain rfl : c = 46 := Option.some.inj hdot
  right
  rw [lower, lower, List.map_append]
  exact List.suffix_append _ _

end RouteRule

namespace RouteEngine

variable {isChina : ByteString → Bool} {e : RouteEngine} {host host' ip : ByteString}
  {rules indexed : List RouteRule}

/-- The engine follows domain names. Its index was built from the rules `indexed`. -/
structure FollowsDns (e : RouteEngine) (indexed : List RouteRule) : Prop where
  /-- The case of the letters does not matter. -/
  caseless : ∀ isChina host host' ip, SameLetters host host' →
    decide isChina e host ip = decide isChina e host' ip
  /-- A suffix applies to its name and to the names below it. -/
  subdomains : ∀ rule ∈ e.customRules ++ indexed, ∀ host, rule.IsSuffixFor host →
    IsSubdomain host rule.pattern.bytes

/-! ## Safe rules -/

theorem matchCustomRules_caseless (ip : ByteString) (hsafe : ∀ rule ∈ rules, rule.DnsSafe)
    (hsame : SameLetters host host') :
    matchCustomRules host ip rules = matchCustomRules host' ip rules := by
  induction rules with
  | nil => rfl
  | cons rule rules ih =>
    obtain ⟨hrule, hrules⟩ := List.forall_mem_cons.mp hsafe
    rw [matchCustomRules, matchCustomRules, ih hrules]
    rcases henabled : rule.enabled with _ | _
    · rfl
    have hexact : rule.ruleType.bytes = ofString "domain_exact" ∧ host = rule.pattern.bytes ↔
        rule.ruleType.bytes = ofString "domain_exact" ∧ host' = rule.pattern.bytes :=
      ⟨fun h ↦ (hrule.isExactFor hsame ⟨henabled, h⟩).2,
        fun h ↦ (hrule.isExactFor hsame.symm ⟨henabled, h⟩).2⟩
    have hsuffix : rule.ruleType.bytes = ofString "domain_suffix" ∧ rule.pattern.bytes <:+ host ↔
        rule.ruleType.bytes = ofString "domain_suffix" ∧ rule.pattern.bytes <:+ host' :=
      ⟨fun h ↦ (hrule.isSuffixFor hsame ⟨henabled, h⟩).2,
        fun h ↦ (hrule.isSuffixFor hsame.symm ⟨henabled, h⟩).2⟩
    simp only [hexact, hsuffix]

/-- The suffixes of an index come from its rules. -/
theorem mem_suffixDomainList {i : DomainIndex} {s : Text × RouteAction}
    (h : s ∈ (rules.foldl indexRule i).suffixDomainList) : s ∈ i.suffixDomainList ∨
      ∃ rule ∈ rules, rule.enabled = true ∧ rule.ruleType.bytes = ofString "domain_suffix" ∧
        s.1 = rule.pattern := by
  induction rules generalizing i with
  | nil => exact .inl h
  | cons rule rules ih =>
    rcases ih h with h | ⟨other, hother, hspec⟩
    · rw [indexRule] at h
      split_ifs at h with henabled hexact hsuffix
      · exact .inl h
      · exact .inl h
      · rcases List.mem_append.mp h with h | h
        · exact .inl h
        · rw [List.mem_singleton.mp h]
          exact .inr ⟨rule, List.mem_cons_self, by simpa using henabled, hsuffix, rfl⟩
      · exact .inl h
    · exact .inr ⟨other, List.mem_cons_of_mem rule hother, hspec⟩

/-- A host that is in the map has no letters, and one that has letters is only looked up in the list
of the suffixes. -/
theorem matchDomainRules_caseless (hindex : e.index = indexed.foldl indexRule {})
    (hsafe : ∀ rule ∈ indexed, rule.DnsSafe) (hsame : SameLetters host host') :
    e.matchDomainRules host = e.matchDomainRules host' := by
  by_cases hletters : Letterless host
  · rw [hsame.eq_of_letterless hletters]
  have hletters' : ¬Letterless host' :=
    fun h ↦ hletters (hsame.symm.eq_of_letterless h ▸ h)
  have hnone : ∀ h : ByteString, ¬Letterless h → e.index.exactDomainMap.lookup h = none := by
    intro h hh
    have hno : ∀ rule ∈ indexed, ¬rule.IsExactFor h := by
      rintro rule hrule ⟨henabled, htype, rfl⟩
      exact hh ((hsafe rule hrule).exact henabled htype)
    rw [lookup_index hindex, List.filter_eq_nil_iff.mpr (by simpa using hno)]
    rfl
  have hsuffix : e.index.suffixDomainList.find? (fun s ↦ s.1.bytes.isSuffixOf host) =
      e.index.suffixDomainList.find? fun s ↦ s.1.bytes.isSuffixOf host' := by
    refine List.find?_congr fun s hs ↦ ?_
    rw [hindex] at hs
    rcases mem_suffixDomainList hs with hs | ⟨rule, hrule, henabled, htype, heq⟩
    · exact absurd hs List.not_mem_nil
    have hs : Letterless s.1.bytes := heq ▸ ((hsafe rule hrule).suffix henabled htype).1
    rw [Bool.eq_iff_iff, List.isSuffixOf_iff_suffix, List.isSuffixOf_iff_suffix]
    exact ⟨hsame.suffix_of_letterless hs, hsame.symm.suffix_of_letterless hs⟩
  rw [matchDomainRules, matchDomainRules, hnone host hletters, hnone host' hletters', hsuffix]

theorem followsDns_of_safe (hindex : e.index = indexed.foldl indexRule {})
    (hsafe : ∀ rule ∈ e.customRules ++ indexed, rule.DnsSafe) : FollowsDns e indexed where
  caseless isChina host host' ip hsame := by
    have hcustom := matchCustomRules_caseless ip
      (fun rule h ↦ hsafe rule (List.mem_append_left indexed h)) hsame
    have hdomain := matchDomainRules_caseless hindex
      (fun rule h ↦ hsafe rule (List.mem_append_right e.customRules h)) hsame
    rw [decide, decide, hcustom, hdomain]
  subdomains rule hrule host := (hsafe rule hrule).isSubdomain

/-! ## Rules that are not safe -/

/-- The engine with one builtin rule. -/
def ruleEngine (rule : RouteRule) : RouteEngine :=
  { builtinRules := [rule], index := indexRule {} rule }

/-- What its decisions are called, for a request without an address. -/
theorem matchType_ruleEngine (rule : RouteRule) (host : ByteString) :
    (decide (fun _ ↦ false) (ruleEngine rule) host []).matchType =
      if rule.IsExactFor host then ofString "builtin_domain_exact"
      else if rule.IsSuffixFor host then ofString "builtin_domain_suffix"
      else ofString "default" := by
  have hexactId : ofString "builtin_exact_" ≠ [] := by decide
  have hsuffixId : ofString "builtin_suffix_" ≠ [] := by decide
  have hindex : (ruleEngine rule).index = [rule].foldl indexRule {} := rfl
  have hmap := lookup_index hindex host
  have hlist := find?_index hindex host
  rw [List.filter_singleton] at hmap
  rw [List.find?_singleton] at hlist
  have hcustom : (matchCustomRules host [] (ruleEngine rule).customRules).ruleId = [] := rfl
  simp only [decide, hcustom, matchDomainRules, hmap]
  by_cases hexact : rule.IsExactFor host
  · simp [hexact, hexactId]
  by_cases hsuffix : rule.IsSuffixFor host
  · simp only [hsuffix, decide_true, if_true] at hlist
    obtain ⟨⟨s, action⟩, hfind, -⟩ := Option.map_eq_some_iff.mp hlist
    simp [hexact, hsuffix, hfind, hsuffixId]
  · simp only [hsuffix, decide_false, Bool.false_eq_true, if_false, Option.map_none,
      Option.map_eq_none_iff] at hlist
    simp [hexact, hsuffix, hlist, noMatch, defaultDecision]

/-- An engine that has a rule with letters tells two spellings of a host apart. -/
theorem letterless_of_followsDns {rule : RouteRule} (h : FollowsDns (ruleEngine rule) [rule])
    (hrule : rule.CoversDomain rule.pattern.bytes) : Letterless rule.pattern.bytes := by
  by_contra hletters
  have hne := swapCase_ne hletters
  have hcase := h.caseless (fun _ ↦ false) _ _ [] (sameLetters_swapCase rule.pattern.bytes)
  have htype := congrArg RouteResult.matchType hcase
  have hexact : ¬rule.IsExactFor (swapCase rule.pattern.bytes) := fun hs ↦ hne hs.2.2
  have hsuffix : ¬rule.IsSuffixFor (swapCase rule.pattern.bytes) := fun hs ↦
    hne (hs.2.2.eq_of_length (by rw [swapCase, List.length_map])).symm
  rw [matchType_ruleEngine, matchType_ruleEngine, if_neg hexact, if_neg hsuffix] at htype
  split_ifs at htype with hexact' hsuffix'
  · exact absurd htype (by decide)
  · exact absurd htype (by decide)
  · rcases hrule with ⟨henabled, hrule | hrule⟩
    · exact hexact' ⟨henabled, hrule⟩
    · exact hsuffix' ⟨henabled, hrule⟩

theorem dot_of_followsDns {rule : RouteRule} (h : FollowsDns (ruleEngine rule) [rule])
    (henabled : rule.enabled = true) (htype : rule.ruleType.bytes = ofString "domain_suffix") :
    rule.pattern.bytes.head? = some 46 := by
  -- otherwise the rule covers a name that is one letter longer
  have hsub := h.subdomains rule (List.mem_singleton_self rule) (120 :: rule.pattern.bytes)
    ⟨henabled, htype, List.suffix_cons _ _⟩
  rcases hpattern : rule.pattern.bytes with _ | ⟨c, name⟩
  · rw [hpattern] at hsub
    exact absurd hsub (by decide)
  by_contra hdot
  rw [hpattern] at hsub
  have hname : nameOf (c :: name) = c :: name := by
    rw [nameOf]
    intro rest heq
    exact hdot (congrArg List.head? heq)
  rw [IsSubdomain, hname] at hsub
  rcases hsub with hsame | hends
  · have hlen := congrArg List.length (show lower _ = lower _ from hsame)
    simp [lower] at hlen
  · have heq := hends.eq_of_length (by simp [lower])
    exact absurd (List.cons.inj heq).1 (by decide)

theorem dnsSafe_of_followsDns {rule : RouteRule} (h : FollowsDns (ruleEngine rule) [rule]) :
    rule.DnsSafe where
  exact henabled htype := letterless_of_followsDns h ⟨henabled, .inl ⟨htype, rfl⟩⟩
  suffix henabled htype :=
    ⟨letterless_of_followsDns h ⟨henabled, .inr ⟨htype, List.suffix_refl _⟩⟩,
      dot_of_followsDns h henabled htype⟩

/-- **When domain rules follow domain names.** Whatever custom and builtin rules are taken from the
list, exactly when all its rules are safe. -/
theorem followsDns_iff (rules : List RouteRule) :
    (∀ (e : RouteEngine) (indexed : List RouteRule), e.customRules ⊆ rules → indexed ⊆ rules →
      e.index = indexed.foldl indexRule {} → FollowsDns e indexed) ↔
        ∀ rule ∈ rules, rule.DnsSafe := by
  constructor
  · intro h rule hrule
    refine dnsSafe_of_followsDns (h (ruleEngine rule) [rule] (List.nil_subset _) ?_ rfl)
    exact List.cons_subset.mpr ⟨hrule, List.nil_subset _⟩
  · intro hsafe e indexed hcustom hindexed hindex
    refine followsDns_of_safe hindex fun rule hrule ↦ hsafe rule ?_
    rcases List.mem_append.mp hrule with h | h
    · exact hcustom h
    · exact hindexed h

/-- A custom rule that sends one name directly. -/
def bankRule : RouteRule where
  ruleId := .lit "bank"
  ruleType := .lit "domain_suffix"
  pattern := .lit "bank.com"
  action := .direct

def bankEngine : RouteEngine := { customRules := [bankRule], index := indexRule {} bankRule }

/-- Another name that ends in the same letters is sent directly too, and the name itself in capitals
is not. -/
theorem bankEngine_not_followsDns :
    (¬IsSubdomain (ofString "notbank.com") bankRule.pattern.bytes ∧
      decide (fun _ ↦ false) bankEngine (ofString "notbank.com") [] =
        ⟨.direct, ofString "bank", ofString "custom_domain_suffix"⟩) ∧
    (SameLetters (ofString "bank.com") (ofString "BANK.COM") ∧
      decide (fun _ ↦ false) bankEngine (ofString "BANK.COM") [] =
        ⟨.proxy, ofString "default", ofString "default"⟩) ∧
    ¬FollowsDns bankEngine [bankRule] := by
  have hnot : ¬IsSubdomain (ofString "notbank.com") bankRule.pattern.bytes := by decide +kernel
  refine ⟨⟨hnot, by decide +kernel⟩, ⟨by decide +kernel, by decide +kernel⟩, fun h ↦ hnot ?_⟩
  exact h.subdomains bankRule List.mem_cons_self _ (by decide +kernel)

end RouteEngine

end LanProxyGateway
