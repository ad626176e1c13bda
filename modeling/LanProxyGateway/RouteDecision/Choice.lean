import LanProxyGateway.RouteDecision.RouteEngine

/-!
# Which rule decides

`decide` in terms of lists of rules. The first custom rule that applies to the request decides, if
it has an id. Otherwise the index does: of the rules it was built from, the last enabled one that
names the host exactly, or else the first enabled one that names an ending of it (`chosenDomain`).
Priorities have no part in this, and the index has forgotten which file a rule came from.
-/

open Foundation ByteString

namespace LanProxyGateway

namespace RouteRule

variable (rule : RouteRule) (host ip : ByteString)

/-- The rule is enabled and names the host. -/
def IsExactFor : Prop :=
  rule.enabled = true ∧ rule.ruleType.bytes = ofString "domain_exact" ∧ host = rule.pattern.bytes

/-- The rule is enabled and names an ending of the host. -/
def IsSuffixFor : Prop :=
  rule.enabled = true ∧ rule.ruleType.bytes = ofString "domain_suffix" ∧ rule.pattern.bytes <:+ host

/-- The rule is enabled and is about a domain that covers the host. -/
def CoversDomain (rule : RouteRule) (host : ByteString) : Prop :=
  rule.enabled = true ∧
    (rule.ruleType.bytes = ofString "domain_exact" ∧ host = rule.pattern.bytes ∨
      rule.ruleType.bytes = ofString "domain_suffix" ∧ rule.pattern.bytes <:+ host)

/-- The rule is enabled and applies to a request for the host, at the address, if there is one. -/
def Applies : Prop :=
  rule.CoversDomain host ∨ rule.enabled = true ∧ rule.ruleType.bytes = ofString "ip_cidr" ∧ ip ≠ []

instance : Decidable (rule.IsExactFor host) := inferInstanceAs (Decidable (_ ∧ _ ∧ _))

instance : Decidable (rule.IsSuffixFor host) := inferInstanceAs (Decidable (_ ∧ _ ∧ _))

instance : Decidable (rule.CoversDomain host) := inferInstanceAs (Decidable (_ ∧ (_ ∧ _ ∨ _ ∧ _)))

instance : Decidable (rule.Applies host ip) := inferInstanceAs (Decidable (_ ∨ _ ∧ _ ∧ _))

variable {rule host}

end RouteRule

namespace RouteEngine

variable {host ip : ByteString} {rules : List RouteRule} {e : RouteEngine}

/-! ## The index -/

/-- What an index built from the rules says about a host. -/
def chosenDomain (rules : List RouteRule) (host : ByteString) : Option RouteAction :=
  match (rules.filter (·.IsExactFor host)).getLast? with
  | some rule => some rule.action
  | none => (rules.find? (·.IsSuffixFor host)).map (·.action)

/-- A rule of the map is the last one that was written for its host. -/
theorem lookup_foldl_indexRule (i : DomainIndex) :
    (rules.foldl indexRule i).exactDomainMap.lookup host =
      ((rules.filter (·.IsExactFor host)).getLast?.map (·.action)).or
        (i.exactDomainMap.lookup host) := by
  induction rules generalizing i with
  | nil => rfl
  | cons rule rules ih =>
    rw [List.foldl_cons, ih]
    by_cases h : rule.IsExactFor host
    · have hlookup : (indexRule i rule).exactDomainMap.lookup host = some rule.action := by
        obtain ⟨henabled, htype, rfl⟩ := h
        rw [indexRule, henabled, if_neg (by decide), if_pos htype]
        exact AList.lookup_insert _
      rw [List.filter_cons_of_pos (by simpa using h), List.getLast?_cons, hlookup]
      rcases List.getLast? _ with _ | last
      · rfl
      · rfl
    · have hlookup : (indexRule i rule).exactDomainMap.lookup host =
          i.exactDomainMap.lookup host := by
        rw [indexRule]
        split_ifs with henabled htype
        · rfl
        · refine AList.lookup_insert_ne fun hhost ↦ h ⟨by simpa using henabled, htype, hhost⟩
        · rfl
        · rfl
      rw [List.filter_cons_of_neg (by simpa using h), hlookup]

/-- A rule of the list is the first one that was put there. -/
theorem find?_foldl_indexRule (i : DomainIndex) :
    ((rules.foldl indexRule i).suffixDomainList.find? fun s ↦ s.1.bytes.isSuffixOf host).map (·.2) =
      ((i.suffixDomainList.find? fun s ↦ s.1.bytes.isSuffixOf host).map (·.2)).or
        ((rules.find? (·.IsSuffixFor host)).map (·.action)) := by
  induction rules generalizing i with
  | nil => simp
  | cons rule rules ih =>
    rw [List.foldl_cons, ih]
    by_cases h : rule.IsSuffixFor host
    · have hlist : (indexRule i rule).suffixDomainList =
          i.suffixDomainList ++ [(rule.pattern, rule.action)] := by
        have hexact : ofString "domain_suffix" ≠ ofString "domain_exact" := by decide
        rw [indexRule, h.1, if_neg (by decide), h.2.1, if_neg hexact, if_pos rfl]
      have hsuffix : rule.pattern.bytes.isSuffixOf host := List.isSuffixOf_iff_suffix.mpr h.2.2
      rw [hlist, List.find?_append, List.find?_cons_of_pos (by simpa using hsuffix),
        List.find?_cons_of_pos (by simpa using h)]
      rcases i.suffixDomainList.find? _ with _ | first <;> rfl
    · have hlist : ((indexRule i rule).suffixDomainList.find? fun s ↦ s.1.bytes.isSuffixOf host) =
          i.suffixDomainList.find? fun s ↦ s.1.bytes.isSuffixOf host := by
        rw [indexRule]
        split_ifs with henabled _ htype
        · rfl
        · rfl
        · have hnot : ¬rule.pattern.bytes.isSuffixOf host :=
            fun hs ↦ h ⟨by simpa using henabled, htype, List.isSuffixOf_iff_suffix.mp hs⟩
          rw [List.find?_append, List.find?_cons_of_neg (by simpa using hnot), List.find?_nil,
            Option.or_none]
        · rfl
      rw [hlist, List.find?_cons_of_neg (by simpa using h)]

theorem chosenDomain_eq : chosenDomain rules host =
    ((rules.filter (·.IsExactFor host)).getLast?.map (·.action)).or
      ((rules.find? (·.IsSuffixFor host)).map (·.action)) := by
  rw [chosenDomain]
  rcases List.getLast? _ with _ | last
  · rfl
  · rfl

/-- What the map of an index says. -/
theorem lookup_index {indexed : List RouteRule} (hindex : e.index = indexed.foldl indexRule {})
    (host : ByteString) : e.index.exactDomainMap.lookup host =
      (indexed.filter (·.IsExactFor host)).getLast?.map (·.action) := by
  rw [hindex, lookup_foldl_indexRule, show ({} : DomainIndex).exactDomainMap = ∅ from rfl,
    AList.lookup_empty, Option.or_none]

/-- What the list of an index says. -/
theorem find?_index {indexed : List RouteRule} (hindex : e.index = indexed.foldl indexRule {})
    (host : ByteString) :
    (e.index.suffixDomainList.find? fun s ↦ s.1.bytes.isSuffixOf host).map (·.2) =
      (indexed.find? (·.IsSuffixFor host)).map (·.action) := by
  rw [hindex, find?_foldl_indexRule, show ({} : DomainIndex).suffixDomainList = [] from rfl,
    List.find?_nil, Option.map_none, Option.none_or]

/-- The index decides about the hosts it knows, and under an id of its own. -/
theorem matchDomainRules_spec {indexed : List RouteRule}
    (hindex : e.index = indexed.foldl indexRule {}) :
    (chosenDomain indexed host = none ∧ e.matchDomainRules host = noMatch) ∨
      ∃ action, chosenDomain indexed host = some action ∧
        (e.matchDomainRules host).ruleId ≠ [] ∧ (e.matchDomainRules host).action = action := by
  rw [chosenDomain_eq, ← lookup_index hindex host, ← find?_index hindex host, matchDomainRules]
  rcases e.index.exactDomainMap.lookup host with _ | action
  · rcases e.index.suffixDomainList.find? _ with _ | ⟨suffix, action⟩
    · exact .inl ⟨rfl, rfl⟩
    · exact .inr ⟨action, rfl, List.append_ne_nil_of_left_ne_nil (by decide) _, rfl⟩
  · exact .inr ⟨action, rfl, List.append_ne_nil_of_left_ne_nil (by decide) _, rfl⟩

/-! ## The decision -/

/-- The custom rule that decides about a request, if one does: the first that applies, and only if
it has an id. -/
def decidingRule (rules : List RouteRule) (host ip : ByteString) : Option RouteRule :=
  (rules.find? (·.Applies host ip)).filter (·.ruleId.bytes ≠ [])

/-- The action where no rule decides: the word of the database, or the default. -/
def unruled (isChina : ByteString → Bool) (e : RouteEngine) (ip : ByteString) : RouteAction :=
  if ip ≠ [] ∧ (matchGeoip isChina e ip).ruleId ≠ [] then (matchGeoip isChina e ip).action
  else e.defaultAction

/-- The first rule that applies is the one that matches. -/
theorem matchCustomRules_spec :
    (matchCustomRules host ip rules).ruleId =
        ((rules.find? (·.Applies host ip)).map (·.ruleId.bytes)).getD [] ∧
      (matchCustomRules host ip rules).action =
        ((rules.find? (·.Applies host ip)).map (·.action)).getD .proxy := by
  induction rules with
  | nil => exact ⟨rfl, rfl⟩
  | cons rule rules ih =>
    by_cases h : rule.Applies host ip
    · rw [List.find?_cons_of_pos (by simpa using h), matchCustomRules]
      have henabled : rule.enabled = true := h.elim And.left And.left
      rw [henabled, if_neg (by decide)]
      split_ifs with hexact hsuffix hcidr
      · exact ⟨rfl, rfl⟩
      · exact ⟨rfl, rfl⟩
      · exact ⟨rfl, rfl⟩
      · rcases h with ⟨-, h | h⟩ | ⟨-, h⟩
        · exact absurd h hexact
        · exact absurd h hsuffix
        · exact absurd h hcidr
    · rw [List.find?_cons_of_neg (by simpa using h), matchCustomRules]
      split_ifs with henabled hexact hsuffix hcidr
      · exact ih
      · exact absurd (.inl ⟨by simpa using henabled, .inl hexact⟩) h
      · exact absurd (.inl ⟨by simpa using henabled, .inr hsuffix⟩) h
      · exact absurd (.inr ⟨by simpa using henabled, hcidr⟩) h
      · exact ih

/-- **What decides.** A custom rule with an id, or the rules of the index, or what is left. -/
theorem action_decide {isChina : ByteString → Bool} {indexed : List RouteRule}
    (hindex : e.index = indexed.foldl indexRule {}) :
    (decide isChina e host ip).action =
      ((decidingRule e.customRules host ip).map (·.action)).getD
        ((chosenDomain indexed host).getD (e.unruled isChina ip)) := by
  obtain ⟨hid, haction⟩ : (matchCustomRules host ip e.customRules).ruleId = _ ∧
      (matchCustomRules host ip e.customRules).action = _ := matchCustomRules_spec
  have hrest : (if (e.matchDomainRules host).ruleId ≠ [] then e.matchDomainRules host
      else if ip ≠ [] ∧ (matchGeoip isChina e ip).ruleId ≠ [] then matchGeoip isChina e ip
      else e.defaultDecision).action =
        (chosenDomain indexed host).getD (e.unruled isChina ip) := by
    have hspec : (chosenDomain indexed host = none ∧ e.matchDomainRules host = noMatch) ∨ _ :=
      matchDomainRules_spec hindex
    rcases hspec with ⟨hnone, hno⟩ | ⟨action, hsome, hne, ha⟩
    · rw [hnone, hno, Option.getD_none, unruled]
      change (if ip ≠ [] ∧ _ then _ else _ : RouteResult).action = _
      split <;> rfl
    · rw [hsome, if_pos hne, ha, Option.getD_some]
  rw [decide, decidingRule]
  simp only
  rcases hfind : e.customRules.find? (·.Applies host ip) with _ | rule
  · rw [hfind, Option.map_none, Option.getD_none] at hid
    rw [hfind, hid, if_neg (not_not.mpr rfl), hrest]
    rfl
  · rw [hfind, Option.map_some, Option.getD_some] at hid haction
    rw [hfind, hid]
    by_cases hne : rule.ruleId.bytes = []
    · rw [if_neg (not_not.mpr hne), hrest, Option.filter_some_neg (by simpa using hne)]
      rfl
    · rw [if_pos hne, haction, Option.filter_some_pos (by simpa using hne)]
      rfl

end RouteEngine

end LanProxyGateway
