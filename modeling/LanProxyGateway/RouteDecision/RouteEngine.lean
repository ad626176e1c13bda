import LanProxyGateway.Foundation.Json
import Mathlib.Data.List.AList

/-!
# Routing decisions

`route_engine` holds two lists of rules and an index of domains derived from both. `decide` asks the
custom rules first, then the index, then the GeoIP database if it is given an address, and ends with
the default action.

Rules are read from JSON files. A rule that does not convert ends the reading of its file and leaves
the rules before it in place; every string of a rule therefore is a `Text`. Whether an address
belongs to China is a parameter.
-/

open Foundation ByteString

namespace LanProxyGateway

inductive RouteAction
  | direct
  | proxy
  deriving DecidableEq, Repr

structure RouteResult where
  action : RouteAction
  ruleId : ByteString
  matchType : ByteString
  deriving DecidableEq, Repr

/-- Both strings are UTF-8. -/
def RouteResult.IsText (r : RouteResult) : Prop := Utf8 r.ruleId ∧ Utf8 r.matchType

structure RouteRule where
  ruleId : Text
  ruleType : Text
  pattern : Text
  action : RouteAction
  priority : Int32 := 0
  enabled : Bool := true
  isBuiltin : Bool := false
  deriving DecidableEq

/-- `m_exact_domain_map` and `m_suffix_domain_list`. -/
structure DomainIndex where
  exactDomainMap : AList fun _ : ByteString ↦ RouteAction := ∅
  suffixDomainList : List (Text × RouteAction) := []

structure RouteEngine where
  builtinRules : List RouteRule := []
  customRules : List RouteRule := []
  defaultAction : RouteAction := .proxy
  index : DomainIndex := {}
  geoipAvailable : Bool := false
  geoipDbPath : ByteString := []

namespace RouteEngine

/-! ## Reading rules -/

/-- `(s == "direct") ? route_action::direct : route_action::proxy`. -/
def actionOfString (s : ByteString) : RouteAction :=
  if s = ofString "direct" then .direct else .proxy

/-- `route_engine::set_default_action`. -/
def setDefaultAction (e : RouteEngine) (action : ByteString) : RouteEngine :=
  { e with defaultAction := actionOfString action }

/-- One rule of a file; `none` where a conversion throws. -/
def parseRule (isBuiltin : Bool) (r : Json) : Option RouteRule := do
  let ruleId ← Json.value Json.getText "rule_id" (Text.lit "") r
  let ruleType ← Json.value Json.getText "rule_type" (Text.lit "") r
  let pattern ← Json.value Json.getText "pattern" (Text.lit "") r
  let action ← Json.value Json.getText "action" (Text.lit "direct") r
  let priority ← Json.value Json.getInt "priority" 0 r
  let enabled ← Json.value Json.getBool "enabled" true r
  some ⟨ruleId, ruleType, pattern, actionOfString action.bytes, Int32.ofInt priority, enabled,
    isBuiltin⟩

/-- The loop over the rules of a file, up to an exception. -/
def parseRules (isBuiltin : Bool) : List Json → List RouteRule
  | [] => []
  | r :: rs =>
    match parseRule isBuiltin r with
    | some rule => rule :: parseRules isBuiltin rs
    | none => []

/-- The rules in the content of a file. -/
def rulesIn (isBuiltin : Bool) : FileContent → List RouteRule
  | .json j => parseRules isBuiltin ((j.member? (ofString "rules")).elim [] Json.arrayItems)
  | _ => []

/-- `route_engine::load_builtin_rules`: nothing happens without a path. -/
def loadBuiltinRules (e : RouteEngine) (files : ByteString → FileContent) (path : ByteString) :
    RouteEngine :=
  if path.isEmpty then e else { e with builtinRules := rulesIn true (files path) }

/-- `route_engine::load_custom_rules`: without a path the list is cleared all the same. -/
def loadCustomRules (e : RouteEngine) (files : ByteString → FileContent) (path : ByteString) :
    RouteEngine :=
  { e with customRules := if path.isEmpty then [] else rulesIn false (files path) }

/-- One rule of the loops in `build_domain_index`. -/
def indexRule (i : DomainIndex) (rule : RouteRule) : DomainIndex :=
  if !rule.enabled then i
  else if rule.ruleType.bytes = ofString "domain_exact" then
    { i with exactDomainMap := i.exactDomainMap.insert rule.pattern.bytes rule.action }
  else if rule.ruleType.bytes = ofString "domain_suffix" then
    { i with suffixDomainList := i.suffixDomainList ++ [(rule.pattern, rule.action)] }
  else i

/-- `route_engine::build_domain_index`. -/
def buildDomainIndex (e : RouteEngine) : RouteEngine :=
  { e with index := (e.builtinRules ++ e.customRules).foldl indexRule {} }

/-- `route_engine::init`, told whether the GeoIP database could be opened. -/
def init (e : RouteEngine) (files : ByteString → FileContent) (geoipAvailable : Bool)
    (builtinRulesPath customRulesPath geoipDbPath defaultAction : ByteString) : RouteEngine :=
  let e := { e with
    geoipDbPath := geoipDbPath
    defaultAction := actionOfString defaultAction
    geoipAvailable := geoipAvailable }
  ((e.loadBuiltinRules files builtinRulesPath).loadCustomRules files
    customRulesPath).buildDomainIndex

/-- `route_engine::reload_rules`, with the paths it makes up. -/
def reloadRules (e : RouteEngine) (files : ByteString → FileContent) : RouteEngine :=
  let builtinPath := if e.builtinRules.isEmpty then [] else ofString "reload"
  ((e.loadBuiltinRules files builtinPath).loadCustomRules files []).buildDomainIndex

/-! ## Deciding -/

/-- The result of a stage that found nothing. -/
def noMatch : RouteResult := ⟨.proxy, [], []⟩

/-- `route_engine::match_custom_rules`. A rule of type `ip_cidr` applies to every address. -/
def matchCustomRules (host ip : ByteString) : List RouteRule → RouteResult
  | [] => noMatch
  | rule :: rules =>
    if !rule.enabled then matchCustomRules host ip rules
    else if rule.ruleType.bytes = ofString "domain_exact" ∧ host = rule.pattern.bytes then
      ⟨rule.action, rule.ruleId.bytes, ofString "custom_domain_exact"⟩
    else if rule.ruleType.bytes = ofString "domain_suffix" ∧ rule.pattern.bytes <:+ host then
      ⟨rule.action, rule.ruleId.bytes, ofString "custom_domain_suffix"⟩
    else if rule.ruleType.bytes = ofString "ip_cidr" ∧ ip ≠ [] then
      ⟨rule.action, rule.ruleId.bytes, ofString "custom_ip_cidr"⟩
    else matchCustomRules host ip rules

/-- `route_engine::match_domain_rules`. -/
def matchDomainRules (e : RouteEngine) (host : ByteString) : RouteResult :=
  match e.index.exactDomainMap.lookup host with
  | some action => ⟨action, ofString "builtin_exact_" ++ host, ofString "builtin_domain_exact"⟩
  | none =>
    match e.index.suffixDomainList.find? fun s ↦ s.1.bytes.isSuffixOf host with
    | some (suffix, action) =>
      ⟨action, ofString "builtin_suffix_" ++ suffix.bytes, ofString "builtin_domain_suffix"⟩
    | none => noMatch

/-- `route_engine::match_geoip`. -/
def matchGeoip (isChina : ByteString → Bool) (e : RouteEngine) (ip : ByteString) : RouteResult :=
  if !e.geoipAvailable then noMatch
  else if isChina ip then ⟨.direct, ofString "geoip_cn", ofString "geoip"⟩
  else ⟨.proxy, ofString "geoip_international", ofString "geoip"⟩

def defaultDecision (e : RouteEngine) : RouteResult :=
  ⟨e.defaultAction, ofString "default", ofString "default"⟩

/-- `route_engine::decide`. A stage counts as a match when its rule has an id. -/
def decide (isChina : ByteString → Bool) (e : RouteEngine) (host ip : ByteString) : RouteResult :=
  let custom := matchCustomRules host ip e.customRules
  if custom.ruleId ≠ [] then custom
  else
    let domain := e.matchDomainRules host
    if domain.ruleId ≠ [] then domain
    else
      let geoip := matchGeoip isChina e ip
      if ip ≠ [] ∧ geoip.ruleId ≠ [] then geoip else e.defaultDecision

/-! ## The strings of a decision -/

theorem isText_matchCustomRules (host ip : ByteString) (rules : List RouteRule) :
    (matchCustomRules host ip rules).IsText := by
  induction rules with
  | nil => exact ⟨utf8_nil, utf8_nil⟩
  | cons rule rules ih =>
    rw [matchCustomRules]
    split
    · exact ih
    · split
      · exact ⟨rule.ruleId.utf8, utf8_ofString "custom_domain_exact"⟩
      · split
        · exact ⟨rule.ruleId.utf8, utf8_ofString "custom_domain_suffix"⟩
        · split
          · exact ⟨rule.ruleId.utf8, utf8_ofString "custom_ip_cidr"⟩
          · exact ih

theorem isText_matchDomainRules (e : RouteEngine) {host : ByteString} (h : Utf8 host) :
    (e.matchDomainRules host).IsText := by
  rw [matchDomainRules]
  split
  · exact ⟨(utf8_ofString "builtin_exact_").append h,
      utf8_ofString "builtin_domain_exact"⟩
  · split
    · rename_i suffix action _
      exact ⟨(utf8_ofString "builtin_suffix_").append suffix.utf8,
        utf8_ofString "builtin_domain_suffix"⟩
    · exact ⟨utf8_nil, utf8_nil⟩

theorem isText_matchGeoip (isChina : ByteString → Bool) (e : RouteEngine) (ip : ByteString) :
    (matchGeoip isChina e ip).IsText := by
  rw [matchGeoip]
  split
  · exact ⟨utf8_nil, utf8_nil⟩
  · split
    · exact ⟨by decide, by decide⟩
    · exact ⟨by decide, by decide⟩

/-- Rules are texts, so a decision about a host that is UTF-8 consists of texts. -/
theorem isText_decide (isChina : ByteString → Bool) (e : RouteEngine) {host : ByteString}
    (h : Utf8 host) (ip : ByteString) : (decide isChina e host ip).IsText := by
  rw [RouteEngine.decide]
  simp only
  split
  · exact isText_matchCustomRules host ip e.customRules
  · split
    · exact e.isText_matchDomainRules h
    · split
      · exact isText_matchGeoip isChina e ip
      · exact ⟨utf8_ofString "default", utf8_ofString "default"⟩

end RouteEngine

end LanProxyGateway
