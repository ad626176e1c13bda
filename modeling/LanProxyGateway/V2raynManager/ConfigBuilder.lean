import LanProxyGateway.Foundation.Json
import LanProxyGateway.V2raynManager.VmNode

/-!
# The v2ray configuration a node list is written to

`vm_config_builder::build_full_config` starts from the configuration that is there, puts its own
outbounds in place of the old ones, rewrites the routing rules for the active node, and adds
inbounds and a log level where there are none. The only exceptions are those of `rule.value`, on a
rule that is no object or whose `outboundTag` is no string.

The rules it takes for its own are those whose `outboundTag` begins with `vmess-`; they are sent to
the active node. Where it finds none it puts a default rule in front, written as a braced list of
three pairs. For `insert` such a list is a list of elements, so what arrives are three arrays of two
strings (`defaultRule`).

The configuration it returns is described by `buildFullConfig_of_readable`: the rules, in a frame
(`assemble`) that depends on everything but the rules and the active node, and that is put up once
(`assemble_assemble`).
-/

open Foundation ByteString

namespace LanProxyGateway

namespace VmConfigBuilder

/-! ## One outbound -/

def buildTcpSettings (cfg : VmNode.TcpConfig) : Json :=
  .ofFields [("header", .ofFields [("type", .string cfg.headerType)])]

def buildWsSettings (cfg : VmNode.WsConfig) : Json :=
  .ofFields (("path", .string cfg.path) ::
    if cfg.host = [] then [] else [("headers", .ofFields [("Host", .string cfg.host)])])

def buildH2Settings (cfg : VmNode.H2Config) : Json :=
  .ofFields (("path", .string cfg.path) ::
    if cfg.host = [] then [] else [("host", .array (cfg.host.map .string))])

def buildQuicSettings (cfg : VmNode.QuicConfig) : Json :=
  .ofFields [("security", .string cfg.security), ("key", .string cfg.key),
    ("header", .ofFields [("type", .string cfg.headerType)])]

def buildKcpSettings (cfg : VmNode.KcpConfig) : Json :=
  .ofFields [("mtu", .integer cfg.mtu), ("tti", .integer cfg.tti),
    ("uplinkCapacity", .integer cfg.uplinkCapacity),
    ("downlinkCapacity", .integer cfg.downlinkCapacity), ("congestion", .boolean cfg.congestion),
    ("header", .ofFields [("type", .string cfg.headerType)])]

def buildTlsSettings (cfg : VmNode.TlsConfig) : Json :=
  .ofFields (("allowInsecure", .boolean cfg.allowInsecure) ::
    if cfg.serverName = [] then [] else [("serverName", .string cfg.serverName)])

/-- The settings of the transport the node uses, under the name v2ray gives them. -/
def transportSettings (node : VmNode) : List (String × Json) :=
  if node.network = ofString "tcp" then [("tcpSettings", buildTcpSettings node.tcpCfg)]
  else if node.network = ofString "ws" then [("wsSettings", buildWsSettings node.wsCfg)]
  else if node.network = ofString "h2" then [("httpSettings", buildH2Settings node.h2Cfg)]
  else if node.network = ofString "quic" then [("quicSettings", buildQuicSettings node.quicCfg)]
  else if node.network = ofString "kcp" then [("kcpSettings", buildKcpSettings node.kcpCfg)]
  else []

def buildStreamSettings (node : VmNode) : Json :=
  .ofFields ([("network", .string node.network),
    ("security", .string (ofString (if node.tls = ofString "tls" then "tls" else "none")))]
    ++ transportSettings node
    ++ if node.tls = ofString "tls" then [("tlsSettings", buildTlsSettings node.tlsCfg)] else [])

def buildVmessOutbound (node : VmNode) : Json :=
  let user := .ofFields [("id", .string node.userId), ("alterId", .integer node.alterId),
    ("security", .string node.security)]
  let vnextEntry := .ofFields [("address", .string node.address),
    ("port", .integer node.port.toNat), ("users", .array [user])]
  .ofFields [("tag", .string node.tag), ("protocol", .string (ofString "vmess")),
    ("settings", .ofFields [("vnext", .array [vnextEntry])]),
    ("streamSettings", buildStreamSettings node)]

/-- The outbounds of the nodes, and the two that always follow. -/
def buildOutbounds (nodes : List VmNode) : List Json :=
  nodes.map buildVmessOutbound ++ [
    .ofFields [("protocol", .string (ofString "freedom")), ("tag", .string (ofString "direct"))],
    .ofFields [("protocol", .string (ofString "blackhole")), ("tag", .string (ofString "block"))]]

/-! ## The routing rules -/

/-- The rules of a configuration, none where there is no array of them. -/
def routingRules (config : Json) : List Json :=
  ((config.member? (ofString "routing")).bind (Json.member? (ofString "rules"))).elim []
    Json.arrayItems

/-- `rule.value("outboundTag", "")`. -/
def ruleTag (rule : Json) : Except CxxException ByteString :=
  Json.orThrow (Json.value Json.getString "outboundTag" [] rule)

/-- `ob_tag.find("vmess-") == 0`. -/
def isVmessTag (tag : ByteString) : Bool := startsWith tag (ofString "vmess-")

/-- `rule["outboundTag"] = active_tag`. -/
def setTag (activeTag : ByteString) (rule : Json) : Json :=
  .object (OrderedMap.set (ofString "outboundTag") (.string activeTag) rule.members)

/-- The loop over the rules, with the flag `found_default`. -/
def retargetRules (activeTag : ByteString) : List Json → Except CxxException (List Json × Bool)
  | [] => .ok ([], false)
  | rule :: rules => do
    let obTag ← ruleTag rule
    let (newRules, found) ← retargetRules activeTag rules
    if isVmessTag obTag then .ok (setTag activeTag rule :: newRules, true)
    else .ok (rule :: newRules, found)

/-- The elements that the braced list of the default rule inserts. -/
def defaultRule (activeTag : ByteString) : List Json := [
  .array [.string (ofString "type"), .string (ofString "field")],
  .array [.string (ofString "outboundTag"), .string activeTag],
  .array [.string (ofString "network"), .string (ofString "tcp,udp")]]

/-! ## The whole configuration -/

/-- The active tag, or else the tag of the first node. -/
def effectiveTag (nodes : List VmNode) (activeNodeTag : ByteString) : ByteString :=
  if activeNodeTag = [] then nodes.head?.elim [] VmNode.tag else activeNodeTag

def defaultInbounds : List Json := [
  .ofFields [("tag", .string (ofString "socks-in")), ("port", .integer 10808),
    ("listen", .string (ofString "127.0.0.1")), ("protocol", .string (ofString "socks")),
    ("settings", .ofFields [("auth", .string (ofString "noauth")), ("udp", .boolean true)]),
    ("sniffing", .ofFields [("enabled", .boolean true),
      ("destOverride", .array [.string (ofString "http"), .string (ofString "tls")])])],
  .ofFields [("tag", .string (ofString "http-in")), ("port", .integer 10809),
    ("listen", .string (ofString "127.0.0.1")), ("protocol", .string (ofString "http")),
    ("settings", .ofFields [])]]

/-- The members with the new outbounds and with an object for the routing. -/
def withOutbounds (nodes : List VmNode) (config : List (ByteString × Json)) :
    List (ByteString × Json) :=
  OrderedMap.fill (ofString "routing") Json.isObject (.ofFields [])
    (OrderedMap.set (ofString "outbounds") (.array (buildOutbounds nodes)) config)

/-- The members of `config["routing"]`. -/
def routingOf (config : List (ByteString × Json)) : List (ByteString × Json) :=
  (OrderedMap.get? (ofString "routing") config).elim [] Json.members

/-- `config["routing"]["rules"] = new_rules`. -/
def setRules (rules : List Json) (config : List (ByteString × Json)) : List (ByteString × Json) :=
  OrderedMap.set (ofString "routing")
    (.object (OrderedMap.set (ofString "rules") (.array rules) (routingOf config))) config

/-- The members with inbounds and a log level. -/
def withDefaults (config : List (ByteString × Json)) : List (ByteString × Json) :=
  OrderedMap.fill (ofString "log") (fun _ ↦ true)
    (.ofFields [("loglevel", .string (ofString "warning"))])
    (OrderedMap.fill (ofString "inbounds") (fun j ↦ !j.arrayItems.isEmpty) (.array defaultInbounds)
      config)

/-- `vm_config_builder::build_full_config`. -/
def buildFullConfig (nodes : List VmNode) (existingConfig : Json) (activeNodeTag : ByteString) :
    Except CxxException Json := do
  let config := withOutbounds nodes existingConfig.members
  let activeTag := effectiveTag nodes activeNodeTag
  if activeTag = [] then .ok (.object (withDefaults config))
  else
    let (newRules, foundDefault) ← retargetRules activeTag (routingRules (.object config))
    let newRules := if foundDefault then newRules else defaultRule activeTag ++ newRules
    .ok (.object (withDefaults (setRules newRules config)))

/-! ## What happens to the rules -/

/-- The rule has the outbound tag. -/
def Targets (rule : Json) (tag : ByteString) : Prop :=
  rule.member? (ofString "outboundTag") = some (.string tag)

/-- The builder takes the rule for its own. -/
def Owned (rule : Json) : Prop := ∃ tag, Targets rule tag ∧ isVmessTag tag

/-- The tag of the rule can be read. -/
def Readable (rule : Json) : Prop := ∃ tag, ruleTag rule = .ok tag

theorem owned_iff {rule : Json} : Owned rule ↔
    (((rule.member? (ofString "outboundTag")).bind Json.getString).any isVmessTag : Prop) := by
  rw [Owned]
  simp only [Targets]
  rcases rule.member? (ofString "outboundTag") with _ | v
  · exact ⟨nofun, nofun⟩
  · constructor
    · rintro ⟨tag, ht, hv⟩
      rw [Option.some_inj.mp ht]
      exact hv
    · intro h
      cases v with
      | string tag => exact ⟨tag, rfl, h⟩
      | _ => cases h

instance (rule : Json) : Decidable (Owned rule) := decidable_of_iff _ owned_iff.symm

theorem isVmessTag_ne_nil {tag : ByteString} (h : isVmessTag tag) : tag ≠ [] := by
  rintro rfl
  exact absurd h (by decide)

theorem effectiveTag_of_ne_nil (nodes : List VmNode) {tag : ByteString} (h : tag ≠ []) :
    effectiveTag nodes tag = tag := if_neg h

theorem effectiveTag_ne_nil (nodes : List VmNode) {tag : ByteString} (h : tag ≠ []) :
    effectiveTag nodes tag ≠ [] := by rwa [effectiveTag_of_ne_nil nodes h]

/-- What the builder makes of one rule. -/
def retarget (activeTag : ByteString) (rule : Json) : Json :=
  if Owned rule then setTag activeTag rule else rule

theorem targets_setTag (activeTag : ByteString) (rule : Json) :
    Targets (setTag activeTag rule) activeTag := OrderedMap.get?_set_self

theorem Targets.unique {rule : Json} {s t : ByteString} (hs : Targets rule s)
    (ht : Targets rule t) :
    s = t := by
  rw [Targets, hs, Option.some_inj] at ht
  exact Json.string.inj ht

theorem ruleTag_of_targets {rule : Json} {tag : ByteString} (h : Targets rule tag) :
    ruleTag rule = .ok tag := by
  have hobj : rule.isObject := by
    by_contra hobj
    rw [Targets, Json.member?_of_not_isObject hobj] at h
    cases h
  rw [ruleTag, Json.value_of_isObject _ _ _ hobj, h]
  rfl

/-- A rule whose tag can be read has that tag, or it has none. -/
theorem targets_or_absent {rule : Json} {tag : ByteString} (h : ruleTag rule = .ok tag) :
    Targets rule tag ∨ rule.member? (ofString "outboundTag") = none ∧ tag = [] := by
  by_cases hobj : rule.isObject
  · rw [ruleTag, Json.value_of_isObject _ _ _ hobj] at h
    rw [Targets]
    rcases hm : rule.member? (ofString "outboundTag") with _ | v
    · rw [hm] at h
      exact .inr ⟨rfl, (Except.ok.inj h).symm⟩
    · rw [hm] at h
      cases v with
      | string s => exact .inl (congrArg (fun t ↦ some (Json.string t)) (Except.ok.inj h))
      | _ => cases h
  · rw [ruleTag] at h
    cases rule with
    | object ms => exact absurd rfl hobj
    | _ => cases h

/-- The test of the loop. -/
theorem owned_iff_of_ruleTag {rule : Json} {tag : ByteString} (h : ruleTag rule = .ok tag) :
    Owned rule ↔ isVmessTag tag := by
  constructor
  · rintro ⟨t, ht, hv⟩
    rw [ruleTag_of_targets ht] at h
    rwa [← Except.ok.inj h]
  · intro hv
    rcases targets_or_absent h with ht | ⟨-, rfl⟩
    · exact ⟨tag, ht, hv⟩
    · exact absurd hv (by decide)

theorem readable_retarget (a : ByteString) {rule : Json} (h : Readable rule) :
    Readable (retarget a rule) := by
  rw [retarget]
  split
  · exact ⟨a, ruleTag_of_targets (targets_setTag a rule)⟩
  · exact h

theorem readable_iff {rule : Json} :
    Readable rule ↔ ((Json.value Json.getString "outboundTag" [] rule).isSome : Prop) := by
  rw [Readable]
  simp only [ruleTag]
  rcases Json.value Json.getString "outboundTag" [] rule with _ | tag
  · exact ⟨nofun, nofun⟩
  · exact ⟨fun _ ↦ rfl, fun _ ↦ ⟨tag, rfl⟩⟩

instance (rule : Json) : Decidable (Readable rule) := decidable_of_iff _ readable_iff.symm

theorem ruleTag_of_not_readable {rule : Json} (h : ¬Readable rule) :
    ruleTag rule = .error .typeError := by
  rcases hv : Json.value Json.getString "outboundTag" [] rule with _ | tag
  · rw [ruleTag, hv]
    rfl
  · exact absurd ⟨tag, by rw [ruleTag, hv]; rfl⟩ h

/-- The loop over rules whose tags can be read. -/
theorem retargetRules_of_readable (activeTag : ByteString) {rules : List Json}
    (h : ∀ r ∈ rules, Readable r) : retargetRules activeTag rules =
      .ok (rules.map (retarget activeTag), decide (∃ r ∈ rules, Owned r)) := by
  induction rules with
  | nil => rfl
  | cons rule rules ih =>
    rw [List.forall_mem_cons] at h
    obtain ⟨⟨tag, htag⟩, hrest⟩ := h
    have hown := owned_iff_of_ruleTag htag
    rw [retargetRules, htag, ih hrest, List.map_cons, retarget]
    by_cases hv : isVmessTag tag
    · simp [Bind.bind, Except.bind, hv, hown.mpr hv]
    · have hno : ¬Owned rule := fun ho ↦ hv (hown.mp ho)
      simp [Bind.bind, Except.bind, hv, hno]

/-- One tag that cannot be read ends it. -/
theorem retargetRules_of_not_readable (activeTag : ByteString) {rules : List Json}
    (h : ∃ r ∈ rules, ¬Readable r) : retargetRules activeTag rules = .error .typeError := by
  induction rules with
  | nil =>
    obtain ⟨r, hr, -⟩ := h
    exact absurd hr List.not_mem_nil
  | cons rule rules ih =>
    rw [retargetRules]
    by_cases hrule : Readable rule
    · obtain ⟨r, hr, hno⟩ := h
      rcases List.mem_cons.mp hr with rfl | hr
      · exact absurd hrule hno
      · obtain ⟨tag, htag⟩ := hrule
        rw [htag, ih ⟨r, hr, hno⟩]
        rfl
    · rw [ruleTag_of_not_readable hrule]
      rfl

/-! ## The frame around the rules -/

/-- The configuration with the rules in it. -/
def assemble (nodes : List VmNode) (existing : List (ByteString × Json))
    (rules : List Json) : Json :=
  .object (withDefaults (setRules rules (withOutbounds nodes existing)))

/-- The rules that are put into it. -/
def newRules (activeTag : ByteString) (rules : List Json) : List Json :=
  if ∃ r ∈ rules, Owned r then rules.map (retarget activeTag)
  else defaultRule activeTag ++ rules.map (retarget activeTag)

theorem newRules_of_owned {a : ByteString} {rules : List Json} (h : ∃ r ∈ rules, Owned r) :
    newRules a rules = rules.map (retarget a) := if_pos h

theorem isArray_of_mem_routingRules {config r : Json} (h : r ∈ routingRules config) :
    ∃ rules, (config.member? (ofString "routing")).bind (Json.member? (ofString "rules"))
      = some (.array rules) := by
  rw [routingRules] at h
  rcases hv : (config.member? (ofString "routing")).bind
    (Json.member? (ofString "rules")) with _ | v
  · rw [hv] at h
    exact absurd h List.not_mem_nil
  · rw [hv] at h
    cases v with
    | array rules => exact ⟨rules, rfl⟩
    | _ => exact absurd h List.not_mem_nil

private theorem keys_ne : ofString "outbounds" ≠ ofString "routing" ∧
    ofString "inbounds" ≠ ofString "routing" ∧ ofString "log" ≠ ofString "routing" ∧
    ofString "inbounds" ≠ ofString "outbounds" ∧ ofString "log" ≠ ofString "outbounds" ∧
    ofString "log" ≠ ofString "inbounds" := by decide

/-- Replacing the routing behind the defaults. -/
theorem withDefaults_set_routing (v : Json) (config : List (ByteString × Json)) :
    withDefaults (OrderedMap.set (ofString "routing") v config)
      = OrderedMap.set (ofString "routing") v (withDefaults config) := by
  obtain ⟨-, hin, hlog, -⟩ := keys_ne
  rw [withDefaults, OrderedMap.fill_set_comm hin, OrderedMap.fill_set_comm hlog]
  rfl

/-- Replacing the outbounds behind the defaults. -/
theorem withDefaults_set_outbounds (v : Json) (config : List (ByteString × Json)) :
    withDefaults (OrderedMap.set (ofString "outbounds") v config)
      = OrderedMap.set (ofString "outbounds") v (withDefaults config) := by
  obtain ⟨-, -, -, hin, hlog, -⟩ := keys_ne
  rw [withDefaults, OrderedMap.fill_set_comm hin, OrderedMap.fill_set_comm hlog]
  rfl

/-- There is an inbound, whatever there was before. -/
theorem any_inbounds_withDefaults (config : List (ByteString × Json)) :
    (OrderedMap.get? (ofString "inbounds") (withDefaults config)).any
      fun j ↦ !j.arrayItems.isEmpty := by
  obtain ⟨-, -, -, -, -, hne⟩ := keys_ne
  rw [withDefaults, OrderedMap.get?_fill_of_ne hne]
  exact OrderedMap.any_get?_fill rfl

/-- The inbounds are an array. -/
theorem any_isArray_inbounds (config : List (ByteString × Json)) :
    ((Json.object (withDefaults config)).member? (ofString "inbounds")).any Json.isArray := by
  obtain ⟨j, hj, hitems⟩ := (Option.any_eq_true _ _).mp (any_inbounds_withDefaults config)
  rw [Json.member?_object, hj, Option.any_some]
  cases j with
  | array items => rfl
  | _ => cases hitems

/-- The defaults are filled in once. -/
theorem withDefaults_withDefaults (config : List (ByteString × Json)) :
    withDefaults (withDefaults config) = withDefaults config := by
  obtain ⟨-, -, -, -, -, hne⟩ := keys_ne
  have hin := any_inbounds_withDefaults config
  have hlog : (OrderedMap.get? (ofString "log") (withDefaults config)).any fun _ ↦ true := by
    rw [withDefaults]
    exact OrderedMap.any_get?_fill rfl
  rw [withDefaults, OrderedMap.fill_eq_self hin, OrderedMap.fill_eq_self hlog]

theorem get?_routing_withDefaults (config : List (ByteString × Json)) :
    OrderedMap.get? (ofString "routing") (withDefaults config)
      = OrderedMap.get? (ofString "routing") config := by
  obtain ⟨-, hin, hlog, -⟩ := keys_ne
  rw [withDefaults, OrderedMap.get?_fill_of_ne hlog, OrderedMap.get?_fill_of_ne hin]

theorem get?_routing_setRules (rules : List Json) (config : List (ByteString × Json)) :
    OrderedMap.get? (ofString "routing") (setRules rules config) =
      some (.object (OrderedMap.set (ofString "rules") (.array rules) (routingOf config))) :=
  OrderedMap.get?_set_self

/-- The rules of a configuration are not affected by the outbounds, nor by the object for the
routing where there was none. -/
theorem routingRules_withOutbounds (nodes : List VmNode) (existing : Json) :
    routingRules (.object (withOutbounds nodes existing.members)) = routingRules existing := by
  have hget := OrderedMap.get?_set_of_ne (v := .array (buildOutbounds nodes))
    (m := existing.members) keys_ne.1
  rw [routingRules, routingRules, Json.member?_object, Json.member?_eq_get?_members, withOutbounds,
    OrderedMap.fill, hget]
  split
  · rw [hget]
  · rename_i hno
    rw [OrderedMap.get?_set_self, Option.bind_some, Json.member?_ofFields_nil]
    rcases hv : OrderedMap.get? (ofString "routing") existing.members with _ | v
    · rfl
    · rw [hv] at hno
      rw [Option.bind_some, Json.member?_of_not_isObject hno]

theorem routingRules_assemble (nodes : List VmNode) (existing : List (ByteString × Json))
    (rules : List Json) : routingRules (assemble nodes existing rules) = rules := by
  rw [assemble, routingRules, Json.member?_object, get?_routing_withDefaults, get?_routing_setRules,
    Option.bind_some, Json.member?_object, OrderedMap.get?_set_self]
  rfl

/-- Assembling a configuration again replaces the rules and nothing else. -/
theorem assemble_assemble (nodes : List VmNode) (existing : List (ByteString × Json))
    (rules rules' : List Json) :
    assemble nodes (assemble nodes existing rules).members rules' =
      assemble nodes existing rules' := by
  set base := withOutbounds nodes existing with hbase
  -- The outbounds are there already, and so is an object for the routing.
  have houtbounds : withOutbounds nodes (withDefaults (setRules rules base))
      = withDefaults (setRules rules base) := by
    have hset : OrderedMap.set (ofString "outbounds") (.array (buildOutbounds nodes)) base =
        base := by
      rw [hbase, withOutbounds, ← OrderedMap.fill_set_comm keys_ne.1.symm, OrderedMap.set_set]
    rw [withOutbounds, ← withDefaults_set_outbounds, setRules, OrderedMap.set_comm keys_ne.1, hset]
    refine OrderedMap.fill_eq_self ?_
    rw [get?_routing_withDefaults, OrderedMap.get?_set_self]
    rfl
  have hrouting : routingOf (withDefaults (setRules rules base))
      = OrderedMap.set (ofString "rules") (.array rules) (routingOf base) := by
    rw [routingOf, get?_routing_withDefaults, get?_routing_setRules]
    rfl
  have hrules : setRules rules' (withDefaults (setRules rules base))
      = withDefaults (setRules rules' base) := by
    rw [setRules, hrouting, OrderedMap.set_set, ← withDefaults_set_routing, setRules,
      OrderedMap.set_set]
    rfl
  rw [assemble, assemble, ← hbase, Json.members, houtbounds, hrules, withDefaults_withDefaults,
    assemble]

/-- What the builder returns where all tags can be read and there is an active tag. -/
theorem buildFullConfig_of_readable {nodes : List VmNode} {existing : Json} {tag : ByteString}
    (htag : effectiveTag nodes tag ≠ []) (h : ∀ r ∈ routingRules existing, Readable r) :
    buildFullConfig nodes existing tag = .ok (assemble nodes existing.members
      (newRules (effectiveTag nodes tag) (routingRules existing))) := by
  rw [buildFullConfig]
  simp only
  rw [if_neg htag, routingRules_withOutbounds, retargetRules_of_readable _ h, assemble, newRules]
  by_cases ho : ∃ r ∈ routingRules existing, Owned r
  · rw [if_pos ho, decide_eq_true ho]
    rfl
  · rw [if_neg ho, decide_eq_false ho]
    rfl

theorem buildFullConfig_of_not_readable {nodes : List VmNode} {existing : Json} {tag : ByteString}
    (htag : effectiveTag nodes tag ≠ []) (h : ∃ r ∈ routingRules existing, ¬Readable r) :
    buildFullConfig nodes existing tag = .error .typeError := by
  rw [buildFullConfig]
  simp only
  rw [if_neg htag, routingRules_withOutbounds, retargetRules_of_not_readable _ h]
  rfl

/-- What the builder returns where there is no active tag. -/
theorem buildFullConfig_of_no_tag {nodes : List VmNode} {existing : Json} {tag : ByteString}
    (htag : effectiveTag nodes tag = []) : buildFullConfig nodes existing tag =
      .ok (.object (withDefaults (withOutbounds nodes existing.members))) := by
  rw [buildFullConfig]
  exact if_pos htag

theorem get?_outbounds_withDefaults (config : List (ByteString × Json)) :
    OrderedMap.get? (ofString "outbounds") (withDefaults config)
      = OrderedMap.get? (ofString "outbounds") config := by
  obtain ⟨-, -, -, hin, hlog, -⟩ := keys_ne
  rw [withDefaults, OrderedMap.get?_fill_of_ne hlog, OrderedMap.get?_fill_of_ne hin]

theorem get?_outbounds_withOutbounds (nodes : List VmNode) (existing : List (ByteString × Json)) :
    OrderedMap.get? (ofString "outbounds") (withOutbounds nodes existing)
      = some (.array (buildOutbounds nodes)) := by
  rw [withOutbounds, OrderedMap.get?_fill_of_ne keys_ne.1.symm, OrderedMap.get?_set_self]

/-- The configurations the builder returns. -/
structure Built (nodes : List VmNode) (existing : Json) (tag : ByteString) (config : Json) :
    Prop where
  isObject : config.isObject
  outbounds : config.member? (ofString "outbounds") = some (.array (buildOutbounds nodes))
  rules : routingRules config =
    if effectiveTag nodes tag = [] then routingRules existing
    else newRules (effectiveTag nodes tag) (routingRules existing)
  /-- With an active tag, the tags of all rules could be read. -/
  readable : effectiveTag nodes tag ≠ [] → ∀ r ∈ routingRules existing, Readable r

/-- The specification of the builder. -/
theorem built_of_ok {nodes : List VmNode} {existing : Json} {tag : ByteString} {config : Json}
    (h : buildFullConfig nodes existing tag = .ok config) : Built nodes existing tag config := by
  by_cases htag : effectiveTag nodes tag = []
  · rw [buildFullConfig_of_no_tag htag] at h
    obtain rfl := Except.ok.inj h
    refine ⟨rfl, ?_, ?_, fun hne ↦ absurd htag hne⟩
    · rw [Json.member?_object, get?_outbounds_withDefaults, get?_outbounds_withOutbounds]
    · rw [if_pos htag, ← routingRules_withOutbounds nodes existing, routingRules, routingRules,
        Json.member?_object, Json.member?_object, get?_routing_withDefaults]
  · have hread : ∀ r ∈ routingRules existing, Readable r := by
      by_contra hno
      push Not at hno
      rw [buildFullConfig_of_not_readable htag hno] at h
      cases h
    rw [buildFullConfig_of_readable htag hread] at h
    obtain rfl := Except.ok.inj h
    refine ⟨rfl, ?_, ?_, fun _ ↦ hread⟩
    · rw [assemble, Json.member?_object, get?_outbounds_withDefaults, setRules,
        OrderedMap.get?_set_of_ne keys_ne.1.symm, get?_outbounds_withOutbounds]
    · rw [if_neg htag, routingRules_assemble]

end VmConfigBuilder

end LanProxyGateway
