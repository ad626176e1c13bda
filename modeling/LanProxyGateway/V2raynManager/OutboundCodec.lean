import LanProxyGateway.V2raynManager.NodeManager

/-!
# An outbound read back

`parse_outbound` reads the outbound that `build_vmess_outbound` writes for a node, whatever the
node: it never throws, and what comes out is `reread`. A node without a tag is not read at all.
Apart from that only three things are lost: the remark, which is kept in another file, the settings
of the transports and of TLS that the node does not use, and what of its numbers is no `int`.
-/

open Foundation ByteString

namespace LanProxyGateway

namespace NodeStore

open VmConfigBuilder VmNodeValidator VmLinkCodec

/-- What is left of a node in its outbound. -/
def reread (node : VmNode) : VmNode where
  tag := node.tag
  address := node.address
  port := UInt16.ofInt (Json.castInt node.port.toNat)
  userId := node.userId
  alterId := Json.castInt node.alterId
  security := node.security
  network := node.network
  tls := ofString (if node.tls = ofString "tls" then "tls" else "none")
  tcpCfg := if node.network = ofString "tcp" then node.tcpCfg else {}
  wsCfg := if node.network = ofString "ws" then node.wsCfg else {}
  h2Cfg := if node.network = ofString "h2" then node.h2Cfg else {}
  quicCfg := if node.network = ofString "quic" then node.quicCfg else {}
  kcpCfg := if node.network = ofString "kcp" then
    { node.kcpCfg with
      mtu := Json.castInt node.kcpCfg.mtu
      tti := Json.castInt node.kcpCfg.tti
      uplinkCapacity := Json.castInt node.kcpCfg.uplinkCapacity
      downlinkCapacity := Json.castInt node.kcpCfg.downlinkCapacity } else {}
  tlsCfg := if node.tls = ofString "tls" then node.tlsCfg else {}

@[simp] theorem stringValue_ofFields (key : String) (default : ByteString)
    (fields : List (String × Json)) : stringValue key default (.ofFields fields) = Json.orThrow
      (((Json.ofFields fields).member? (ofString key)).elim (some default) Json.getString) := by
  rw [stringValue, Json.value_ofFields]

/-! ## The settings of each transport -/

@[simp] theorem parseTcpSettings_build (cfg default : VmNode.TcpConfig) :
    parseTcpSettings default (buildTcpSettings cfg) = .ok cfg := by
  simp [parseTcpSettings, buildTcpSettings, headerType]

@[simp] theorem parseWsSettings_build (cfg : VmNode.WsConfig) :
    parseWsSettings {} (buildWsSettings cfg) = .ok cfg := by
  rw [buildWsSettings]
  by_cases h : cfg.host = []
  · simp [h, parseWsSettings]
    rw [← h]
  · simp [h, parseWsSettings]

@[simp] theorem mapM_getString_string (hosts : List ByteString) :
    hosts.mapM ((fun h ↦ Json.orThrow h.getString) ∘ Json.string) = .ok hosts := by
  induction hosts with
  | nil => rfl
  | cons host hosts ih =>
    rw [List.mapM_cons, ih]
    rfl

@[simp] theorem parseH2Settings_build (cfg : VmNode.H2Config) :
    parseH2Settings {} (buildH2Settings cfg) = .ok cfg := by
  rw [buildH2Settings]
  by_cases h : cfg.host = []
  · simp [h, parseH2Settings]
    rw [← h]
  · simp [h, parseH2Settings, mapM_getString_string]

@[simp] theorem parseQuicSettings_build (cfg default : VmNode.QuicConfig) :
    parseQuicSettings default (buildQuicSettings cfg) = .ok cfg := by
  simp [parseQuicSettings, buildQuicSettings, headerType]

@[simp] theorem parseKcpSettings_build (cfg default : VmNode.KcpConfig) :
    parseKcpSettings default (buildKcpSettings cfg) = .ok { cfg with
      mtu := Json.castInt cfg.mtu
      tti := Json.castInt cfg.tti
      uplinkCapacity := Json.castInt cfg.uplinkCapacity
      downlinkCapacity := Json.castInt cfg.downlinkCapacity } := by
  simp [parseKcpSettings, buildKcpSettings, headerType]

@[simp] theorem parseTlsSettings_build (cfg : VmNode.TlsConfig) :
    parseTlsSettings (buildTlsSettings cfg) = .ok cfg := by
  rw [buildTlsSettings]
  by_cases h : cfg.serverName = []
  · simp [h, parseTlsSettings]
    rw [← h]
  · simp [h, parseTlsSettings]

/-! ## The whole outbound -/

/-- The stream settings, read into a node that has only the fields in front of them. -/
theorem parseStreamSettings_build (node : VmNode) :
    parseStreamSettings {
        tag := node.tag
        address := node.address
        port := UInt16.ofInt (Json.castInt node.port.toNat)
        userId := node.userId
        alterId := Json.castInt node.alterId
        security := node.security } (buildStreamSettings node) = .ok (reread node) := by
  rw [parseStreamSettings, buildStreamSettings, transportSettings, reread]
  by_cases htls : node.tls = ofString "tls"
  · by_cases htcp : node.network = ofString "tcp"
    · simp [htls, htcp, parseTransport, readInto]
    by_cases hws : node.network = ofString "ws"
    · simp [htls, hws, parseTransport, readInto]
    by_cases hh2 : node.network = ofString "h2"
    · simp [htls, hh2, parseTransport, readInto]
    by_cases hquic : node.network = ofString "quic"
    · simp [htls, hquic, parseTransport, readInto]
    by_cases hkcp : node.network = ofString "kcp"
    · simp [htls, hkcp, parseTransport, readInto]
    · simp [htls, htcp, hws, hh2, hquic, hkcp, parseTransport, readInto]
  · by_cases htcp : node.network = ofString "tcp"
    · simp [htls, htcp, parseTransport, readInto]
    by_cases hws : node.network = ofString "ws"
    · simp [htls, hws, parseTransport, readInto]
    by_cases hh2 : node.network = ofString "h2"
    · simp [htls, hh2, parseTransport, readInto]
    by_cases hquic : node.network = ofString "quic"
    · simp [htls, hquic, parseTransport, readInto]
    by_cases hkcp : node.network = ofString "kcp"
    · simp [htls, hkcp, parseTransport, readInto]
    · simp [htls, htcp, hws, hh2, hquic, hkcp, parseTransport, readInto]

/-- Reading the outbound of a node. -/
theorem parseOutbound_build (node : VmNode) :
    parseOutbound (buildVmessOutbound node) =
      .ok (if node.tag = [] then none else some (reread node)) := by
  rw [parseOutbound, buildVmessOutbound]
  by_cases htag : node.tag = []
  · simp [htag]
  · simp [htag, parseUser, parseStreamSettings_build]

/-! ## Nodes that pass the validator -/

/-- The node with the settings of its own transport and of TLS where it uses it, and with the
defaults in place of the other settings and of the remark. -/
def selected (node : VmNode) : VmNode where
  tag := node.tag
  address := node.address
  port := node.port
  userId := node.userId
  alterId := node.alterId
  security := node.security
  network := node.network
  tls := node.tls
  tcpCfg := if node.network = ofString "tcp" then node.tcpCfg else {}
  wsCfg := if node.network = ofString "ws" then node.wsCfg else {}
  h2Cfg := if node.network = ofString "h2" then node.h2Cfg else {}
  quicCfg := if node.network = ofString "quic" then node.quicCfg else {}
  kcpCfg := if node.network = ofString "kcp" then node.kcpCfg else {}
  tlsCfg := if node.tls = ofString "tls" then node.tlsCfg else {}

/-- A port goes through `int` and back. -/
theorem ofInt_castInt_port (port : UInt16) :
    UInt16.ofInt (Json.castInt port.toNat) = port := by
  have hport := port.toNat_lt
  rw [Json.castInt_of_bounds (by omega) (by omega), ofInt_toNat_port]

/-- The validator only lets numbers pass that are an `int`. -/
theorem reread_of_valid {node : VmNode} {isV5Core : Bool} (h : Valid node isV5Core) :
    reread node = selected node := by
  have halterId : Json.castInt node.alterId = node.alterId := by
    obtain ⟨hlo, hhi⟩ := h.alterId_bounds
    exact Json.castInt_of_bounds (by omega) (by omega)
  have htls : ofString (if node.tls = ofString "tls" then "tls" else "none") = node.tls := by
    rcases h.tls_eq with htls | htls
    · rw [htls]
      rfl
    · rw [htls]
      rfl
  rw [reread, selected, ofInt_castInt_port, halterId, htls]
  by_cases hkcp : node.network = ofString "kcp"
  · obtain ⟨hmtu, htti, hup, hdown⟩ := h.kcp_bounds hkcp
    rw [Json.castInt_of_bounds (n := node.kcpCfg.mtu) (by omega) (by omega),
      Json.castInt_of_bounds (n := node.kcpCfg.tti) (by omega) (by omega),
      Json.castInt_of_bounds (n := node.kcpCfg.uplinkCapacity) (by omega) (by omega),
      Json.castInt_of_bounds (n := node.kcpCfg.downlinkCapacity) (by omega) (by omega)]
  · rw [if_neg hkcp, if_neg hkcp]

/-- An outbound built for a node that passes the validator is read back as that node. -/
theorem parseOutbound_build_of_validate {node : VmNode} (isV5Core : Bool)
    (h : validate node isV5Core = []) :
    parseOutbound (buildVmessOutbound node) = .ok (some (selected node)) := by
  have hvalid := validate_eq_nil_iff.mp h
  rw [parseOutbound_build, if_neg hvalid.tag_ne_nil, reread_of_valid hvalid]

/-- A node that uses the WebSocket transport under TLS, with settings left behind from another
transport. -/
def wsNode : VmNode where
  tag := ofString "vmess-1"
  address := ofString "1.1.1.1"
  userId := ofString "01234567-89ab-cdef-0123-456789abcdef"
  network := ofString "ws"
  tls := ofString "tls"
  remark := ofString "hk"
  wsCfg := { path := ofString "/ray" }
  quicCfg := { key := ofString "k" }
  tlsCfg := { allowInsecure := true }

theorem parseOutbound_build_wsNode : validate wsNode true = [] ∧
    parseOutbound (buildVmessOutbound wsNode) = .ok (some (selected wsNode)) := by
  have hvalid : validate wsNode true = [] := validate_eq_nil_iff.mpr
    ⟨by decide +kernel, by decide +kernel, rfl, validateUuid_sample, rfl, rfl, rfl, rfl, rfl, rfl⟩
  exact ⟨hvalid, parseOutbound_build_of_validate true hvalid⟩

/-! ## All outbounds -/

/-- The outbounds of a configuration are read back node by node. -/
theorem parseOutbounds_build (nodes : List VmNode) :
    parseOutbounds (buildOutbounds nodes) = .ok ((nodes.filter (·.tag ≠ [])).map reread) := by
  rw [buildOutbounds]
  induction nodes with
  | nil => rfl
  | cons node nodes ih =>
    rw [List.map_cons, List.cons_append, parseOutbounds, ih, parseOutbound_build,
      buildVmessOutbound]
    by_cases htag : node.tag = []
    · simp [htag]
    · simp [htag]

end NodeStore

end LanProxyGateway
