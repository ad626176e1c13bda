import LanProxyGateway.Foundation.JsonPath
import LanProxyGateway.V2raynManager.NodeManager

/-!
# What is shown of nodes and of the configuration

The user id of a node is masked in two places, in the list that `list_nodes` returns and in what
`node_to_json` writes, and each has a flag of its own. `v2rayn_config::desensitize` masks the ids
and the passwords inside the configuration.
-/

open Foundation ByteString

namespace LanProxyGateway

namespace NodeStore

/-- `vm_node_manager::desensitize_uuid`. -/
def desensitizeUuid (uuid : ByteString) : ByteString :=
  if uuid.length < 8 then ofString "***"
  else uuid.take 4 ++ ofString "****" ++ uuid.drop (uuid.length - 4)

/-- `vm_node_manager::list_nodes`. -/
def listNodes (s : NodeStore) (desensitizeId : Bool) : List VmNode :=
  if desensitizeId then s.nodes.map fun n ↦ { n with userId := desensitizeUuid n.userId }
  else s.nodes

/-- `vm_node_manager::get_node`. -/
def getNode (s : NodeStore) (tag : ByteString) : Option VmNode := s.nodes.find? (·.tag = tag)

/-- `vm_node_manager::node_to_json`. -/
def nodeToJson (node : VmNode) (desensitizeId : Bool) : Json := .ofFields [
  ("tag", .string node.tag),
  ("address", .string node.address),
  ("port", .integer node.port.toNat),
  ("user_id", .string (if desensitizeId then desensitizeUuid node.userId else node.userId)),
  ("alter_id", .integer node.alterId),
  ("security", .string node.security),
  ("network", .string node.network),
  ("tls", .string node.tls),
  ("remark", .string node.remark),
  ("tcp_config", .ofFields [("header_type", .string node.tcpCfg.headerType)]),
  ("ws_config", .ofFields [
    ("path", .string node.wsCfg.path),
    ("host", .string node.wsCfg.host)]),
  ("h2_config", .ofFields [
    ("path", .string node.h2Cfg.path),
    ("host", .array (node.h2Cfg.host.map .string))]),
  ("quic_config", .ofFields [
    ("security", .string node.quicCfg.security),
    ("key", .string node.quicCfg.key),
    ("header_type", .string node.quicCfg.headerType)]),
  ("kcp_config", .ofFields [
    ("mtu", .integer node.kcpCfg.mtu),
    ("tti", .integer node.kcpCfg.tti),
    ("uplink_capacity", .integer node.kcpCfg.uplinkCapacity),
    ("downlink_capacity", .integer node.kcpCfg.downlinkCapacity),
    ("congestion", .boolean node.kcpCfg.congestion),
    ("header_type", .string node.kcpCfg.headerType)]),
  ("tls_config", .ofFields [
    ("allow_insecure", .boolean node.tlsCfg.allowInsecure),
    ("server_name", .string node.tlsCfg.serverName)])]

end NodeStore

namespace V2raynConfig

/-- What stands in the place of a secret. -/
def hidden (_ : Json) : Json := .string (ofString "********")

/-- The ids of the users of a server. -/
def hideIds : Json → Json :=
  .overMember "users" Json.isArray (.overItems (.overMember "id" (fun _ ↦ true) hidden))

/-- The secrets in the settings of an outbound. -/
def hideSettings (settings : Json) : Json :=
  .overMember "servers" Json.isArray (.overItems (.overMember "password" (fun _ ↦ true) hidden))
    (.overMember "vnext" Json.isArray (.overItems hideIds) settings)

/-- `v2rayn_config::desensitize`. -/
def desensitize : Json → Json :=
  .overMember "outbounds" Json.isArray
    (.overItems (.overMember "settings" Json.isObject hideSettings))

end V2raynConfig

end LanProxyGateway
