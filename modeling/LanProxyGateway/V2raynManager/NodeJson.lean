import LanProxyGateway.V2raynManager.NodeManager

/-!
# A node from the body of a request

`vm_node_manager::json_to_node` reads a node out of the JSON object that a client of the web
interface sends. What is not given keeps its default, and a member of the wrong kind throws.
-/

open Foundation ByteString

namespace LanProxyGateway

namespace NodeStore

open VmLinkCodec

/-- `j["tcp_config"]`. -/
def jsonToTcp (j : Json) : Except CxxException VmNode.TcpConfig := do
  let headerType ← stringValue "header_type" (ofString "none") j
  .ok { headerType }

/-- `j["ws_config"]`. -/
def jsonToWs (j : Json) : Except CxxException VmNode.WsConfig := do
  let path ← stringValue "path" (ofString "/") j
  let host ← stringValue "host" [] j
  .ok { path, host }

/-- `j["h2_config"]`. -/
def jsonToH2 (j : Json) : Except CxxException VmNode.H2Config := do
  let path ← stringValue "path" (ofString "/") j
  match j.member? (ofString "host") with
  | some (.array hosts) =>
    let host ← hosts.mapM fun h ↦ Json.orThrow h.getString
    .ok { path, host }
  | _ => .ok { path }

/-- `j["quic_config"]`. -/
def jsonToQuic (j : Json) : Except CxxException VmNode.QuicConfig := do
  let security ← stringValue "security" (ofString "none") j
  let key ← stringValue "key" [] j
  let headerType ← stringValue "header_type" (ofString "none") j
  .ok { security, key, headerType }

/-- `j["kcp_config"]`. -/
def jsonToKcp (j : Json) : Except CxxException VmNode.KcpConfig := do
  let mtu ← Json.orThrow (Json.value Json.getInt "mtu" 1350 j)
  let tti ← Json.orThrow (Json.value Json.getInt "tti" 20 j)
  let uplinkCapacity ← Json.orThrow (Json.value Json.getInt "uplink_capacity" 5 j)
  let downlinkCapacity ← Json.orThrow (Json.value Json.getInt "downlink_capacity" 20 j)
  let congestion ← Json.orThrow (Json.value Json.getBool "congestion" false j)
  let headerType ← stringValue "header_type" (ofString "none") j
  .ok { mtu, tti, uplinkCapacity, downlinkCapacity, congestion, headerType }

/-- `j["tls_config"]`. -/
def jsonToTls (j : Json) : Except CxxException VmNode.TlsConfig := do
  let allowInsecure ← Json.orThrow (Json.value Json.getBool "allow_insecure" false j)
  let serverName ← stringValue "server_name" [] j
  .ok { allowInsecure, serverName }

/-- `vm_node_manager::json_to_node`. -/
def jsonToNode (j : Json) : Except CxxException VmNode := do
  let tag ← stringValue "tag" [] j
  let address ← stringValue "address" [] j
  let port ← Json.orThrow (Json.value Json.getInt "port" 443 j)
  let userId ← stringValue "user_id" [] j
  let alterId ← Json.orThrow (Json.value Json.getInt "alter_id" 0 j)
  let security ← stringValue "security" (ofString "auto") j
  let network ← stringValue "network" (ofString "tcp") j
  let tls ← stringValue "tls" (ofString "none") j
  let remark ← stringValue "remark" [] j
  let node : VmNode := {
    tag, address, userId, alterId, security, network, tls, remark
    port := UInt16.ofInt port }
  let node ← readInto j "tcp_config" jsonToTcp node fun c ↦ { node with tcpCfg := c }
  let node ← readInto j "ws_config" jsonToWs node fun c ↦ { node with wsCfg := c }
  let node ← readInto j "h2_config" jsonToH2 node fun c ↦ { node with h2Cfg := c }
  let node ← readInto j "quic_config" jsonToQuic node fun c ↦ { node with quicCfg := c }
  let node ← readInto j "kcp_config" jsonToKcp node fun c ↦ { node with kcpCfg := c }
  readInto j "tls_config" jsonToTls node fun c ↦ { node with tlsCfg := c }

end NodeStore

end LanProxyGateway
