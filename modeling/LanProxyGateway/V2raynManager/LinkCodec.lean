import LanProxyGateway.Foundation.Base64
import LanProxyGateway.Foundation.Json
import LanProxyGateway.V2raynManager.VmNode
import Mathlib.Data.List.DropRight

/-!
# Share links

`vm_link_codec::decode` turns a link `vmess://` followed by base64 into a node, and
`vm_link_codec::encode` writes such a link. OpenSSL's `EVP_DecodeBlock` and the JSON parser are
fields of a `LinkLibrary`, and a `LinkWriter` has the JSON printer as well; `EVP_EncodeBlock` writes
standard base64. Lengths, which go to OpenSSL as `int`, are natural numbers here.

Decoding has three outcomes: a node, a complaint, and an exception that `decode` lets through, which
is what `value` raises on a JSON value that is no object or has a member of another type. A port or
an `aid` that cannot be converted is no error: the default stays.
-/

open Foundation ByteString

namespace LanProxyGateway

structure LinkLibrary where
  /-- `EVP_DecodeBlock`; `none` where it returns `-1`. -/
  decodeBlock : ByteString → Option ByteString
  /-- `nlohmann::json::parse`, or the text of the exception it throws. -/
  parse : ByteString → Except ByteString Json

structure LinkWriter extends LinkLibrary where
  /-- `nlohmann::json::dump`, of a value whose strings are UTF-8. -/
  dump : Json → ByteString

namespace VmLinkCodec

/-! ## Reading a link -/

/-- `value(key, default)` for a string. -/
def stringValue (key : String) (default : ByteString) (j : Json) :
    Except CxxException ByteString :=
  Json.orThrow (Json.value Json.getString key default j)

/-- `vm_link_codec::base64_decode`: padded up to a multiple of four, and without the zero bytes at
the end that stand for the padding. -/
def base64Decode (lib : LinkLibrary) (input : ByteString) : ByteString :=
  let padded := input ++ List.replicate ((4 - input.length % 4) % 4) 61
  match lib.decodeBlock padded with
  | none => []
  | some output => output.rdropWhile (· == 0)

/-- `vm_link_codec::base64_urlsafe_decode`. -/
def base64UrlsafeDecode (lib : LinkLibrary) (input : ByteString) : ByteString :=
  base64Decode lib (input.map fun c ↦ if c = 45 then 43 else if c = 95 then 47 else c)

/-- A number given as a number or as a text, and the default for anything else. -/
def numberOr {α : Type} (convert : Json → Option α) (ofInt : Int → α) (default : α)
    (j : Json) : α :=
  if j.isNumber then (convert j).getD default
  else
    match j.getString with
    | some s =>
      match stoi s with
      | .ok n => ofInt n
      | .error _ => default
    | none => default

/-- `node.port`. -/
def linkPort (j : Json) : UInt16 :=
  (j.member? (ofString "port")).elim 443
    (numberOr (fun v ↦ v.getInt64.map UInt16.ofInt) UInt16.ofInt 443)

/-- `node.alter_id`. -/
def linkAlterId (j : Json) : Int :=
  (j.member? (ofString "aid")).elim 0 (numberOr Json.getInt id 0)

/-- The settings of the transport, from the members `type`, `host` and `path`. -/
def withTransport (node : VmNode) (headerType host path : ByteString) : VmNode :=
  if node.network = ofString "tcp" then { node with tcpCfg := { node.tcpCfg with
    headerType := headerType } }
  else if node.network = ofString "ws" then { node with wsCfg := {
    path := if path = [] then ofString "/" else path
    host := host } }
  else if node.network = ofString "h2" then { node with h2Cfg := {
    path := if path = [] then ofString "/" else path
    host := if host = [] then [] else host.splitOn 44 } }
  else if node.network = ofString "quic" then { node with quicCfg := {
    security := if host = [] then ofString "none" else host
    key := path
    headerType := headerType } }
  else if node.network = ofString "kcp" then { node with kcpCfg := { node.kcpCfg with
    headerType := headerType } }
  else node

/-- The node that a parsed link describes. -/
def nodeOfJson (j : Json) : Except CxxException VmNode := do
  let remark ← stringValue "ps" [] j
  let address ← stringValue "add" [] j
  let userId ← stringValue "id" [] j
  let security ← stringValue "scy" (ofString "auto") j
  let network ← stringValue "net" (ofString "tcp") j
  let tls ← stringValue "tls" [] j
  let node : VmNode := {
    remark := remark
    address := address
    userId := userId
    security := security
    network := network
    tls := if tls = [] then ofString "none" else tls
    port := linkPort j
    alterId := linkAlterId j }
  let headerType ← stringValue "type" (ofString "none") j
  let host ← stringValue "host" [] j
  let path ← stringValue "path" [] j
  let sni ← stringValue "sni" [] j
  let node := withTransport node headerType host path
  if node.tls = ofString "tls" ∧ sni ≠ [] then
    .ok { node with tlsCfg := { node.tlsCfg with serverName := sni } }
  else .ok node

/-- `vm_link_codec::decode`: a node, or else the text of the complaint. -/
def decode (lib : LinkLibrary) (vmessLink : ByteString) :
    Except CxxException (Except ByteString VmNode) :=
  if !startsWith vmessLink (ofString "vmess://") then
    .ok (.error (ofString "无效的vmess链接：缺少vmess://前缀"))
  else
    let b64Part := vmessLink.drop 8
    let urlsafe := base64UrlsafeDecode lib b64Part
    let jsonStr := if urlsafe = [] then base64Decode lib b64Part else urlsafe
    if jsonStr = [] then .ok (.error (ofString "vmess链接Base64解码失败"))
    else
      match lib.parse jsonStr with
      | .error what => .ok (.error (ofString "vmess链接JSON解析失败：" ++ what))
      | .ok j => (nodeOfJson j).map .ok

/-- `json_str`: what `decode` parses. -/
def linkText (lib : LinkLibrary) (vmessLink : ByteString) : ByteString :=
  if base64UrlsafeDecode lib (vmessLink.drop 8) = [] then base64Decode lib (vmessLink.drop 8)
  else base64UrlsafeDecode lib (vmessLink.drop 8)

theorem decode_eq (lib : LinkLibrary) (vmessLink : ByteString) : decode lib vmessLink =
    if !startsWith vmessLink (ofString "vmess://") then
      .ok (.error (ofString "无效的vmess链接：缺少vmess://前缀"))
    else if linkText lib vmessLink = [] then .ok (.error (ofString "vmess链接Base64解码失败"))
    else
      match lib.parse (linkText lib vmessLink) with
      | .error what => .ok (.error (ofString "vmess链接JSON解析失败：" ++ what))
      | .ok j => (nodeOfJson j).map .ok := rfl

/-! ## Writing a link -/

/-- `vm_link_codec::base64_encode`: without zero bytes and without the padding at the end. -/
def base64Encode (input : ByteString) : ByteString :=
  ((Base64.encode input).rdropWhile (· == 0)).rdropWhile (· == 61)

/-- The three members that every transport uses in its own way. -/
def linkFields (headerType host path : ByteString) : List (String × Json) :=
  [("type", .string headerType), ("host", .string host), ("path", .string path)]

/-- The members for the transport. The hosts of an h2 node are joined by commas. -/
def transportFields (node : VmNode) : List (String × Json) :=
  if node.network = ofString "tcp" then linkFields node.tcpCfg.headerType [] []
  else if node.network = ofString "ws" then
    linkFields (ofString "none") node.wsCfg.host node.wsCfg.path
  else if node.network = ofString "h2" then
    linkFields (ofString "none") (List.intercalate [44] node.h2Cfg.host) node.h2Cfg.path
  else if node.network = ofString "quic" then
    linkFields node.quicCfg.headerType node.quicCfg.security node.quicCfg.key
  else if node.network = ofString "kcp" then linkFields node.kcpCfg.headerType [] []
  else []

/-- The object that a link carries. -/
def linkJson (node : VmNode) : Json := .ofFields ([
    ("v", .string (ofString "2")),
    ("ps", .string node.remark),
    ("add", .string node.address),
    ("port", .string (toDecimal node.port.toNat)),
    ("id", .string node.userId),
    ("aid", .string (intToDecimal node.alterId)),
    ("scy", .string node.security),
    ("net", .string node.network),
    ("tls", .string (if node.tls = ofString "tls" then ofString "tls" else []))]
  ++ transportFields node
  ++ [("sni", .string (if node.tls = ofString "tls" then node.tlsCfg.serverName else []))])

/-- `vm_link_codec::encode`. Writing the object out throws where a string is not UTF-8. -/
def encode (lib : LinkWriter) (node : VmNode) : Except CxxException ByteString :=
  if (linkJson node).isSerializable then
    .ok (ofString "vmess://" ++ base64Encode (lib.dump (linkJson node)))
  else .error .typeError

end VmLinkCodec

end LanProxyGateway
