import LanProxyGateway.Foundation.Regex

/-!
# VMess nodes and their validator

`vm_node` with its defaults, and `vm_node_validator`, which checks the fields in a fixed order and
returns the text of the first complaint; the empty text means that the node is accepted.
-/

open Foundation ByteString

namespace LanProxyGateway

namespace VmNode

structure TcpConfig where
  headerType : ByteString := ofString "none"
  deriving DecidableEq, Repr

structure WsConfig where
  path : ByteString := ofString "/"
  host : ByteString := []
  deriving DecidableEq, Repr

structure H2Config where
  path : ByteString := ofString "/"
  host : List ByteString := []
  deriving DecidableEq, Repr

structure QuicConfig where
  security : ByteString := ofString "none"
  key : ByteString := []
  headerType : ByteString := ofString "none"
  deriving DecidableEq, Repr

structure KcpConfig where
  mtu : Int := 1350
  tti : Int := 20
  uplinkCapacity : Int := 5
  downlinkCapacity : Int := 20
  congestion : Bool := false
  headerType : ByteString := ofString "none"
  deriving DecidableEq, Repr

structure TlsConfig where
  allowInsecure : Bool := false
  serverName : ByteString := []
  deriving DecidableEq, Repr

end VmNode

structure VmNode where
  tag : ByteString := []
  address : ByteString := []
  port : UInt16 := 443
  userId : ByteString := []
  alterId : Int := 0
  security : ByteString := ofString "auto"
  network : ByteString := ofString "tcp"
  tls : ByteString := ofString "none"
  remark : ByteString := []
  tcpCfg : VmNode.TcpConfig := {}
  wsCfg : VmNode.WsConfig := {}
  h2Cfg : VmNode.H2Config := {}
  quicCfg : VmNode.QuicConfig := {}
  kcpCfg : VmNode.KcpConfig := {}
  tlsCfg : VmNode.TlsConfig := {}
  deriving DecidableEq, Repr

/-- A port written as a number and read again. -/
theorem ofInt_toNat_port (port : UInt16) : UInt16.ofInt port.toNat = port := by
  have hport := port.toNat_lt
  rw [UInt16.ofInt, Int.emod_eq_of_lt (by omega) (by omega), Int.toNat_natCast, UInt16.ofNat_toNat]

namespace VmNodeValidator

open Regex

/-! ## The expressions -/

/-- `[a-zA-Z0-9_-]+`. -/
def tagRegex : Regex := oneOrMore (oneOf (letters ++ digits ++ ofString "_-"))

/-- `(\d{1,3}\.){3}\d{1,3}`. -/
def ipv4Regex : Regex :=
  (between (oneOf digits) 1 3 * lit ".") ^ 3 * between (oneOf digits) 1 3

/-- `\[?([0-9a-fA-F]{0,4}:){2,7}[0-9a-fA-F]{0,4}\]?`. -/
def ipv6Regex : Regex :=
  optional (lit "[") * between (between (oneOf hexDigits) 0 4 * lit ":") 2 7
    * between (oneOf hexDigits) 0 4 * optional (lit "]")

/-- `[a-zA-Z0-9]([a-zA-Z0-9-]*[a-zA-Z0-9])?`. -/
def labelRegex : Regex :=
  oneOf (letters ++ digits)
    * optional ((oneOf (letters ++ digits ++ ofString "-")).star * oneOf (letters ++ digits))

/-- One label, further labels with a dot in front, and a top-level domain of letters. -/
def domainRegex : Regex :=
  labelRegex * (lit "." * labelRegex).star * lit "." * atLeast (oneOf letters) 2

/-- Groups of eight, four, four, four and twelve hexadecimal digits. -/
def uuidRegex : Regex :=
  oneOf hexDigits ^ 8 * lit "-" * oneOf hexDigits ^ 4 * lit "-" * oneOf hexDigits ^ 4 * lit "-"
    * oneOf hexDigits ^ 4 * lit "-" * oneOf hexDigits ^ 12

/-! ## The checks -/

def validateTag (tag : ByteString) : ByteString :=
  if tag = [] then ofString "节点标签不能为空"
  else if !tagRegex.rmatch tag then ofString "节点标签只能包含字母、数字、连字符和下划线"
  else []

def validateAddress (address : ByteString) : ByteString :=
  if address = [] then ofString "服务器地址不能为空"
  else if !ipv4Regex.rmatch address && !ipv6Regex.rmatch address && !domainRegex.rmatch address then
    ofString "服务器地址格式无效（需为IPv4/IPv6/域名）"
  else []

def validatePort (port : UInt16) : ByteString :=
  if port = 0 then ofString "端口不能为0" else []

def validateUuid (uuid : ByteString) : ByteString :=
  if uuid = [] then ofString "UUID不能为空"
  else if !uuidRegex.rmatch uuid then ofString "UUID格式无效（需为8-4-4-4-12格式）"
  else []

def validateAlterId (alterId : Int) (isV5Core : Bool) : ByteString :=
  if isV5Core ∧ alterId ≠ 0 then ofString "v2ray-core 5.x的alterId必须为0"
  else if alterId < 0 ∨ 65535 < alterId then ofString "alterId范围应为0-65535"
  else []

/-- A string that has to be one of several, and the complaint when it is not. -/
def oneAmong (choices : List String) (complaint : String) (s : ByteString) : ByteString :=
  if s ∈ choices.map ofString then [] else ofString complaint

def validateSecurity : ByteString → ByteString :=
  oneAmong ["auto", "aes-128-gcm", "chacha20-poly1305", "none", "zero"]
    "加密方式无效（可选：auto/aes-128-gcm/chacha20-poly1305/none/zero）"

def validateNetwork : ByteString → ByteString :=
  oneAmong ["tcp", "ws", "h2", "quic", "kcp"] "传输协议无效（可选：tcp/ws/h2/quic/kcp）"

def validateTls : ByteString → ByteString :=
  oneAmong ["none", "tls"] "TLS设置无效（可选：none/tls）"

def validateRemark (remark : ByteString) : ByteString :=
  if 128 < remark.length then ofString "备注长度不能超过128字符" else []

def validateWsConfig (cfg : VmNode.WsConfig) : ByteString :=
  if cfg.path = [] then ofString "WebSocket路径不能为空" else []

def validateH2Config (cfg : VmNode.H2Config) : ByteString :=
  if cfg.path = [] then ofString "HTTP/2路径不能为空" else []

def validateQuicConfig (cfg : VmNode.QuicConfig) : ByteString :=
  oneAmong ["none", "aes-128-gcm", "chacha20-poly1305"] "QUIC加密方式无效" cfg.security

/-- A number that has to lie between two bounds. -/
def within (lo hi : Int) (complaint : String) (n : Int) : ByteString :=
  if n < lo ∨ hi < n then ofString complaint else []

/-- The first complaint of several checks made one after the other. -/
def firstError (errors : List ByteString) : ByteString := (errors.find? (· ≠ [])).getD []

def validateKcpConfig (cfg : VmNode.KcpConfig) : ByteString :=
  firstError [
    within 576 1500 "mKCP的MTU范围应为576-1500" cfg.mtu,
    within 10 100 "mKCP的TTI范围应为10-100" cfg.tti,
    within 1 65535 "mKCP上行容量范围应为1-65535" cfg.uplinkCapacity,
    within 1 65535 "mKCP下行容量范围应为1-65535" cfg.downlinkCapacity]

def validateTcpConfig (cfg : VmNode.TcpConfig) : ByteString :=
  oneAmong ["none", "http"] "TCP头部伪装类型无效（可选：none/http）" cfg.headerType

def validateTlsConfig (_cfg : VmNode.TlsConfig) : ByteString := []

/-- The check of the transport that the node uses. -/
def validateTransport (node : VmNode) : ByteString :=
  if node.network = ofString "tcp" then validateTcpConfig node.tcpCfg
  else if node.network = ofString "ws" then validateWsConfig node.wsCfg
  else if node.network = ofString "h2" then validateH2Config node.h2Cfg
  else if node.network = ofString "quic" then validateQuicConfig node.quicCfg
  else if node.network = ofString "kcp" then validateKcpConfig node.kcpCfg
  else []

/-- `vm_node_validator::validate`. -/
def validate (node : VmNode) (isV5Core : Bool) : ByteString :=
  firstError [
    validateTag node.tag,
    validateAddress node.address,
    validatePort node.port,
    validateUuid node.userId,
    validateAlterId node.alterId isV5Core,
    validateSecurity node.security,
    validateNetwork node.network,
    validateTls node.tls,
    validateRemark node.remark,
    validateTransport node,
    if node.tls = ofString "tls" then validateTlsConfig node.tlsCfg else []]

/-! ## What the checks accept -/

theorem firstError_eq_nil_iff {errors : List ByteString} :
    firstError errors = [] ↔ ∀ e ∈ errors, e = [] := by
  rw [firstError]
  rcases h : errors.find? (· ≠ []) with _ | e
  · rw [List.find?_eq_none] at h
    simpa using h
  · have hne := List.find?_some h
    have hmem := List.mem_of_find?_eq_some h
    rw [decide_eq_true_iff] at hne
    rw [Option.getD_some]
    exact ⟨fun he ↦ absurd he hne, fun hall ↦ hall e hmem⟩

/-- Two complaints, about an empty text and about a text of the wrong form. -/
theorem complaints_eq_nil_iff {s empty wrong : ByteString} {P : Prop} [Decidable P]
    (hempty : empty ≠ []) (hwrong : wrong ≠ []) :
    (if s = [] then empty else if P then wrong else []) = [] ↔ s ≠ [] ∧ ¬P := by
  split
  · rename_i h
    exact iff_of_false hempty fun hs ↦ hs.1 h
  · rename_i h
    split
    · rename_i hP
      exact iff_of_false hwrong fun hs ↦ hs.2 hP
    · rename_i hP
      exact iff_of_true rfl ⟨h, hP⟩

/-- A tag is accepted when it is not empty and consists of letters, digits, `_` and `-`. -/
theorem validateTag_eq_nil_iff {tag : ByteString} :
    validateTag tag = [] ↔ tag ≠ [] ∧ ∀ c ∈ tag, c ∈ letters ++ digits ++ ofString "_-" := by
  rw [validateTag, complaints_eq_nil_iff (by decide) (by decide), Bool.not_eq_true',
    Bool.not_eq_false, tagRegex, rmatch_oneOrMore_oneOf_iff, and_self_left]

theorem ne_nil_of_validateTag {tag : ByteString} (h : validateTag tag = []) : tag ≠ [] :=
  (validateTag_eq_nil_iff.mp h).1

/-- An id is five groups of hexadecimal digits with hyphens between them. -/
theorem validateUuid_eq_nil_iff {uuid : ByteString} : validateUuid uuid = [] ↔
    ∃ groups : List ByteString, groups.map List.length = [8, 4, 4, 4, 12] ∧
      (∀ group ∈ groups, ∀ c ∈ group, c ∈ hexDigits) ∧
      uuid = (ofString "-").intercalate groups := by
  rw [validateUuid, complaints_eq_nil_iff (by decide) (by decide), Bool.not_eq_true',
    Bool.not_eq_false, RegularExpression.rmatch_iff_matches', uuidRegex]
  simp only [mem_mul_lit_mul_iff, mem_pow_oneOf_iff]
  constructor
  · rintro ⟨-, _, ⟨_, ⟨_, ⟨g₁, h₁, g₂, h₂, rfl⟩, g₃, h₃, rfl⟩, g₄, h₄, rfl⟩, g₅, h₅, rfl⟩
    refine ⟨[g₁, g₂, g₃, g₄, g₅], ?_, ?_, ?_⟩
    · simp only [List.map_cons, List.map_nil, h₁.1, h₂.1, h₃.1, h₄.1, h₅.1]
    · simp only [List.forall_mem_cons]
      exact ⟨h₁.2, h₂.2, h₃.2, h₄.2, h₅.2, nofun⟩
    · simp [List.intercalate]
  · rintro ⟨groups, hlength, hhex, rfl⟩
    simp only [List.map_eq_cons_iff, List.map_eq_nil_iff] at hlength
    obtain ⟨g₁, _, rfl, h₁, g₂, _, rfl, h₂, g₃, _, rfl, h₃, g₄, _, rfl, h₄, g₅, _, rfl, h₅, rfl⟩ :=
      hlength
    simp only [List.forall_mem_cons] at hhex
    obtain ⟨hhex₁, hhex₂, hhex₃, hhex₄, hhex₅, -⟩ := hhex
    refine ⟨?_, _, ⟨_, ⟨_, ⟨g₁, ⟨h₁, hhex₁⟩, g₂, ⟨h₂, hhex₂⟩, rfl⟩, g₃, ⟨h₃, hhex₃⟩, rfl⟩, g₄,
      ⟨h₄, hhex₄⟩, rfl⟩, g₅, ⟨h₅, hhex₅⟩, ?_⟩
    · intro hnil
      have hlength := congrArg List.length hnil
      simp [List.intercalate, h₁] at hlength
    · simp [List.intercalate]

theorem oneAmong_eq_nil_iff {choices : List String} {complaint : String} {s : ByteString}
    (hcomplaint : complaint ≠ "") : oneAmong choices complaint s = [] ↔
      s ∈ choices.map ofString := by
  rw [oneAmong]
  split
  · rename_i h
    exact iff_of_true rfl h
  · rename_i h
    refine iff_of_false (fun hnil ↦ hcomplaint ?_) h
    exact ofString_inj.mp hnil

theorem within_eq_nil_iff {lo hi n : Int} {complaint : String} (hcomplaint : complaint ≠ "") :
    within lo hi complaint n = [] ↔ lo ≤ n ∧ n ≤ hi := by
  rw [within]
  split
  · rename_i h
    refine iff_of_false (fun hnil ↦ hcomplaint (ofString_inj.mp hnil)) ?_
    omega
  · rename_i h
    refine iff_of_true rfl ?_
    omega

/-- Every check passes. -/
structure Valid (node : VmNode) (isV5Core : Bool) : Prop where
  tag : validateTag node.tag = []
  address : validateAddress node.address = []
  port : validatePort node.port = []
  uuid : validateUuid node.userId = []
  alterId : validateAlterId node.alterId isV5Core = []
  security : validateSecurity node.security = []
  network : validateNetwork node.network = []
  tls : validateTls node.tls = []
  remark : validateRemark node.remark = []
  transport : validateTransport node = []

theorem validate_eq_nil_iff {node : VmNode} {isV5Core : Bool} :
    validate node isV5Core = [] ↔ Valid node isV5Core := by
  rw [validate, firstError_eq_nil_iff]
  simp only [List.forall_mem_cons, validateTlsConfig, ite_self, List.not_mem_nil, false_imp_iff,
    implies_true, and_true]
  constructor
  · rintro ⟨htag, haddress, hport, huuid, halterId, hsecurity, hnetwork, htls, hremark, htransport⟩
    exact ⟨htag, haddress, hport, huuid, halterId, hsecurity, hnetwork, htls, hremark, htransport⟩
  · intro h
    exact ⟨h.tag, h.address, h.port, h.uuid, h.alterId, h.security, h.network, h.tls, h.remark,
      h.transport⟩

namespace Valid

variable {node : VmNode} {isV5Core : Bool} (h : Valid node isV5Core)
include h

theorem tag_ne_nil : node.tag ≠ [] := ne_nil_of_validateTag h.tag

theorem tls_eq : node.tls = ofString "none" ∨ node.tls = ofString "tls" := by
  have hmem := (oneAmong_eq_nil_iff (by decide)).mp h.tls
  simpa using hmem

theorem network_mem : node.network ∈ ["tcp", "ws", "h2", "quic", "kcp"].map ofString :=
  (oneAmong_eq_nil_iff (by decide)).mp h.network

/-- The `alterId` fits into two bytes, whatever the core. -/
theorem alterId_bounds : 0 ≤ node.alterId ∧ node.alterId ≤ 65535 := by
  have halterId := h.alterId
  rw [validateAlterId] at halterId
  split at halterId
  · exact absurd halterId (by decide)
  · split at halterId
    · exact absurd halterId (by decide)
    · omega

/-- The numbers of a node that uses mKCP are small. -/
theorem kcp_bounds (hkcp : node.network = ofString "kcp") :
    (576 ≤ node.kcpCfg.mtu ∧ node.kcpCfg.mtu ≤ 1500) ∧
      (10 ≤ node.kcpCfg.tti ∧ node.kcpCfg.tti ≤ 100) ∧
      (1 ≤ node.kcpCfg.uplinkCapacity ∧ node.kcpCfg.uplinkCapacity ≤ 65535) ∧
      (1 ≤ node.kcpCfg.downlinkCapacity ∧ node.kcpCfg.downlinkCapacity ≤ 65535) := by
  have htransport : validateKcpConfig node.kcpCfg = [] := by
    rw [← h.transport, validateTransport, hkcp]
    rfl
  rw [validateKcpConfig, firstError_eq_nil_iff] at htransport
  simp only [List.forall_mem_cons, List.not_mem_nil, false_imp_iff, implies_true, and_true]
    at htransport
  obtain ⟨hmtu, htti, hup, hdown⟩ := htransport
  exact ⟨(within_eq_nil_iff (by decide)).mp hmtu, (within_eq_nil_iff (by decide)).mp htti,
    (within_eq_nil_iff (by decide)).mp hup, (within_eq_nil_iff (by decide)).mp hdown⟩

/-- A node that uses the WebSocket transport has a path. -/
theorem wsPath_ne_nil (hws : node.network = ofString "ws") : node.wsCfg.path ≠ [] := by
  have htransport : validateWsConfig node.wsCfg = [] := by
    rw [← h.transport, validateTransport, hws]
    rfl
  intro hnil
  rw [validateWsConfig, if_pos hnil] at htransport
  exact absurd htransport (by decide)

/-- So does one that uses HTTP/2. -/
theorem h2Path_ne_nil (hh2 : node.network = ofString "h2") : node.h2Cfg.path ≠ [] := by
  have htransport : validateH2Config node.h2Cfg = [] := by
    rw [← h.transport, validateTransport, hh2]
    rfl
  intro hnil
  rw [validateH2Config, if_pos hnil] at htransport
  exact absurd htransport (by decide)

theorem quicSecurity_ne_nil (hquic : node.network = ofString "quic") :
    node.quicCfg.security ≠ [] := by
  have htransport : validateQuicConfig node.quicCfg = [] := by
    rw [← h.transport, validateTransport, hquic]
    rfl
  intro hnil
  rw [validateQuicConfig, hnil] at htransport
  exact absurd htransport (by decide)

end Valid

/-- A tag need not begin with `vmess-`. -/
example : validateTag (ofString "hk_01") = [] := by decide +kernel

theorem validateUuid_sample :
    validateUuid (ofString "01234567-89ab-cdef-0123-456789abcdef") = [] := by
  apply validateUuid_eq_nil_iff.mpr
  exact ⟨[ofString "01234567", ofString "89ab", ofString "cdef", ofString "0123",
    ofString "456789abcdef"], by decide, by decide +kernel, by decide +kernel⟩

end VmNodeValidator

end LanProxyGateway
