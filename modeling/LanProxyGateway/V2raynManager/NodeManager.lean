import LanProxyGateway.Foundation.Run
import LanProxyGateway.V2raynManager.ConfigBuilder
import LanProxyGateway.V2raynManager.LinkCodec

/-!
# The node manager

`vm_node_manager` holds the nodes and the tag of the active one, and writes them to two files, the
v2ray configuration and the remarks. A `NodeStore` is the manager together with the content of its
files.

An operation ends in an `Outcome`: it is done, or it failed with a message, or an exception left it.
What matters is the store it leaves behind. A save that fails is rolled back; a save that throws is
not, because the code that would roll back is not reached. What the disk answers is an input
(`DiskAnswer`).

An element that `reorder_nodes` has moved from keeps its numbers and loses its strings
(`movedFrom`).
-/

open Foundation ByteString

namespace LanProxyGateway

/-- How an operation ends. -/
inductive Outcome (α : Type)
  | done (result : α)
  | failed (errorMsg : ByteString)
  | thrown (e : CxxException)

structure NodeStore where
  nodes : List VmNode := []
  activeNodeTag : ByteString := []
  isV5Core : Bool := true
  /-- The file at `m_config_path`. -/
  config : FileContent := .absent
  /-- The file `vmess_remarks.json`. -/
  remarks : FileContent := .absent

/-- Which files can be written. -/
structure DiskAnswer where
  opensTmp : Bool := true
  renames : Bool := true
  opensRemarks : Bool := true
  deriving DecidableEq, Repr

namespace NodeStore

open VmConfigBuilder VmNodeValidator VmLinkCodec

/-! ## Reading a configuration -/

/-- `v2rayn_config::load`. -/
def readConfig : FileContent → Json
  | .json j => j
  | _ => .null

/-- `j["header"]["type"]`, where it is there. -/
def headerType (default : ByteString) (settings : Json) : Except CxxException ByteString :=
  match (settings.member? (ofString "header")).bind (Json.member? (ofString "type")) with
  | some v => Json.orThrow v.getString
  | none => .ok default

def parseUser (node : VmNode) (vnext : Json) : Except CxxException VmNode :=
  match vnext.member? (ofString "users") with
  | some (.array (user :: _)) => do
    let userId ← stringValue "id" [] user
    let alterId ← Json.orThrow (Json.value Json.getInt "alterId" 0 user)
    let security ← stringValue "security" (ofString "auto") user
    .ok { node with userId := userId, alterId := alterId, security := security }
  | _ => .ok node

def parseTcpSettings (cfg : VmNode.TcpConfig) (tcp : Json) :
    Except CxxException VmNode.TcpConfig := do
  .ok { headerType := ← headerType cfg.headerType tcp }

def parseWsSettings (cfg : VmNode.WsConfig) (ws : Json) : Except CxxException VmNode.WsConfig := do
  let path ← stringValue "path" (ofString "/") ws
  match (ws.member? (ofString "headers")).bind (Json.member? (ofString "Host")) with
  | some v => .ok { path := path, host := ← Json.orThrow v.getString }
  | none => .ok { path := path, host := cfg.host }

def parseH2Settings (cfg : VmNode.H2Config) (h2 : Json) : Except CxxException VmNode.H2Config := do
  let path ← stringValue "path" (ofString "/") h2
  match h2.member? (ofString "host") with
  | some (.array hosts) =>
    .ok { path := path, host := cfg.host ++ (← hosts.mapM fun h ↦ Json.orThrow h.getString) }
  | _ => .ok { path := path, host := cfg.host }

def parseQuicSettings (cfg : VmNode.QuicConfig) (q : Json) :
    Except CxxException VmNode.QuicConfig := do
  let security ← stringValue "security" (ofString "none") q
  let key ← stringValue "key" [] q
  .ok { security := security, key := key, headerType := ← headerType cfg.headerType q }

def parseKcpSettings (cfg : VmNode.KcpConfig) (k : Json) :
    Except CxxException VmNode.KcpConfig := do
  let mtu ← Json.orThrow (Json.value Json.getInt "mtu" 1350 k)
  let tti ← Json.orThrow (Json.value Json.getInt "tti" 20 k)
  let uplinkCapacity ← Json.orThrow (Json.value Json.getInt "uplinkCapacity" 5 k)
  let downlinkCapacity ← Json.orThrow (Json.value Json.getInt "downlinkCapacity" 20 k)
  let congestion ← Json.orThrow (Json.value Json.getBool "congestion" false k)
  .ok { mtu, tti, uplinkCapacity, downlinkCapacity, congestion
        headerType := ← headerType cfg.headerType k }

def parseTlsSettings (tls : Json) : Except CxxException VmNode.TlsConfig := do
  let allowInsecure ← Json.orThrow (Json.value Json.getBool "allowInsecure" false tls)
  let serverName ← stringValue "serverName" [] tls
  .ok { allowInsecure, serverName }

/-- The settings under a key read into the node, where there are any. -/
def readInto {α : Type} (ss : Json) (key : String) (parse : Json → Except CxxException α)
    (node : VmNode) (set : α → VmNode) : Except CxxException VmNode :=
  match ss.member? (ofString key) with
  | some v => (parse v).map set
  | none => .ok node

def parseTransport (node : VmNode) (ss : Json) : Except CxxException VmNode :=
  if node.network = ofString "tcp" then
    readInto ss "tcpSettings" (parseTcpSettings node.tcpCfg) node fun c ↦ { node with tcpCfg := c }
  else if node.network = ofString "ws" then
    readInto ss "wsSettings" (parseWsSettings node.wsCfg) node fun c ↦ { node with wsCfg := c }
  else if node.network = ofString "h2" then
    readInto ss "httpSettings" (parseH2Settings node.h2Cfg) node fun c ↦ { node with h2Cfg := c }
  else if node.network = ofString "quic" then
    readInto ss "quicSettings" (parseQuicSettings node.quicCfg) node fun c ↦
      { node with quicCfg := c }
  else if node.network = ofString "kcp" then
    readInto ss "kcpSettings" (parseKcpSettings node.kcpCfg) node fun c ↦ { node with kcpCfg := c }
  else .ok node

def parseStreamSettings (node : VmNode) (ss : Json) : Except CxxException VmNode := do
  let network ← stringValue "network" (ofString "tcp") ss
  let sec ← stringValue "security" (ofString "none") ss
  let tls := ofString (if sec = ofString "tls" then "tls" else "none")
  let node ← parseTransport { node with network := network, tls := tls } ss
  if node.tls = ofString "tls" then
    readInto ss "tlsSettings" parseTlsSettings node fun c ↦ { node with tlsCfg := c }
  else .ok node

/-- `vm_node_manager::parse_outbound`. -/
def parseOutbound (outbound : Json) : Except CxxException (Option VmNode) := do
  let tag ← stringValue "tag" [] outbound
  if tag = [] then .ok none
  else
    match (outbound.member? (ofString "settings")).bind (Json.member? (ofString "vnext")) with
    | some (.array (vnext :: _)) => do
      let address ← stringValue "address" [] vnext
      let port ← Json.orThrow (Json.value Json.getInt "port" 443 vnext)
      let node ← parseUser { tag := tag, address := address, port := UInt16.ofInt port } vnext
      match outbound.member? (ofString "streamSettings") with
      | some ss => (parseStreamSettings node ss).map some
      | none => .ok (some node)
    | _ => .ok none

/-- The loop over the outbounds. -/
def parseOutbounds : List Json → Except CxxException (List VmNode)
  | [] => .ok []
  | ob :: obs => do
    let protocol ← stringValue "protocol" [] ob
    let node ← if protocol = ofString "vmess" then parseOutbound ob else .ok none
    let nodes ← parseOutbounds obs
    .ok (node.toList ++ nodes)

/-- `node.remark = remarks["remarks"][node.tag]`, where it is there. -/
def withRemark (remarks : Json) (node : VmNode) : Except CxxException VmNode :=
  match (remarks.member? (ofString "remarks")).bind (Json.member? node.tag) with
  | some v => (Json.orThrow v.getString).map fun remark ↦ { node with remark := remark }
  | none => .ok node

/-- The first outbound tag among the rules that begins with `vmess-`. -/
def activeTagOf : List Json → Except CxxException (Option ByteString)
  | [] => .ok none
  | rule :: rules => do
    let tag ← ruleTag rule
    if isVmessTag tag then .ok (some tag) else activeTagOf rules

/-- `vm_node_manager::load_from_config`, with what reading the file of the remarks left in
`remarks`. -/
def loadFromConfig (s : NodeStore) (remarks : Json) : Except CxxException NodeStore := do
  let config := readConfig s.config
  if !config.isObject then .ok { s with nodes := [] }
  else
    let nodes ← parseOutbounds ((config.member? (ofString "outbounds")).elim [] Json.arrayItems)
    let nodes ← nodes.mapM (withRemark remarks)
    let found ← activeTagOf (routingRules config)
    let activeNodeTag := found.getD s.activeNodeTag
    .ok { s with nodes := nodes, activeNodeTag := effectiveTag nodes activeNodeTag }

/-! ## What the settings leave alone -/

/-- The part of a node that the users and the settings of an outbound have no part in. -/
def head (node : VmNode) : ByteString × UInt16 := (node.tag, node.port)

theorem head_readInto {α : Type} {ss : Json} {key : String}
    {parse : Json → Except CxxException α} {node node' : VmNode} {set : α → VmNode}
    (h : readInto ss key parse node set = .ok node') (hset : ∀ a, head (set a) = head node) :
    head node' = head node := by
  rw [readInto] at h
  split at h
  · obtain ⟨a, -, rfl⟩ := Json.map_eq_ok.mp h
    exact hset a
  · rw [Except.ok.inj h]

theorem head_parseUser {node node' : VmNode} {vnext : Json}
    (h : parseUser node vnext = .ok node') : head node' = head node := by
  rw [parseUser] at h
  split at h
  · simp only [Json.bind_eq_ok, Except.ok.injEq] at h
    obtain ⟨-, -, -, -, -, -, rfl⟩ := h
    rfl
  · rw [Except.ok.inj h]

theorem head_parseTransport {node node' : VmNode} {ss : Json}
    (h : parseTransport node ss = .ok node') : head node' = head node := by
  rw [parseTransport] at h
  split at h
  · exact head_readInto h fun _ ↦ rfl
  split at h
  · exact head_readInto h fun _ ↦ rfl
  split at h
  · exact head_readInto h fun _ ↦ rfl
  split at h
  · exact head_readInto h fun _ ↦ rfl
  split at h
  · exact head_readInto h fun _ ↦ rfl
  · rw [Except.ok.inj h]

theorem head_parseStreamSettings {node node' : VmNode} {ss : Json}
    (h : parseStreamSettings node ss = .ok node') : head node' = head node := by
  rw [parseStreamSettings] at h
  simp only [Json.bind_eq_ok] at h
  obtain ⟨network, -, sec, -, node₁, hnode₁, h⟩ := h
  have hhead₁ := head_parseTransport hnode₁
  split at h
  · exact (head_readInto h fun _ ↦ rfl).trans hhead₁
  · rw [← Except.ok.inj h, hhead₁]
    rfl

/-- What is read has the tag of the outbound and the port of its first server. -/
theorem head_parseOutbound {outbound : Json} {node : VmNode}
    (h : parseOutbound outbound = .ok (some node)) :
    ∃ tag vnext vs port, tag ≠ [] ∧
      (outbound.member? (ofString "settings")).bind (Json.member? (ofString "vnext")) =
        some (.array (vnext :: vs)) ∧
      Json.value Json.getInt "port" 443 vnext = some port ∧
      head node = (tag, UInt16.ofInt port) := by
  rw [parseOutbound] at h
  obtain ⟨tag, -, h⟩ := Json.bind_eq_ok.mp h
  split at h
  · cases h
  rename_i hne
  split at h
  · rename_i vnext vs hvnext
    simp only [Json.bind_eq_ok] at h
    obtain ⟨address, -, port, hport, node₁, hnode₁, h⟩ := h
    have hhead₁ : head node₁ = (tag, UInt16.ofInt port) := head_parseUser hnode₁
    refine ⟨tag, vnext, vs, port, hne, hvnext, Json.orThrow_eq_ok.mp hport, ?_⟩
    split at h
    · obtain ⟨node₂, hnode₂, hsome⟩ := Json.map_eq_ok.mp h
      rw [← Option.some_inj.mp hsome, head_parseStreamSettings hnode₂, hhead₁]
    · rw [← Option.some_inj.mp (Except.ok.inj h), hhead₁]
  · cases h

/-! ## Saving -/

/-- `v2rayn_config::validate`. -/
def validateConfig (config : Json) : Bool :=
  config.isObject && (config.member? (ofString "inbounds")).any Json.isArray
    && (config.member? (ofString "outbounds")).any Json.isArray

/-- The content of the remarks file. -/
def remarksJson (nodes : List VmNode) : Json :=
  let remarked := nodes.filter fun n ↦ n.remark ≠ []
  .ofFields [("version", .integer 1), ("remarks", .object
    (remarked.foldl (fun m n ↦ OrderedMap.set n.tag (.string n.remark) m) []))]

/-- `vm_node_manager::save_to_config`. Serialising a string that is not UTF-8 throws: for the
configuration before the file has been replaced, for the remarks after theirs has been emptied. -/
def saveToConfig (disk : DiskAnswer) (s : NodeStore) : Outcome Unit × NodeStore :=
  match buildFullConfig s.nodes (readConfig s.config) s.activeNodeTag with
  | .error e => (.thrown e, s)
  | .ok config =>
    if !validateConfig config then (.failed (ofString "生成的v2ray配置验证失败"), s)
    else if !disk.opensTmp then (.failed (ofString "v2ray配置文件写入失败"), s)
    else if !config.isSerializable then (.thrown .typeError, s)
    else if !disk.renames then (.failed (ofString "v2ray配置文件写入失败"), s)
    else
      let s := { s with config := .json config }
      if !disk.opensRemarks then (.done (), s)
      else if !(remarksJson s.nodes).isSerializable then
        (.thrown .typeError, { s with remarks := .malformed })
      else (.done (), { s with remarks := .json (remarksJson s.nodes) })

/-! ## Editing the nodes -/

/-- `vm_node_manager::is_tag_unique`. -/
def isTagUnique (s : NodeStore) (tag excludeTag : ByteString) : Bool :=
  s.nodes.all fun n ↦ !(n.tag = tag && n.tag ≠ excludeTag)

/-- The first node with the tag replaced by another node. -/
def replaceNode (tag : ByteString) (node : VmNode) : List VmNode → List VmNode
  | [] => []
  | n :: ns => if n.tag = tag then node :: ns else n :: replaceNode tag node ns

/-- `vm_node_manager::add_node`. -/
def addNode (disk : DiskAnswer) (node : VmNode) (s : NodeStore) : Outcome Unit × NodeStore :=
  let err := validate node s.isV5Core
  if err ≠ [] then (.failed err, s)
  else if !s.isTagUnique node.tag [] then (.failed (ofString "节点标签已存在: " ++ node.tag), s)
  else
    match saveToConfig disk { s with nodes := s.nodes ++ [node] } with
    | (.failed errorMsg, s') => (.failed errorMsg, { s' with nodes := s'.nodes.dropLast })
    | result => result

/-- `vm_node_manager::update_node`. -/
def updateNode (disk : DiskAnswer) (oldTag : ByteString) (node : VmNode) (s : NodeStore) :
    Outcome Unit × NodeStore :=
  let err := validate node s.isV5Core
  if err ≠ [] then (.failed err, s)
  else if !s.isTagUnique node.tag oldTag then (.failed (ofString "节点标签已存在: " ++ node.tag), s)
  else
    match s.nodes.find? (·.tag = oldTag) with
    | none => (.failed (ofString "节点不存在: " ++ oldTag), s)
    | some backup =>
      match saveToConfig disk { s with nodes := replaceNode oldTag node s.nodes } with
      | (.failed errorMsg, s') =>
        (.failed errorMsg, { s' with nodes := replaceNode node.tag backup s'.nodes })
      | result => result

/-- `vm_node_manager::remove_node`. The node that a failed save puts back comes last. -/
def removeNode (disk : DiskAnswer) (tag : ByteString) (s : NodeStore) : Outcome Unit × NodeStore :=
  if s.nodes.length ≤ 1 then (.failed (ofString "至少保留一个VMess节点"), s)
  else
    match s.nodes.find? (·.tag = tag) with
    | none => (.failed (ofString "节点不存在: " ++ tag), s)
    | some backup =>
      match saveToConfig disk { s with nodes := s.nodes.eraseP (·.tag = tag) } with
      | (.failed errorMsg, s') => (.failed errorMsg, { s' with nodes := s'.nodes ++ [backup] })
      | result => result

/-- What is left of a node that has been moved. -/
def movedFrom (n : VmNode) : VmNode where
  port := n.port
  alterId := n.alterId
  tag := []
  address := []
  userId := []
  security := []
  network := []
  tls := []
  remark := []
  tcpCfg := { headerType := [] }
  wsCfg := { path := [], host := [] }
  h2Cfg := { path := [], host := [] }
  quicCfg := { security := [], key := [], headerType := [] }
  kcpCfg := { n.kcpCfg with headerType := [] }
  tlsCfg := { n.tlsCfg with serverName := [] }

/-- The loop over the tags: the nodes that were picked, in order, and what is left in the list. -/
def pickNodes : List ByteString → List VmNode → List VmNode × List VmNode
  | [], nodes => ([], nodes)
  | tag :: tags, nodes =>
    match nodes.find? (·.tag = tag) with
    | none => pickNodes tags nodes
    | some n =>
      let (picked, rest) := pickNodes tags (replaceNode tag (movedFrom n) nodes)
      (n :: picked, rest)

/-- The loop over what is left: a node follows unless one with its tag is there already. -/
def appendMissing (reordered : List VmNode) : List VmNode → List VmNode
  | [] => reordered
  | n :: ns =>
    if reordered.any (·.tag = n.tag) then appendMissing reordered ns
    else appendMissing (reordered ++ [n]) ns

/-- `vm_node_manager::reorder_nodes`. -/
def reorderNodes (orderedTags : List ByteString) (s : NodeStore) : Outcome Unit × NodeStore :=
  let (reordered, rest) := pickNodes orderedTags s.nodes
  (.done (), { s with nodes := appendMissing reordered rest })

/-- `vm_node_manager::set_active_node`. -/
def setActiveNode (tag : ByteString) (s : NodeStore) : Outcome Unit × NodeStore :=
  if s.nodes.any (·.tag = tag) then (.done (), { s with activeNodeTag := tag })
  else (.failed (ofString "节点不存在: " ++ tag), s)

/-- `vm_node_manager::apply_config`, up to the restart of v2ray. -/
def applyConfig (disk : DiskAnswer) (s : NodeStore) : Outcome Unit × NodeStore :=
  saveToConfig disk s

/-- The first of the tags `vmess-n`, `vmess-(n+1)`, … that no node has. Among one more tags than
there are nodes there is one. -/
def firstFreeTag (nodes : List VmNode) : ℕ → ℕ → ByteString
  | 0, n => ofString "vmess-" ++ toDecimal n
  | fuel + 1, n =>
    let tag := ofString "vmess-" ++ toDecimal n
    if nodes.any (·.tag = tag) then firstFreeTag nodes fuel (n + 1) else tag

/-- `vm_node_manager::generate_auto_tag`. -/
def generateAutoTag (s : NodeStore) : ByteString := firstFreeTag s.nodes s.nodes.length 1

/-- `vm_node_manager::import_from_link`. -/
def importFromLink (lib : LinkLibrary) (disk : DiskAnswer) (vmessLink : ByteString)
    (s : NodeStore) : Outcome VmNode × NodeStore :=
  match decode lib vmessLink with
  | .error e => (.thrown e, s)
  | .ok (.error errorMsg) => (.failed errorMsg, s)
  | .ok (.ok node) =>
    let node := { node with tag := s.generateAutoTag }
    let err := validate node s.isV5Core
    if err ≠ [] then (.failed err, s)
    else
      match saveToConfig disk { s with nodes := s.nodes ++ [node] } with
      | (.done _, s') => (.done node, s')
      | (.failed errorMsg, s') =>
        (.failed errorMsg, { s' with nodes := if s'.nodes.getLast?.any (·.tag = node.tag) then
          s'.nodes.dropLast else s'.nodes })
      | (.thrown e, s') => (.thrown e, s')

/-! ## The steps of the system -/

inductive Request
  | addNode (node : VmNode)
  | updateNode (oldTag : ByteString) (node : VmNode)
  | removeNode (tag : ByteString)
  | reorderNodes (orderedTags : List ByteString)
  | setActiveNode (tag : ByteString)
  | applyConfig
  | importFromLink (vmessLink : ByteString)

/-- The store after a request. -/
def next (lib : LinkLibrary) (s : NodeStore) : Request × DiskAnswer → NodeStore
  | (.addNode node, disk) => (s.addNode disk node).2
  | (.updateNode oldTag node, disk) => (s.updateNode disk oldTag node).2
  | (.removeNode tag, disk) => (s.removeNode disk tag).2
  | (.reorderNodes orderedTags, _) => (s.reorderNodes orderedTags).2
  | (.setActiveNode tag, _) => (s.setActiveNode tag).2
  | (.applyConfig, disk) => (s.applyConfig disk).2
  | (.importFromLink vmessLink, disk) => (s.importFromLink lib disk vmessLink).2

/-- The steps. An exception ends a request, not the run. -/
def step (lib : LinkLibrary) (s : NodeStore) (e : Request × DiskAnswer) : Except Empty NodeStore :=
  .ok (s.next lib e)

end NodeStore

end LanProxyGateway
