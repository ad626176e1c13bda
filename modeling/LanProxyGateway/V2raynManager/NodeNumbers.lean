import LanProxyGateway.V2raynManager.NodeEdits
import LanProxyGateway.V2raynManager.NodeJson
import LanProxyGateway.V2raynManager.Reordering

/-!
# The numbers of a node

Five fields of a node are of the type `int`. Whatever is read into them was converted before, from
the JSON of a request, the configuration file or a share link, and no operation of the manager
computes with them. So the nodes of a store are nodes that `int`s can hold (`IntStore`), from the
load on.
-/

open Foundation ByteString

namespace LanProxyGateway

namespace VmNode

/-- The numbers are `int`s. -/
structure KcpConfig.IntFields (c : KcpConfig) : Prop where
  mtu : Json.castInt c.mtu = c.mtu
  tti : Json.castInt c.tti = c.tti
  uplinkCapacity : Json.castInt c.uplinkCapacity = c.uplinkCapacity
  downlinkCapacity : Json.castInt c.downlinkCapacity = c.downlinkCapacity

/-- The numbers are `int`s; the port has a type of its own. -/
structure IntFields (n : VmNode) : Prop where
  alterId : Json.castInt n.alterId = n.alterId
  kcpCfg : n.kcpCfg.IntFields

theorem KcpConfig.intFields_default : ({} : KcpConfig).IntFields where
  mtu := Json.castInt_of_bounds (by decide) (by decide)
  tti := Json.castInt_of_bounds (by decide) (by decide)
  uplinkCapacity := Json.castInt_of_bounds (by decide) (by decide)
  downlinkCapacity := Json.castInt_of_bounds (by decide) (by decide)

end VmNode

namespace NodeStore

open VmConfigBuilder VmNodeValidator VmLinkCodec

/-! ## Reading nodes -/

/-- A number with a default that is an `int` is read as one. -/
theorem castInt_of_value {key : String} {default n : Int} {j : Json}
    (hdefault : Json.castInt default = default)
    (h : Json.orThrow (Json.value Json.getInt key default j) = .ok n) : Json.castInt n = n := by
  rcases Json.eq_or_convert_of_value (Json.orThrow_eq_ok.mp h) with rfl | ⟨v, hv⟩
  · exact hdefault
  · exact Json.castInt_of_getInt hv

/-- Settings that are read leave a property of the node alone that no result of the parser harms. -/
theorem readInto_induction {α : Type} {P : VmNode → Prop} {ss : Json} {key : String}
    {parse : Json → Except CxxException α} {node node' : VmNode} {set : α → VmNode}
    (h : readInto ss key parse node set = .ok node') (hnode : P node)
    (hset : ∀ v a, parse v = .ok a → P (set a)) : P node' := by
  rw [readInto] at h
  split at h
  · obtain ⟨a, ha, rfl⟩ := Json.map_eq_ok.mp h
    exact hset _ a ha
  · rwa [← Except.ok.inj h]

theorem intFields_parseUser {node node' : VmNode} {vnext : Json}
    (h : parseUser node vnext = .ok node') (hnode : node.IntFields) : node'.IntFields := by
  rw [parseUser] at h
  split at h
  · simp only [Json.bind_eq_ok, Except.ok.injEq] at h
    obtain ⟨-, -, alterId, halterId, -, -, rfl⟩ := h
    exact ⟨castInt_of_value rfl halterId, hnode.kcpCfg⟩
  · rwa [← Except.ok.inj h]

theorem intFields_parseKcpSettings {cfg cfg' : VmNode.KcpConfig} {k : Json}
    (h : parseKcpSettings cfg k = .ok cfg') : cfg'.IntFields := by
  simp only [parseKcpSettings, Json.bind_eq_ok, Except.ok.injEq] at h
  obtain ⟨mtu, hmtu, tti, htti, up, hup, down, hdown, -, -, -, -, rfl⟩ := h
  have hdefault := VmNode.KcpConfig.intFields_default
  exact ⟨castInt_of_value hdefault.mtu hmtu, castInt_of_value hdefault.tti htti,
    castInt_of_value hdefault.uplinkCapacity hup, castInt_of_value hdefault.downlinkCapacity hdown⟩

theorem intFields_parseTransport {node node' : VmNode} {ss : Json}
    (h : parseTransport node ss = .ok node') (hnode : node.IntFields) : node'.IntFields := by
  have hsame : ∀ n : VmNode, n.alterId = node.alterId → n.kcpCfg = node.kcpCfg → n.IntFields :=
    fun n halterId hkcp ↦ ⟨halterId ▸ hnode.alterId, hkcp ▸ hnode.kcpCfg⟩
  rw [parseTransport] at h
  split_ifs at h
  · exact readInto_induction h hnode fun v a _ ↦ hsame _ rfl rfl
  · exact readInto_induction h hnode fun v a _ ↦ hsame _ rfl rfl
  · exact readInto_induction h hnode fun v a _ ↦ hsame _ rfl rfl
  · exact readInto_induction h hnode fun v a _ ↦ hsame _ rfl rfl
  · exact readInto_induction h hnode fun v a ha ↦
      ⟨hnode.alterId, intFields_parseKcpSettings ha⟩
  · rwa [← Except.ok.inj h]

theorem intFields_parseStreamSettings {node node' : VmNode} {ss : Json}
    (h : parseStreamSettings node ss = .ok node') (hnode : node.IntFields) :
    node'.IntFields := by
  simp only [parseStreamSettings, Json.bind_eq_ok] at h
  obtain ⟨network, -, sec, -, n, hn, h⟩ := h
  have hread : n.IntFields := intFields_parseTransport hn ⟨hnode.alterId, hnode.kcpCfg⟩
  split_ifs at h
  · exact readInto_induction h hread fun v a _ ↦ ⟨hread.alterId, hread.kcpCfg⟩
  · rwa [← Except.ok.inj h]

theorem intFields_parseOutbound {outbound : Json} {node : VmNode}
    (h : parseOutbound outbound = .ok (some node)) : node.IntFields := by
  rw [parseOutbound] at h
  obtain ⟨tag, -, h⟩ := Json.bind_eq_ok.mp h
  split_ifs at h
  · cases h
  split at h
  · simp only [Json.bind_eq_ok] at h
    obtain ⟨address, -, port, -, n, hn, h⟩ := h
    have hread : n.IntFields :=
      intFields_parseUser hn ⟨rfl, VmNode.KcpConfig.intFields_default⟩
    split at h
    · obtain ⟨n', hn', hsome⟩ := Json.map_eq_ok.mp h
      rw [← Option.some_inj.mp hsome]
      exact intFields_parseStreamSettings hn' hread
    · rwa [← Option.some_inj.mp (Except.ok.inj h)]
  · cases h

theorem intFields_parseOutbounds {obs : List Json} {nodes : List VmNode}
    (h : parseOutbounds obs = .ok nodes) : ∀ n ∈ nodes, n.IntFields := by
  induction obs generalizing nodes with
  | nil =>
    rw [← Except.ok.inj h]
    exact fun n hn ↦ absurd hn List.not_mem_nil
  | cons ob obs ih =>
    rw [parseOutbounds] at h
    obtain ⟨protocol, -, h⟩ := Json.bind_eq_ok.mp h
    split at h
    · obtain ⟨node, hnode, h⟩ := Json.bind_eq_ok.mp h
      obtain ⟨rest, hrest, h⟩ := Json.bind_eq_ok.mp h
      rw [← Except.ok.inj h, List.forall_mem_append]
      refine ⟨fun n hn ↦ ?_, ih hrest⟩
      obtain rfl : node = some n := Option.mem_toList.mp hn
      exact intFields_parseOutbound hnode
    · obtain ⟨node, hnode, h⟩ := Json.bind_eq_ok.mp h
      obtain ⟨rest, hrest, h⟩ := Json.bind_eq_ok.mp h
      rw [← Except.ok.inj h, ← Except.ok.inj hnode]
      exact ih hrest

theorem intFields_withRemark {remarks : Json} {node node' : VmNode}
    (h : withRemark remarks node = .ok node') (hnode : node.IntFields) : node'.IntFields := by
  rw [withRemark] at h
  split at h
  · obtain ⟨remark, -, rfl⟩ := Json.map_eq_ok.mp h
    exact ⟨hnode.alterId, hnode.kcpCfg⟩
  · rwa [← Except.ok.inj h]

/-- A node from the body of a request. -/
theorem intFields_jsonToNode {j : Json} {node : VmNode} (h : jsonToNode j = .ok node) :
    node.IntFields := by
  simp only [jsonToNode, Json.bind_eq_ok] at h
  obtain ⟨tag, -, address, -, port, -, userId, -, alterId, halterId, security, -, network, -,
    tls, -, remark, -, n₁, hn₁, n₂, hn₂, n₃, hn₃, n₄, hn₄, n₅, hn₅, hn₆⟩ := h
  have hstart : Json.castInt alterId = alterId := castInt_of_value rfl halterId
  have h₁ : n₁.IntFields :=
    readInto_induction hn₁ ⟨hstart, VmNode.KcpConfig.intFields_default⟩ fun v a _ ↦
      ⟨hstart, VmNode.KcpConfig.intFields_default⟩
  have h₂ : n₂.IntFields := readInto_induction hn₂ h₁ fun v a _ ↦ ⟨h₁.alterId, h₁.kcpCfg⟩
  have h₃ : n₃.IntFields := readInto_induction hn₃ h₂ fun v a _ ↦ ⟨h₂.alterId, h₂.kcpCfg⟩
  have h₄ : n₄.IntFields := readInto_induction hn₄ h₃ fun v a _ ↦ ⟨h₃.alterId, h₃.kcpCfg⟩
  have h₅ : n₅.IntFields := by
    refine readInto_induction hn₅ h₄ fun v a ha ↦ ⟨h₄.alterId, ?_⟩
    simp only [jsonToKcp, Json.bind_eq_ok, Except.ok.injEq] at ha
    obtain ⟨mtu, hmtu, tti, htti, up, hup, down, hdown, -, -, -, -, rfl⟩ := ha
    have hdefault := VmNode.KcpConfig.intFields_default
    exact ⟨castInt_of_value hdefault.mtu hmtu, castInt_of_value hdefault.tti htti,
      castInt_of_value hdefault.uplinkCapacity hup,
      castInt_of_value hdefault.downlinkCapacity hdown⟩
  exact readInto_induction hn₆ h₅ fun v a _ ↦ ⟨h₅.alterId, h₅.kcpCfg⟩

/-! ## Share links -/

theorem castInt_linkAlterId (j : Json) : Json.castInt (linkAlterId j) = linkAlterId j := by
  have hzero : Json.castInt 0 = 0 := Json.castInt_of_bounds (by decide) (by decide)
  rw [linkAlterId]
  cases j.member? (ofString "aid") with
  | none => exact hzero
  | some v =>
    rw [Option.elim_some, numberOr]
    split_ifs
    · cases hv : v.getInt with
      | none => exact hzero
      | some n => exact Json.castInt_of_getInt hv
    · split
      · split
        · rename_i n hn
          obtain ⟨hlo, hhi⟩ := bounds_of_stoi hn
          exact Json.castInt_of_bounds hlo hhi
        · exact hzero
      · exact hzero

theorem intFields_withTransport {node : VmNode} (h : node.IntFields)
    (headerType host path : ByteString) : (withTransport node headerType host path).IntFields := by
  obtain ⟨halterId, hkcp⟩ := h
  rw [withTransport]
  split
  · exact ⟨halterId, hkcp⟩
  split
  · exact ⟨halterId, hkcp⟩
  split
  · exact ⟨halterId, hkcp⟩
  split
  · exact ⟨halterId, hkcp⟩
  split
  · exact ⟨halterId, hkcp.mtu, hkcp.tti, hkcp.uplinkCapacity, hkcp.downlinkCapacity⟩
  · exact ⟨halterId, hkcp⟩

theorem intFields_nodeOfJson {j : Json} {node : VmNode} (h : nodeOfJson j = .ok node) :
    node.IntFields := by
  simp only [nodeOfJson, Json.bind_eq_ok] at h
  obtain ⟨remark, -, address, -, userId, -, security, -, network, -, tls, -, headerType, -, host, -,
    path, -, sni, -, h⟩ := h
  have hfields : ∀ n : VmNode, n.alterId = linkAlterId j → n.kcpCfg = {} →
      (withTransport n headerType host path).IntFields := by
    intro n halterId hkcp
    refine intFields_withTransport ⟨?_, ?_⟩ headerType host path
    · rw [halterId, castInt_linkAlterId]
    · rw [hkcp]
      exact VmNode.KcpConfig.intFields_default
  split_ifs at h
  · rw [← Except.ok.inj h]
    exact ⟨(hfields _ rfl rfl).alterId, (hfields _ rfl rfl).kcpCfg⟩
  · rw [← Except.ok.inj h]
    exact hfields _ rfl rfl
  · rw [← Except.ok.inj h]
    exact ⟨(hfields _ rfl rfl).alterId, (hfields _ rfl rfl).kcpCfg⟩
  · rw [← Except.ok.inj h]
    exact hfields _ rfl rfl

/-! ## The nodes of a store -/

/-- All numbers of the nodes are `int`s. -/
def IntNodes (nodes : List VmNode) : Prop := ∀ n ∈ nodes, n.IntFields

def IntStore (s : NodeStore) : Prop := IntNodes s.nodes

/-- The node that a request brings along is one of `int`s. -/
def Edit.IntFields : Edit → Prop
  | .addNode node | .updateNode _ node => node.IntFields
  | _ => True

variable {lib : LinkLibrary} {disk : DiskAnswer} {s t : NodeStore} {nodes : List VmNode}

theorem intFields_mapM_withRemark {remarks : Json} {nodes' : List VmNode}
    (hnodes : IntNodes nodes) (h : nodes.mapM (withRemark remarks) = .ok nodes') :
    IntNodes nodes' := by
  induction nodes generalizing nodes' with
  | nil =>
    rw [← Except.ok.inj h]
    exact fun n hn ↦ absurd hn List.not_mem_nil
  | cons node nodes ih =>
    rw [IntNodes, List.forall_mem_cons] at hnodes
    rw [List.mapM_cons] at h
    obtain ⟨node', hnode', h⟩ := Json.bind_eq_ok.mp h
    obtain ⟨rest, hrest, h⟩ := Json.bind_eq_ok.mp h
    rw [← Except.ok.inj h, IntNodes, List.forall_mem_cons]
    exact ⟨intFields_withRemark hnode' hnodes.1, ih hnodes.2 hrest⟩

theorem intStore_of_load {remarks : Json} (h : loadFromConfig s remarks = .ok t) :
    IntStore t := by
  rw [loadFromConfig] at h
  split at h
  · rw [← Except.ok.inj h]
    exact fun n hn ↦ absurd hn List.not_mem_nil
  · obtain ⟨nodes, hnodes, h⟩ := Json.bind_eq_ok.mp h
    obtain ⟨nodes', hnodes', h⟩ := Json.bind_eq_ok.mp h
    obtain ⟨found, -, h⟩ := Json.bind_eq_ok.mp h
    rw [← Except.ok.inj h]
    exact intFields_mapM_withRemark (intFields_parseOutbounds hnodes) hnodes'

theorem mem_of_mem_replaceNode {tag : ByteString} {node n : VmNode}
    (h : n ∈ replaceNode tag node nodes) : n = node ∨ n ∈ nodes := by
  induction nodes with
  | nil => exact .inr h
  | cons m nodes ih =>
    rw [replaceNode] at h
    split at h
    · rcases List.mem_cons.mp h with rfl | h
      · exact .inl rfl
      · exact .inr (List.mem_cons_of_mem m h)
    · rcases List.mem_cons.mp h with rfl | h
      · exact .inr List.mem_cons_self
      · exact (ih h).imp_right (List.mem_cons_of_mem m)

theorem intFields_replaceNode {tag : ByteString} {node : VmNode} (hnode : node.IntFields)
    (hnodes : IntNodes nodes) : IntNodes (replaceNode tag node nodes) := by
  intro n hn
  rcases mem_of_mem_replaceNode hn with rfl | hn
  · exact hnode
  · exact hnodes n hn

theorem intFields_concat {node : VmNode} (hnode : node.IntFields)
    (hnodes : IntNodes nodes) : IntNodes (nodes ++ [node]) := by
  rw [IntNodes, List.forall_mem_append, List.forall_mem_singleton]
  exact ⟨hnodes, hnode⟩

theorem intFields_of_decode {vmessLink : ByteString} {node : VmNode}
    (h : decode lib vmessLink = .ok (.ok node)) : node.IntFields := by
  rw [decode_eq] at h
  split_ifs at h
  · cases h
  · cases h
  · split at h
    · cases h
    · obtain ⟨n, hn, hok⟩ := Json.map_eq_ok.mp h
      obtain rfl := Except.ok.inj hok
      exact intFields_nodeOfJson hn

/-- One edit, whatever its save answers. -/
theorem intFields_execute {isV5Core : Bool} (answer : Outcome Unit) {e : Edit} (he : e.IntFields)
    (h : IntNodes nodes) :
    IntNodes ((transaction lib isV5Core answer e).execute nodes).1 := by
  apply Transaction.execute_induction (I := IntNodes) h
  intro a nodes' u hcheck hchange
  cases e with
  | addNode node =>
    obtain ⟨rfl, -, -⟩ := checkNode_eq_ok hcheck
    obtain ⟨rfl, rfl⟩ := Prod.mk.inj (Except.ok.inj hchange)
    exact ⟨intFields_concat he h, fun n hn ↦
      intFields_concat he h n (List.mem_of_mem_dropLast hn)⟩
  | updateNode oldTag node =>
    obtain ⟨rfl, -, -⟩ := checkNode_eq_ok hcheck
    obtain ⟨backup, pre, post, rfl, -, -, rfl, rfl⟩ := changeNode_eq_ok hchange
    have hbackup : backup.IntFields := h backup (List.mem_append_right pre List.mem_cons_self)
    exact ⟨intFields_replaceNode he h, intFields_replaceNode hbackup (intFields_replaceNode he h)⟩
  | removeNode tag =>
    obtain ⟨backup, pre, post, rfl, -, -, rfl, rfl⟩ := changeNode_eq_ok hchange
    have hbackup : backup.IntFields := h backup (List.mem_append_right pre List.mem_cons_self)
    have herased : IntNodes ((pre ++ backup :: post).eraseP (·.tag = tag)) :=
      fun n hn ↦ h n (List.mem_of_mem_eraseP hn)
    exact ⟨herased, intFields_concat hbackup herased⟩
  | importFromLink vmessLink =>
    obtain ⟨node, hdecode, rfl, -⟩ := checkLink_eq_ok hcheck
    obtain ⟨rfl, rfl⟩ := Prod.mk.inj (Except.ok.inj hchange)
    have htagged : (tagged nodes isV5Core node).IntFields :=
      ⟨(intFields_of_decode hdecode).alterId, (intFields_of_decode hdecode).kcpCfg⟩
    refine ⟨intFields_concat htagged h, fun n hn ↦ ?_⟩
    change n ∈ dropTagged (tagged nodes isV5Core node) (nodes ++ [_]) at hn
    rw [dropTagged_concat] at hn
    exact h n hn

theorem IntStore.edit (lib : LinkLibrary) (h : IntStore s) {e : Edit} (he : e.IntFields) :
    IntStore (s.edit lib disk e).2 := by
  have hnodes : (s.edit lib disk e).2.nodes = (executed lib disk s e).1 := by
    rw [edit_eq_execute]
  rw [IntStore, hnodes]
  exact intFields_execute _ he h

/-- Moving a node does not touch its numbers. -/
theorem intFields_movedFrom {n : VmNode} (h : n.IntFields) : (movedFrom n).IntFields where
  alterId := h.alterId
  kcpCfg := ⟨h.kcpCfg.mtu, h.kcpCfg.tti, h.kcpCfg.uplinkCapacity, h.kcpCfg.downlinkCapacity⟩

theorem intFields_pickNodes {tags : List ByteString} (h : IntNodes nodes) :
    IntNodes (pickNodes tags nodes).1 ∧ IntNodes (pickNodes tags nodes).2 := by
  induction tags generalizing nodes with
  | nil => exact ⟨fun n hn ↦ absurd hn List.not_mem_nil, h⟩
  | cons tag tags ih =>
    rw [pickNodes]
    split
    · exact ih h
    · rename_i n hn
      have hn : n.IntFields := h n (List.mem_of_find?_eq_some hn)
      obtain ⟨hpicked, hrest⟩ := ih (intFields_replaceNode (intFields_movedFrom hn) h)
      exact ⟨List.forall_mem_cons.mpr ⟨hn, hpicked⟩, hrest⟩

theorem intFields_appendMissing {reordered rest : List VmNode}
    (hreordered : IntNodes reordered) (hrest : IntNodes rest) :
    IntNodes (appendMissing reordered rest) := by
  induction rest generalizing reordered with
  | nil => exact hreordered
  | cons n rest ih =>
    rw [IntNodes, List.forall_mem_cons] at hrest
    rw [appendMissing]
    split
    · exact ih hreordered hrest.2
    · exact ih (intFields_concat hrest.1 hreordered) hrest.2

theorem IntStore.reorderNodes (h : IntStore s) (orderedTags : List ByteString) :
    IntStore (s.reorderNodes orderedTags).2 :=
  intFields_appendMissing (intFields_pickNodes h).1 (intFields_pickNodes h).2

end NodeStore

end LanProxyGateway
