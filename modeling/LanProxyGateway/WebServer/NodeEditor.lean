import LanProxyGateway.V2raynManager.NodeNumbers
import LanProxyGateway.V2raynManager.OutboundCodec
import LanProxyGateway.WebServer.Privilege

/-!
# Editing a node in the web interface

The editor asks for a node, shows it, and sends all of it back under the tag it was asked for.
`node_to_json` writes every field of a node and `json_to_node` reads every field, so a node that
comes back as it went out is the same node, if its numbers are `int`s, as they are in every store
that was loaded from a file and has served requests since. The update then finds the tag taken by
nobody else, replaces the node by itself, and saves the list as it is.

The list of all nodes shows masked ids. A node that is sent back with such an id is refused, since
it is too short for an id.
-/

open Foundation ByteString

namespace LanProxyGateway

namespace NodeStore

open VmConfigBuilder VmNodeValidator VmLinkCodec

variable {s t : NodeStore} {node : VmNode} {lib : LinkLibrary} {disk : DiskAnswer}
  {tag body : ByteString}

/-! ## A node written and read -/

@[simp] theorem jsonToTcp_ofFields (cfg : VmNode.TcpConfig) :
    jsonToTcp (.ofFields [("header_type", .string cfg.headerType)]) = .ok cfg := by
  simp [jsonToTcp]

@[simp] theorem jsonToWs_ofFields (cfg : VmNode.WsConfig) :
    jsonToWs (.ofFields [("path", .string cfg.path), ("host", .string cfg.host)]) = .ok cfg := by
  simp [jsonToWs]

@[simp] theorem jsonToH2_ofFields (cfg : VmNode.H2Config) :
    jsonToH2 (.ofFields [("path", .string cfg.path), ("host", .array (cfg.host.map .string))]) =
      .ok cfg := by
  simp [jsonToH2]

@[simp] theorem jsonToQuic_ofFields (cfg : VmNode.QuicConfig) :
    jsonToQuic (.ofFields [("security", .string cfg.security), ("key", .string cfg.key),
      ("header_type", .string cfg.headerType)]) = .ok cfg := by
  simp [jsonToQuic]

theorem jsonToKcp_ofFields {cfg : VmNode.KcpConfig} (h : cfg.IntFields) :
    jsonToKcp (.ofFields [("mtu", .integer cfg.mtu), ("tti", .integer cfg.tti),
      ("uplink_capacity", .integer cfg.uplinkCapacity),
      ("downlink_capacity", .integer cfg.downlinkCapacity),
      ("congestion", .boolean cfg.congestion), ("header_type", .string cfg.headerType)]) =
      .ok cfg := by
  simp [jsonToKcp, h.mtu, h.tti, h.uplinkCapacity, h.downlinkCapacity]

@[simp] theorem jsonToTls_ofFields (cfg : VmNode.TlsConfig) :
    jsonToTls (.ofFields [("allow_insecure", .boolean cfg.allowInsecure),
      ("server_name", .string cfg.serverName)]) = .ok cfg := by
  simp [jsonToTls]

/-- **The round trip of one node.** -/
theorem jsonToNode_nodeToJson (h : node.IntFields) :
    jsonToNode (nodeToJson node false) = .ok node := by
  rw [jsonToNode, nodeToJson]
  simp [readInto, jsonToKcp_ofFields h.kcpCfg, h.alterId, ofInt_castInt_port]

theorem readNode_of_parse (hbody : lib.parse body = .ok (nodeToJson node false))
    (h : node.IntFields) : readNode lib body = some node := by
  rw [readNode, hbody, Except.toOption, Option.bind_some, jsonToNode_nodeToJson h]
  rfl

theorem intFields_of_readNode (h : readNode lib body = some node) : node.IntFields := by
  obtain ⟨j, -, hj⟩ := Option.bind_eq_some_iff.mp h
  cases hnode : jsonToNode j with
  | error e =>
    rw [hnode] at hj
    cases hj
  | ok n =>
    rw [hnode] at hj
    obtain rfl := Option.some.inj hj
    exact intFields_jsonToNode hnode

/-! ## A node put back -/

theorem replaceNode_self {nodes : List VmNode} (h : nodes.find? (·.tag = tag) = some node) :
    replaceNode tag node nodes = nodes := by
  obtain ⟨htag, pre, post, rfl, hpre⟩ := exists_split_of_find h
  exact replaceNode_split node htag hpre

/-- Updating a node with itself is saving the list as it is, if the node is valid. -/
theorem updateNode_self (hnode : s.getNode tag = some node) :
    s.updateNode disk tag node =
      if validate node s.isV5Core = [] then s.saveToConfig disk
      else (.failed (validate node s.isV5Core), s) := by
  have htag : node.tag = tag := (exists_split_of_find hnode).1
  have hunique : s.isTagUnique node.tag tag = true := isTagUnique_iff.mpr fun _ _ _ ↦ htag
  rw [updateNode]
  by_cases hvalid : validate node s.isV5Core = []
  · rw [getNode] at hnode
    simp only [hvalid, hunique, hnode, replaceNode_self hnode, ne_eq, not_true_eq_false, if_false,
      Bool.not_true, Bool.false_eq_true, if_true]
    rcases hsave : saveToConfig disk s with ⟨o, s'⟩
    have hnodes : s'.nodes = s.nodes := nodes_of_saveToConfig hsave
    cases o with
    | failed errorMsg =>
      -- the roll back replaces the node by itself once more
      dsimp only
      rw [htag, hnodes, replaceNode_self hnode, ← hnodes]
    | _ => rfl
  · simp only [hvalid, ne_eq, not_false_eq_true, if_true, if_false]

@[simp] theorem snd_caught (reply : NodeReply × NodeStore) : (caught reply).2 = reply.2 := by
  obtain ⟨r, s⟩ := reply
  cases r <;> rfl

@[simp] theorem snd_answer {α : Type} (code : ℕ) (onDone : α → NodeStore → NodeReply)
    (reply : Outcome α × NodeStore) : (answer code onDone reply).2 = reply.2 := by
  obtain ⟨o, s⟩ := reply
  cases o <;> rfl

/-- The store after a body that is the node itself. -/
theorem putNode_self (disk : DiskAnswer) (hnode : s.getNode tag = some node)
    (hbody : readNode lib body = some node) :
    (s.putNode lib disk tag body).2.nodes = s.nodes ∧
      Framed s (s.putNode lib disk tag body).2 := by
  rw [putNode, hbody]
  simp only [snd_caught, snd_answer]
  refine ⟨?_, (framed_edit _ : Framed s (s.edit lib disk (.updateNode tag node)).2)⟩
  rw [updateNode_self hnode]
  split_ifs
  · exact nodes_of_saveToConfig rfl
  · rfl

theorem errorMsg_answer_ne_ok (errorMsg : ByteString) :
    (NodeReply.errorMsg 400 errorMsg).answer ≠ .ok .ok := by
  intro h
  have hcode : (400 : ℕ) = 200 := congrArg Response.code (Except.ok.inj h)
  omega

theorem badRequest_answer_ne_ok : badRequest.answer ≠ .ok .ok := by
  intro h
  have hcode : (400 : ℕ) = 200 := congrArg Response.code (Except.ok.inj h)
  omega

/-- The answer to it. -/
theorem answer_putNode_self (hnode : s.getNode tag = some node)
    (hbody : readNode lib body = some node) :
    (s.putNode lib disk tag body).1.answer = .ok .ok ↔
      validate node s.isV5Core = [] ∧ (s.saveToConfig disk).1.isDone = true := by
  rw [putNode, hbody]
  dsimp only
  rw [updateNode_self hnode]
  split_ifs with hvalid
  · rw [and_iff_right hvalid]
    rcases s.saveToConfig disk with ⟨o, s'⟩
    cases o with
    | done result => exact iff_of_true rfl rfl
    | failed errorMsg => exact iff_of_false (errorMsg_answer_ne_ok errorMsg) Bool.false_ne_true
    | thrown e => exact iff_of_false badRequest_answer_ne_ok Bool.false_ne_true
  · exact iff_of_false (errorMsg_answer_ne_ok _) fun h ↦ hvalid h.1

/-! ## Masked ids -/

theorem length_intercalate (c : UInt8) (part : ByteString) (parts : List ByteString) :
    (List.intercalate [c] (part :: parts)).length =
      part.length + ((parts.map List.length).map (1 + ·)).sum := by
  induction parts generalizing part with
  | nil => simp [List.intercalate]
  | cons next parts ih =>
    have hnext := ih next
    rw [List.intercalate] at hnext ⊢
    rw [List.intersperse_cons_cons, List.flatten_cons, List.flatten_cons, List.length_append,
      List.length_append, hnext, List.map_cons, List.map_cons, List.sum_cons,
      List.length_singleton]
    omega

theorem length_of_validateUuid {uuid : ByteString} (h : validateUuid uuid = []) :
    uuid.length = 36 := by
  obtain ⟨groups, hlength, -, rfl⟩ := validateUuid_eq_nil_iff.mp h
  obtain ⟨first, rest, rfl, hfirst, hrest⟩ := List.map_eq_cons_iff.mp hlength
  have hhyphen : ofString "-" = [45] := by decide
  rw [hhyphen, length_intercalate, hfirst, hrest]
  rfl

theorem length_desensitizeUuid_le (uuid : ByteString) : (desensitizeUuid uuid).length ≤ 12 := by
  rw [desensitizeUuid]
  split_ifs
  · decide
  · rw [List.length_append, List.length_append, List.length_take, List.length_drop]
    have hstars : (ofString "****").length = 4 := by decide
    omega

/-- A node that is shown in the list is not valid. -/
theorem validate_ne_nil_of_masked {uuid : ByteString} (hid : node.userId = desensitizeUuid uuid)
    (isV5Core : Bool) : validate node isV5Core ≠ [] := by
  intro hvalid
  have hlength := length_of_validateUuid (validate_eq_nil_iff.mp hvalid).uuid
  have hshort := length_desensitizeUuid_le uuid
  rw [hid] at hlength
  omega

theorem addNode_of_invalid (disk : DiskAnswer) (h : validate node s.isV5Core ≠ []) :
    s.addNode disk node = (.failed (validate node s.isV5Core), s) := by
  rw [addNode]
  exact if_pos h

theorem updateNode_of_invalid (disk : DiskAnswer) (h : validate node s.isV5Core ≠ []) :
    s.updateNode disk tag node = (.failed (validate node s.isV5Core), s) := by
  rw [updateNode]
  exact if_pos h

theorem mem_listNodes (hs : IntStore s) (h : node ∈ s.listNodes true) :
    node.IntFields ∧ ∃ uuid, node.userId = desensitizeUuid uuid := by
  rw [listNodes, if_pos rfl] at h
  obtain ⟨n, hn, rfl⟩ := List.mem_map.mp h
  exact ⟨⟨(hs n hn).alterId, (hs n hn).kcpCfg⟩, n.userId, rfl⟩

/-! ## The store over a run -/

theorem IntStore.of_nodes (h : IntStore s) (hnodes : t.nodes = s.nodes) : IntStore t := by
  rwa [IntStore, hnodes]

theorem IntStore.save (h : IntStore s) : IntStore (s.saveToConfig disk).2 :=
  h.of_nodes (nodes_of_saveToConfig rfl)

theorem IntStore.activate (h : IntStore s) : IntStore (s.activate disk tag).2 := by
  rw [NodeStore.activate, setActiveNode]
  by_cases htag : s.nodes.any (·.tag = tag) = true
  · rw [if_pos htag]
    dsimp only
    rw [NodeStore.apply, snd_answer]
    exact IntStore.save (s := { s with activeNodeTag := tag }) h
  · rw [if_neg htag]
    exact h

theorem IntStore.serve (h : IntStore s) (r : NodeRequest) :
    IntStore (s.serve lib disk r).2 := by
  cases r with
  | postNodes body =>
    rw [NodeStore.serve, postNodes]
    split
    · exact h
    · rename_i node hbody
      rw [snd_caught, snd_answer]
      exact h.edit lib (e := .addNode node) (intFields_of_readNode hbody)
  | putNode oldTag body =>
    rw [NodeStore.serve, putNode]
    split
    · exact h
    · rename_i node hbody
      rw [snd_caught, snd_answer]
      exact h.edit lib (e := .updateNode oldTag node) (intFields_of_readNode hbody)
  | deleteNode tag =>
    rw [NodeStore.serve, deleteNode, snd_answer]
    exact h.edit lib (e := .removeNode tag) trivial
  | postApply body =>
    rw [NodeStore.serve, postApply]
    split
    · rw [NodeStore.apply, snd_answer]
      exact h.save
    · exact h.activate
  | postActive body =>
    rw [NodeStore.serve, postActive]
    split
    · exact h
    · split
      · exact h
      · rw [snd_caught]
        exact h.activate
  | postParse body =>
    rw [NodeStore.serve, postParse]
    split
    · exact h
    · split
      · exact h
      · split
        · exact h
        · exact h
        · rw [snd_caught]
          exact h
  | postImport body =>
    rw [NodeStore.serve, postImport]
    split
    · exact h
    · split
      · exact h
      · rename_i link _ _
        rw [snd_caught, snd_answer]
        exact h.edit lib (e := .importFromLink link) trivial

end NodeStore

/-! ## Behind the interface -/

namespace Backend

variable {lib : WebLibrary} {o : Outside} {s : Backend} {tag body : ByteString}

/-- Saving a configuration or telling the others leaves the nodes alone. -/
theorem intStore_afterNode {store : NodeStore} (h : s.scheduler.store.IntStore) (r : NodeRequest) :
    (s.afterNode lib o store r).scheduler.store.IntStore := by
  have htold : ∀ request, (s.scheduler.afterRequest request).store.IntStore := by
    intro request
    rw [Scheduler.store_afterRequest]
    exact h
  simp only [afterNode]
  repeat' split
  · exact htold _
  · exact h
  · exact h
  · exact htold _
  · exact h
  · exact h

theorem store_foldl_checkNow (nodes : List VmNode) (s : Scheduler) :
    (nodes.foldl (fun t n ↦ t.checkNow n.tag) s).store = s.store := by
  induction nodes generalizing s with
  | nil => rfl
  | cons n nodes ih =>
    rw [List.foldl_cons, ih, Scheduler.checkNow]
    split <;> rfl

/-- One call. -/
theorem intStore_handle (h : s.scheduler.store.IntStore) (call : ApiCall) :
    (s.handle lib o call).2.scheduler.store.IntStore := by
  cases call with
  | node r => exact intStore_afterNode (NodeStore.IntStore.serve h r) r
  | putNodesReorder body =>
    rw [handle, putNodesReorder]
    split
    · exact h
    · exact NodeStore.IntStore.reorderNodes h _
  | postUsers body =>
    simp only [handle, postUsers]
    repeat' split
    all_goals exact h
  | deleteUser username =>
    simp only [handle, deleteUser]
    repeat' split
    all_goals exact h
  | postRules body =>
    simp only [handle, postRules]
    split <;> exact h
  | putSchedule body =>
    simp only [handle, putSchedule]
    repeat' split
    all_goals exact h
  | putIpAffinity body =>
    simp only [handle, putIpAffinity]
    repeat' split
    all_goals exact h
  | putNodeWeight tag body =>
    simp only [handle, putNodeWeight]
    repeat' split
    all_goals exact h
  | postHealthCheck =>
    rw [handle, postHealthCheck, store_foldl_checkNow]
    exact h
  | postLogin body =>
    have hsame : s.Untouched (s.postLogin lib o body).2 := s.postLogin_untouched body
    rw [handle, hsame]
    exact h
  | putV2raynConfig body =>
    simp only [handle, putV2raynConfig]
    split
    · exact h
    · split_ifs
      · exact h
      · split
        · exact h
        · rename_i store hstore
          rw [saveV2raynConfig] at hstore
          split_ifs at hstore
          all_goals
            obtain rfl := Except.ok.inj hstore
            exact h
  | _ => exact h

theorem intStore_respond (h : s.scheduler.store.IntStore) (req : Request) (call : ApiCall) :
    (s.respond lib o req call).2.scheduler.store.IntStore := by
  rw [respond]
  split
  · exact intStore_handle h call
  · split
    · exact h
    · exact intStore_handle h call

/-- A `PUT` of a node, past its guard. -/
def put (lib : WebLibrary) (o : Outside) (s : Backend) (tag body : ByteString) :
    Answer × Backend := s.handle lib o (.node (.putNode tag body))

theorem put_eq (tag body : ByteString) : s.put lib o tag body =
    ((s.scheduler.store.putNode lib.toLinkLibrary o.disk tag body).1.answer,
      s.withStore (s.scheduler.store.putNode lib.toLinkLibrary o.disk tag body).2) := rfl

/-- The node comes back as it went out: only the two files are written, and the answer says that
the node is valid and the files could be written. -/
structure PutsBack (lib : WebLibrary) (o : Outside) (s : Backend) (tag body : ByteString) :
    Prop where
  elsewhere : (s.put lib o tag body).2 = s.withStore (s.put lib o tag body).2.scheduler.store
  nodes : (s.put lib o tag body).2.scheduler.store.nodes = s.scheduler.store.nodes
  framed : NodeStore.Framed s.scheduler.store (s.put lib o tag body).2.scheduler.store
  accepted : (s.put lib o tag body).1 = .ok .ok ↔
    (∃ node, s.scheduler.store.getNode tag = some node ∧
      VmNodeValidator.validate node s.scheduler.store.isV5Core = []) ∧
    (s.scheduler.store.saveToConfig o.disk).1.isDone = true

/-- What `GET /api/v2rayn/vmess/nodes/<tag>` answers. -/
def Shows (lib : WebLibrary) (o : Outside) (s : Backend) (tag : ByteString) (j : Json) : Prop :=
  (s.handle lib o (.view (.node tag))).1 = .ok { body := .json j }

/-- One of the nodes in the answer to `GET /api/v2rayn/vmess/nodes`. -/
def Lists (lib : WebLibrary) (o : Outside) (s : Backend) (j : Json) : Prop :=
  ∃ answer shown, (s.handle lib o (.view .nodes)).1 = .ok { body := .json answer } ∧
    answer.member? (ofString "nodes") = some (.array shown) ∧ j ∈ shown

theorem exists_of_shows {j : Json} (h : s.Shows lib o tag j) :
    ∃ node, s.scheduler.store.getNode tag = some node ∧ j = NodeStore.nodeToJson node false := by
  rw [Shows, handle, NodeEndpoint.handle] at h
  cases hnode : s.scheduler.store.getNode tag with
  | none =>
    rw [hnode] at h
    have hcode : (404 : ℕ) = 200 := congrArg Response.code (Except.ok.inj h)
    omega
  | some node =>
    rw [hnode] at h
    dsimp only at h
    rw [Response.write] at h
    split at h
    · have hbody := congrArg Response.body (Except.ok.inj h)
      exact ⟨node, rfl, (ResponseBody.json.inj hbody).symm⟩
    · cases h

theorem exists_of_lists {j : Json} (h : s.Lists lib o j) :
    ∃ node ∈ s.scheduler.store.listNodes true, j = NodeStore.nodeToJson node false := by
  obtain ⟨answer, shown, h, hshown, hj⟩ := h
  rw [handle, NodeEndpoint.handle, Response.write] at h
  split at h
  · have hbody := congrArg Response.body (Except.ok.inj h)
    rw [← ResponseBody.json.inj hbody] at hshown
    simp only [Json.member?_ofFields_cons, if_true, Option.some.injEq, Json.array.injEq] at hshown
    rw [← hshown] at hj
    obtain ⟨node, hnode, rfl⟩ := List.mem_map.mp hj
    exact ⟨node, hnode, rfl⟩
  · cases h

theorem putsBack_of_shows (hs : s.scheduler.store.IntStore) {j : Json} (h : s.Shows lib o tag j)
    (hbody : lib.parse body = .ok j) : s.PutsBack lib o tag body := by
  obtain ⟨node, hnode, rfl⟩ := exists_of_shows h
  have hread := NodeStore.readNode_of_parse hbody (hs node (List.mem_of_find?_eq_some hnode))
  obtain ⟨hnodes, hframed⟩ := NodeStore.putNode_self o.disk hnode hread
  refine ⟨rfl, hnodes, hframed, ?_⟩
  rw [put_eq, NodeStore.answer_putNode_self hnode hread]
  refine and_congr_left fun _ ↦ ⟨fun hvalid ↦ ⟨node, hnode, hvalid⟩, ?_⟩
  rintro ⟨n, hn, hvalid⟩
  rw [hnode] at hn
  rwa [Option.some.inj hn]

/-- A masked node is sent back, as a new one or in the place of another. -/
theorem refused_of_lists (hs : s.scheduler.store.IntStore) {j : Json} (h : s.Lists lib o j)
    (hbody : lib.parse body = .ok j) (tag : ByteString) {r : NodeRequest}
    (hr : r = .postNodes body ∨ r = .putNode tag body) :
    ∃ error, s.handle lib o (.node r) = (.ok (.badRequest error), s) := by
  obtain ⟨node, hnode, rfl⟩ := exists_of_lists h
  obtain ⟨hint, uuid, hid⟩ := NodeStore.mem_listNodes hs hnode
  have hread := NodeStore.readNode_of_parse hbody hint
  have hinvalid := NodeStore.validate_ne_nil_of_masked hid s.scheduler.store.isV5Core
  refine ⟨VmNodeValidator.validate node s.scheduler.store.isV5Core, ?_⟩
  rcases hr with rfl | rfl
  · have hadd := NodeStore.addNode_of_invalid o.disk hinvalid
    have hserve : s.scheduler.store.serve lib.toLinkLibrary o.disk (.postNodes body) =
        (.errorMsg 400 (VmNodeValidator.validate node s.scheduler.store.isV5Core),
          s.scheduler.store) := by
      rw [NodeStore.serve, NodeStore.postNodes, hread]
      dsimp only
      rw [hadd]
      rfl
    rw [handle, Backend.node, hserve, afterNode, toldRequest, hread, Option.map_some]
    dsimp only
    rw [Scheduler.isTold, hadd]
    rfl
  · have hserve : s.scheduler.store.serve lib.toLinkLibrary o.disk (.putNode tag body) =
        (.errorMsg 400 (VmNodeValidator.validate node s.scheduler.store.isV5Core),
          s.scheduler.store) := by
      rw [NodeStore.serve, NodeStore.putNode, hread]
      dsimp only
      rw [NodeStore.updateNode_of_invalid _ hinvalid]
      rfl
    rw [handle, Backend.node, hserve]
    rfl

end Backend

namespace Panel

variable {lib : WebLibrary} {s t : Panel}

/-- **What the editor shows can be put back, what the list shows cannot.** -/
theorem edits_of_shown {stored : NodeStore} {remarks : Json} {es : List ApiEvent}
    (hload : NodeStore.loadFromConfig stored remarks = .ok s.backend.scheduler.store)
    (ht : run (step lib) s es = .ok t) (o : Outside) (tag body : ByteString) {j : Json}
    (hbody : lib.parse body = .ok j) :
    (t.backend.Shows lib o tag j → t.backend.PutsBack lib o tag body) ∧
    (t.backend.Lists lib o j → ∀ r, r = .postNodes body ∨ r = .putNode tag body →
      ∃ error, t.backend.handle lib o (.node r) = (.ok (.badRequest error), t.backend)) := by
  have hint : t.backend.scheduler.store.IntStore := by
    refine run_induction (I := fun s ↦ s.backend.scheduler.store.IntStore)
      (C := fun _ _ ↦ True) ?_ (NodeStore.intStore_of_load hload) along_true ht
    intro s e t h _ hstep
    obtain rfl := Except.ok.inj hstep
    exact Backend.intStore_respond h e.request e.call
  exact ⟨fun hshows ↦ Backend.putsBack_of_shows hint hshows hbody,
    fun hlists r hr ↦ Backend.refused_of_lists hint hlists hbody tag hr⟩

/-! ## The second of two nodes -/

/-- The text of a node of `twoNodeStore`, with the id of its user. -/
def nodeText (tag userId : String) : ByteString := ofString
  ("\x7b\"address\":\"1.1.1.1\",\"alter_id\":0,\"h2_config\":\x7b\"host\":[],\"path\":\"/\"\x7d,"
  ++ "\"kcp_config\":\x7b\"congestion\":false,\"downlink_capacity\":20,\"header_type\":\"none\","
  ++ "\"mtu\":1350,\"tti\":20,\"uplink_capacity\":5\x7d,\"network\":\"tcp\",\"port\":443,"
  ++ "\"quic_config\":\x7b\"header_type\":\"none\",\"key\":\"\",\"security\":\"none\"\x7d,"
  ++ "\"remark\":\"\",\"security\":\"auto\",\"tag\":\"" ++ tag ++ "\","
  ++ "\"tcp_config\":\x7b\"header_type\":\"none\"\x7d,\"tls\":\"none\","
  ++ "\"tls_config\":\x7b\"allow_insecure\":false,\"server_name\":\"\"\x7d,"
  ++ "\"user_id\":\"" ++ userId ++ "\",\"ws_config\":\x7b\"host\":\"\",\"path\":\"/\"\x7d\x7d")

/-- The second node as it is shown, and as it is listed. -/
def shownText : ByteString := nodeText "vmess-2" "01234567-89ab-cdef-0123-456789abcdef"

def listedText : ByteString := nodeText "vmess-2" "0123****cdef"

def listedNode : VmNode :=
  { NodeStore.vmessNode "vmess-2" with userId := ofString "0123****cdef" }

/-- What is read in these two texts. -/
def editorParse (s : ByteString) : Except ByteString Json :=
  if s = shownText then .ok (NodeStore.nodeToJson (NodeStore.vmessNode "vmess-2") false)
  else if s = listedText then .ok (NodeStore.nodeToJson listedNode false)
  else .error []

def editorLibrary : WebLibrary where
  toLinkWriter := { aliceLibrary.toLinkWriter with parse := editorParse }
  secret := aliceLibrary.secret
  hmacSha256 := aliceLibrary.hmacSha256
  hash := aliceLibrary.hash
  std := aliceLibrary.std

theorem parse_editorLibrary : editorLibrary.parse = editorParse := rfl

theorem parse_shownText : editorLibrary.parse shownText =
    .ok (NodeStore.nodeToJson (NodeStore.vmessNode "vmess-2") false) := by
  rw [parse_editorLibrary, editorParse, if_pos rfl]

theorem parse_listedText :
    editorLibrary.parse listedText = .ok (NodeStore.nodeToJson listedNode false) := by
  have hdifferent : listedText ≠ shownText := by decide +kernel
  rw [parse_editorLibrary, editorParse, if_neg hdifferent, if_pos rfl]

def editorPanel : Panel where
  backend := { scheduler := { store := NodeStore.twoNodeStore } }

def viewed : ApiEvent where
  outside := { now := 1750000000 }
  request := ⟨ofString "/api/v2rayn/vmess/nodes/vmess-2", none, none⟩
  call := .view (.node (ofString "vmess-2"))

theorem run_viewed : run (step editorLibrary) editorPanel [viewed] = .ok editorPanel := by
  have hsame : (editorPanel.backend.respond editorLibrary viewed.outside viewed.request
      viewed.call).2 = editorPanel.backend := by
    rw [Backend.respond]
    split
    · rfl
    · split
      · rfl
      · rfl
  have hstep : step editorLibrary editorPanel viewed = .ok editorPanel := by
    rw [step, hsame]
    rfl
  rw [run_cons, hstep]
  rfl

theorem shows_secondNode : editorPanel.backend.Shows editorLibrary viewed.outside
    (ofString "vmess-2") (NodeStore.nodeToJson (NodeStore.vmessNode "vmess-2") false) := by
  have hnode : NodeStore.twoNodeStore.getNode (ofString "vmess-2") =
      some (NodeStore.vmessNode "vmess-2") := by decide +kernel
  have hserial : (NodeStore.nodeToJson (NodeStore.vmessNode "vmess-2") false).isSerializable =
      true := by decide +kernel
  rw [Backend.Shows, Backend.handle, NodeEndpoint.handle, editorPanel]
  dsimp only
  rw [hnode]
  dsimp only
  rw [Response.write, if_pos hserial]

/-- The answer to `GET /api/v2rayn/vmess/nodes`. -/
def listedNodes : Json := .ofFields [
  ("nodes", .array ((NodeStore.twoNodeStore.listNodes true).map
    fun n ↦ NodeStore.nodeToJson n false)),
  ("active_node", .string NodeStore.twoNodeStore.activeNodeTag)]

theorem lists_secondNode : editorPanel.backend.Lists editorLibrary viewed.outside
    (NodeStore.nodeToJson listedNode false) := by
  have hlisted : listedNode ∈ NodeStore.twoNodeStore.listNodes true := by decide +kernel
  have hserial : listedNodes.isSerializable = true := by decide +kernel
  refine ⟨listedNodes, (NodeStore.twoNodeStore.listNodes true).map
    fun n ↦ NodeStore.nodeToJson n false, ?_, ?_, List.mem_map.mpr ⟨listedNode, hlisted, rfl⟩⟩
  · rw [Backend.handle, NodeEndpoint.handle, editorPanel]
    dsimp only
    rw [← listedNodes, Response.write, if_pos hserial]
  · rw [listedNodes, Json.member?_ofFields_cons, if_pos rfl]

/-- The editor saves the node that it was shown; the node from the list is refused as a new one. -/
theorem editorPanel_edits : editorPanel.backend.PutsBack editorLibrary viewed.outside
      (ofString "vmess-2") shownText ∧
    ∃ error, editorPanel.backend.handle editorLibrary viewed.outside
      (.node (.postNodes listedText)) = (.ok (.badRequest error), editorPanel.backend) := by
  have hedits := edits_of_shown NodeStore.loadFromConfig_twoNodeConfig run_viewed viewed.outside
    (ofString "vmess-2") shownText parse_shownText
  have hrefused := edits_of_shown NodeStore.loadFromConfig_twoNodeConfig run_viewed viewed.outside
    (ofString "vmess-2") listedText parse_listedText
  exact ⟨hedits.1 shows_secondNode, hrefused.2 lists_secondNode _ (.inl rfl)⟩

end Panel

end LanProxyGateway
