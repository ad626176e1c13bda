import LanProxyGateway.Foundation.JsonPath
import LanProxyGateway.V2raynManager.LinkCodec
import LanProxyGateway.V2raynManager.NodeViews
import LanProxyGateway.WebServer.AuthMiddleware

/-!
# What a user sees of the nodes

The handlers that answer with nodes or with the configuration file, and change neither. Two stores
that hold the same but for the hidden part of the user ids (`AlikeStores`) are told apart by none of
them, for a user who is not an administrator, except by the one that answers with a single node: it
takes the node as `get_node` returns it, and asks `node_to_json` for no masking either. So it gives
the same answer exactly when the two nodes have the same id (`respond_eq_iff`).

The text of an answer is `dump` of a JSON value, which is kept here in place of its text; `dump`
throws where a string is not UTF-8.
-/

open Foundation ByteString

namespace LanProxyGateway

/-! ## The handlers -/

inductive NodeEndpoint
  /-- `GET /api/v2rayn/vmess/nodes`. -/
  | nodes
  /-- `GET /api/v2rayn/vmess/nodes/<tag>`. -/
  | node (tag : ByteString)
  /-- `GET /api/v2rayn/vmess/active`. -/
  | activeNode
  /-- `GET /api/v2rayn/config`. -/
  | config
  /-- `POST /api/v2rayn/vmess/parse`, with the parsed body, if it parses. -/
  | parse (body : Option Json)
  /-- `POST /api/v2rayn/vmess/export/<tag>`. -/
  | exportLink (tag : ByteString)

/-- What is written as the body of a response. -/
inductive ResponseBody
  | text (s : ByteString)
  | json (j : Json)

structure Response where
  code : ℕ := 200
  body : ResponseBody

namespace Response

/-- `res.write(j.dump())`. -/
def write (j : Json) : Except CxxException Response :=
  if j.isSerializable then .ok { body := .json j } else .error .typeError

def notFound : Response :=
  { code := 404, body := .text (ofString "\x7b\"error\":\"not_found\"\x7d") }

/-- A complaint, put between quotes as it is. -/
def badRequest (error : ByteString) : Response :=
  { code := 400, body := .text (ofString "\x7b\"error\":\"" ++ error ++ ofString "\"\x7d") }

end Response

/-- The check that a guard stands for. -/
def AuthCheck.Guard.check : AuthCheck.Guard → JwtUtil → Request → Except Refusal Unit
  | .auth => requireAuth
  | .admin => requireAdmin

namespace NodeEndpoint

/-- The guard a handler starts with. -/
def guard : NodeEndpoint → AuthCheck.Guard
  | exportLink _ => .admin
  | _ => .auth

/-- What the handler of the links answers, where nothing throws. -/
def parseLink (lib : LinkWriter) (body : Option Json) : Except CxxException Response := do
  let body ← Json.orThrow body
  let link ← VmLinkCodec.stringValue "vmess_link" [] body
  if link = [] then .ok (.badRequest (ofString "链接不能为空"))
  else
    match ← VmLinkCodec.decode lib.toLinkLibrary link with
    | .ok n =>
      Response.write (.ofFields [("ok", .boolean true), ("node", NodeStore.nodeToJson n false)])
    | .error errorMsg => .ok (.badRequest errorMsg)

/-- The handlers, past their guards. -/
def handle (lib : LinkWriter) (s : NodeStore) : NodeEndpoint → Except CxxException Response
  | nodes => Response.write (.ofFields [
      ("nodes", .array ((s.listNodes true).map fun n ↦ NodeStore.nodeToJson n false)),
      ("active_node", .string s.activeNodeTag)])
  | node tag =>
    match s.getNode tag with
    | none => .ok .notFound
    | some n => Response.write (NodeStore.nodeToJson n false)
  | activeNode => Response.write (.ofFields [("active_node", .string s.activeNodeTag)])
  | config => Response.write (V2raynConfig.desensitize (NodeStore.readConfig s.config))
  | parse body =>
    -- `catch (...)`
    match parseLink lib body with
    | .ok response => .ok response
    | .error _ => .ok (.badRequest (ofString "bad_request"))
  | exportLink tag =>
    match s.getNode tag with
    | none => .ok .notFound
    | some n => do
      let link ← VmLinkCodec.encode lib n
      Response.write (.ofFields [("vmess_link", .string link)])

/-- The response to a request. -/
def respond (lib : LinkWriter) (jwt : JwtUtil) (req : Request) (s : NodeStore) (e : NodeEndpoint) :
    Except CxxException Response :=
  match e.guard.check jwt req with
  | .error refusal => .ok { code := refusal.code, body := .text refusal.body }
  | .ok () => e.handle lib s

end NodeEndpoint

/-! ## What is hidden -/

/-- Two ids of at least eight characters that agree in the first four and in the last four. -/
structure HiddenAlike (a b : ByteString) : Prop where
  length_eq : a.length = b.length
  eight_le : 8 ≤ a.length
  first_four : a.take 4 = b.take 4
  last_four : a.drop (a.length - 4) = b.drop (b.length - 4)

/-- The strings of a node. -/
def VmNode.strings (n : VmNode) : List ByteString :=
  [n.tag, n.address, n.userId, n.security, n.network, n.tls, n.remark, n.tcpCfg.headerType,
    n.wsCfg.path, n.wsCfg.host, n.h2Cfg.path, n.quicCfg.security, n.quicCfg.key,
    n.quicCfg.headerType, n.kcpCfg.headerType, n.tlsCfg.serverName] ++ n.h2Cfg.host

/-- Two nodes that are the same but for the hidden part of the id. -/
structure AlikeNodes (n m : VmNode) : Prop where
  eq_with : m = { n with userId := m.userId }
  userId : n.userId = m.userId ∨ HiddenAlike n.userId m.userId

/-- Where the ids of the users of the nodes stand in a configuration. -/
def userIdPath : List Json.Place :=
  [.member "outbounds", .items, .member "settings", .member "vnext", .items,
    .member "users", .items,
    .member "id"]

/-- Two ids as they stand in a configuration. -/
def HiddenAlikeJson (j j' : Json) : Prop :=
  ∃ a b, j = .string a ∧ j' = .string b ∧ HiddenAlike a b

/-- Two configuration files that are the same but for the hidden parts of the ids in them. -/
def AlikeFiles (c c' : FileContent) : Prop :=
  c = c' ∨ ∃ j j', c = .json j ∧ c' = .json j' ∧ Json.DiffersAt HiddenAlikeJson userIdPath j j'

/-- Two stores, each with its configuration file, that are the same but for the hidden parts of the
ids. -/
structure AlikeStores (s s' : NodeStore) : Prop where
  nodes : List.Forall₂ AlikeNodes s.nodes s'.nodes
  activeNodeTag : s.activeNodeTag = s'.activeNodeTag
  config : AlikeFiles s.config s'.config

/-! ## What the masks do -/

theorem HiddenAlike.desensitizeUuid_eq {a b : ByteString} (h : HiddenAlike a b) :
    NodeStore.desensitizeUuid a = NodeStore.desensitizeUuid b := by
  have ha : ¬a.length < 8 := not_lt.mpr h.eight_le
  have hb : ¬b.length < 8 := h.length_eq ▸ ha
  rw [NodeStore.desensitizeUuid, NodeStore.desensitizeUuid, if_neg ha, if_neg hb, h.first_four,
    h.last_four]

theorem AlikeNodes.tag_eq {n m : VmNode} (h : AlikeNodes n m) : n.tag = m.tag := by
  rw [h.eq_with]

theorem AlikeNodes.eq_of_userId {n m : VmNode} (h : AlikeNodes n m) (hid : n.userId = m.userId) :
    n = m := by
  rw [h.eq_with, ← hid]

theorem AlikeNodes.masked_eq {n m : VmNode} (h : AlikeNodes n m) :
    { n with userId := NodeStore.desensitizeUuid n.userId } =
      { m with userId := NodeStore.desensitizeUuid m.userId } := by
  have hmask : NodeStore.desensitizeUuid n.userId = NodeStore.desensitizeUuid m.userId := by
    rcases h.userId with heq | halike
    · rw [heq]
    · exact halike.desensitizeUuid_eq
  rw [h.eq_with, hmask]

namespace AlikeStores

variable {s s' : NodeStore} {nodes nodes' : List VmNode}

theorem map_masked_eq (h : List.Forall₂ AlikeNodes nodes nodes') :
    nodes.map (fun n ↦ { n with userId := NodeStore.desensitizeUuid n.userId }) =
      nodes'.map fun n ↦ { n with userId := NodeStore.desensitizeUuid n.userId } := by
  induction h with
  | nil => rfl
  | cons hnode _ ih => rw [List.map_cons, List.map_cons, hnode.masked_eq, ih]

theorem find?_tag (h : List.Forall₂ AlikeNodes nodes nodes') (tag : ByteString) :
    (nodes.find? (·.tag = tag) = none ∧ nodes'.find? (·.tag = tag) = none) ∨
      ∃ n m, nodes.find? (·.tag = tag) = some n ∧ nodes'.find? (·.tag = tag) = some m ∧
        AlikeNodes n m := by
  induction h with
  | nil => exact .inl ⟨rfl, rfl⟩
  | @cons n m _ _ hnode _ ih =>
    by_cases htag : n.tag = tag
    · have htag' : m.tag = tag := hnode.tag_eq ▸ htag
      rw [List.find?_cons_of_pos (by simpa using htag),
        List.find?_cons_of_pos (by simpa using htag')]
      exact .inr ⟨n, m, rfl, rfl, hnode⟩
    · have htag' : m.tag ≠ tag := hnode.tag_eq ▸ htag
      rwa [List.find?_cons_of_neg (by simpa using htag),
        List.find?_cons_of_neg (by simpa using htag')]

theorem listNodes_eq (h : AlikeStores s s') : s.listNodes true = s'.listNodes true := by
  rw [NodeStore.listNodes, NodeStore.listNodes, if_pos rfl, if_pos rfl]
  exact map_masked_eq h.nodes

/-- Either store has a node under a tag, and the two are alike, or neither has one. -/
theorem getNode (h : AlikeStores s s') (tag : ByteString) :
    (s.getNode tag = none ∧ s'.getNode tag = none) ∨
      ∃ n m, s.getNode tag = some n ∧ s'.getNode tag = some m ∧ AlikeNodes n m :=
  find?_tag h.nodes tag

end AlikeStores

namespace V2raynConfig

/-- A configuration is shown without what stands in the places of the ids. -/
theorem desensitize_eq {R : Json → Json → Prop} {j j' : Json}
    (h : Json.DiffersAt R userIdPath j j') :
    desensitize j = desensitize j' := by
  -- from the ids up to the outbounds, one step of the path after the other
  have huser : ∀ u u', Json.DiffersAt R [.member "id"] u u' →
      u.overMember "id" (fun _ ↦ true) hidden = u'.overMember "id" (fun _ ↦ true) hidden :=
    fun u u' hu ↦ Json.overMember_eq hu (fun _ _ _ ↦ ⟨rfl, rfl⟩) (fun _ _ _ ↦ rfl)
  have hserver : ∀ v v', Json.DiffersAt R [.member "users", .items, .member "id"] v v' →
      hideIds v = hideIds v' := by
    intro v v' hv
    exact Json.overMember_eq hv (fun _ _ ↦ Json.isArray_of_differsAt)
      fun _ _ husers ↦ Json.overItems_eq husers huser
  have hsettings : ∀ t t', Json.DiffersAt R
      [.member "vnext", .items, .member "users", .items, .member "id"] t t' →
      hideSettings t = hideSettings t' := by
    intro t t' ht
    rw [hideSettings, hideSettings, Json.overMember_eq ht (fun _ _ ↦ Json.isArray_of_differsAt)
      fun _ _ hservers ↦ Json.overItems_eq hservers hserver]
  refine Json.overMember_eq h (fun _ _ ↦ Json.isArray_of_differsAt) fun _ _ houtbounds ↦
    Json.overItems_eq houtbounds fun _ _ houtbound ↦ ?_
  exact Json.overMember_eq houtbound (fun _ _ ↦ Json.isObject_of_differsAt) hsettings

end V2raynConfig

theorem AlikeFiles.desensitize_eq {c c' : FileContent} (h : AlikeFiles c c') :
    V2raynConfig.desensitize (NodeStore.readConfig c) =
      V2raynConfig.desensitize (NodeStore.readConfig c') := by
  rcases h with rfl | ⟨j, j', rfl, rfl, hdiffers⟩
  · rfl
  · exact V2raynConfig.desensitize_eq hdiffers

/-! ## The guards, for a user -/

namespace AuthCheck

variable {jwt : JwtUtil} {req : Request}

theorem verify_of_getRole {token role : ByteString} (hrole : jwt.getRole token = role)
    (hne : role ≠ []) : jwt.verify token = true := by
  by_contra hnot
  rw [Bool.not_eq_true] at hnot
  exact hne (hrole.symm.trans (JwtUtil.getRole_of_not_verify hnot))

theorem requireAuth_of_verify (h : jwt.verify (extractToken req) = true) :
    requireAuth jwt req = .ok () := by
  have hne : (extractToken req).isEmpty = false := by
    rcases htoken : extractToken req with _ | ⟨c, rest⟩
    · rw [htoken, JwtUtil.verify_nil] at h
      exact absurd h Bool.false_ne_true
    · rfl
  rw [requireAuth, hne, h]
  split <;> rfl

theorem requireAdmin_of_user (hrole : jwt.getRole (extractToken req) = ofString "user") :
    requireAdmin jwt req = .error ⟨403, ofString "\x7b\"error\":\"admin_required\"\x7d"⟩ := by
  have hadmin : jwt.getRole (extractToken req) ≠ ofString "admin" := by
    rw [hrole]
    decide
  rw [requireAdmin, requireAuth_of_verify (verify_of_getRole hrole (by decide))]
  exact if_pos hadmin

end AuthCheck

/-! ## The same response -/

theorem Response.write_eq_iff {j j' : Json} :
    write j = write j' ↔ j = j' ∨ (¬j.isSerializable ∧ ¬j'.isSerializable) := by
  rw [write, write]
  constructor
  · intro h
    by_cases hj : j.isSerializable
    · by_cases hj' : j'.isSerializable
      · rw [if_pos hj, if_pos hj'] at h
        injection h with h
        injection h with _ h
        injection h with h
        exact .inl h
      · rw [if_pos hj, if_neg hj'] at h
        cases h
    · by_cases hj' : j'.isSerializable
      · rw [if_neg hj, if_pos hj'] at h
        cases h
      · exact .inr ⟨hj, hj'⟩
  · rintro (rfl | ⟨hj, hj'⟩)
    · rfl
    · rw [if_neg hj, if_neg hj']

/-- Without masking, the id of a node is read back from what is written of it. -/
theorem NodeStore.userId_of_nodeToJson {n m : VmNode}
    (h : nodeToJson n false = nodeToJson m false) : n.userId = m.userId := by
  have hid : ∀ n, (nodeToJson n false).member? (ofString "user_id") = some (.string n.userId) := by
    intro n
    rw [nodeToJson]
    simp
  have heq := hid n
  rw [h, hid m] at heq
  injection heq with heq
  injection heq with heq
  exact heq.symm

/-- A node is written out where all its strings are UTF-8. -/
theorem NodeStore.isSerializable_nodeToJson_iff {n : VmNode} :
    (nodeToJson n false).isSerializable ↔ ∀ s ∈ n.strings, Utf8 s := by
  have hhosts : (∀ j ∈ n.h2Cfg.host.map Json.string, j.isSerializable = true) ↔
      ∀ s ∈ n.h2Cfg.host, Utf8 s := by
    rw [List.forall_mem_map]
    exact forall₂_congr fun s _ ↦ Json.isSerializable_string s
  have hinteger : ∀ i, (Json.integer i).isSerializable = true := fun _ ↦ rfl
  have hboolean : ∀ b, (Json.boolean b).isSerializable = true := fun _ ↦ rfl
  rw [nodeToJson, Json.isSerializable_ofFields_iff (by simp only [List.map_cons]; decide)]
  simp (disch := simp only [List.map_cons]; decide) only [Json.isSerializable_ofFields_iff,
    VmNode.strings, List.forall_mem_append, List.forall_mem_cons, Json.isSerializable_string,
    Json.isSerializable_array, hhosts, hinteger, hboolean, Bool.false_eq_true, if_false, true_and]
  tauto

namespace NodeEndpoint

variable {lib : LinkWriter} {jwt : JwtUtil} {req : Request} {s s' : NodeStore} {e : NodeEndpoint}

theorem respond_of_auth (hverify : jwt.verify (AuthCheck.extractToken req) = true)
    (he : e.guard = .auth) : e.respond lib jwt req s = e.handle lib s := by
  rw [respond, he, AuthCheck.Guard.check, AuthCheck.requireAuth_of_verify hverify]

/-- The node that a store has under a tag has the same id in both stores, or one of its strings is
not UTF-8, in either store. -/
def SameNode (s s' : NodeStore) (tag : ByteString) : Prop :=
  ∀ n ∈ s.getNode tag, ∀ m ∈ s'.getNode tag, n.userId = m.userId ∨
    ((∃ t ∈ n.strings, ¬Utf8 t) ∧ ∃ t ∈ m.strings, ¬Utf8 t)

/-- A single node is answered without any masking. -/
theorem handle_node_eq_iff (h : AlikeStores s s') (tag : ByteString) :
    handle lib s (.node tag) = handle lib s' (.node tag) ↔ SameNode s s' tag := by
  rw [handle, handle, SameNode]
  rcases h.getNode tag with ⟨hs, hs'⟩ | ⟨n, m, hs, hs', halike⟩
  · rw [hs, hs']
    exact iff_of_true rfl fun n hn ↦ absurd hn (Option.not_mem_none n)
  · rw [hs, hs']
    simp only [Option.mem_some_iff, forall_eq']
    rw [Response.write_eq_iff, NodeStore.isSerializable_nodeToJson_iff,
      NodeStore.isSerializable_nodeToJson_iff]
    simp only [not_forall, exists_prop]
    refine or_congr_left ⟨NodeStore.userId_of_nodeToJson, ?_⟩
    intro hid
    rw [halike.eq_of_userId hid]

theorem respond_eq_of_ne (hrole : jwt.getRole (AuthCheck.extractToken req) = ofString "user")
    (h : AlikeStores s s') (hne : ∀ tag, e ≠ .node tag) :
    e.respond lib jwt req s = e.respond lib jwt req s' := by
  have hverify := AuthCheck.verify_of_getRole hrole (by decide)
  cases e with
  | node tag => exact absurd rfl (hne tag)
  | nodes =>
    rw [respond_of_auth hverify rfl, respond_of_auth hverify rfl, handle, handle, h.listNodes_eq,
      h.activeNodeTag]
  | activeNode =>
    rw [respond_of_auth hverify rfl, respond_of_auth hverify rfl, handle, handle, h.activeNodeTag]
  | config =>
    rw [respond_of_auth hverify rfl, respond_of_auth hverify rfl, handle, handle,
      h.config.desensitize_eq]
  | parse body =>
    -- it reads the request only
    rw [respond_of_auth hverify rfl, respond_of_auth hverify rfl, handle, handle]
  | exportLink tag =>
    rw [respond, respond, guard, AuthCheck.Guard.check, AuthCheck.requireAdmin_of_user hrole]

/-- **What a user can tell apart.** The responses to a user who is not an administrator do not
depend on the hidden parts of the ids, except those with a single node. -/
theorem respond_eq_iff (lib : LinkWriter)
    (hrole : jwt.getRole (AuthCheck.extractToken req) = ofString "user") (h : AlikeStores s s')
    (e : NodeEndpoint) : e.respond lib jwt req s = e.respond lib jwt req s' ↔
      ∀ tag, e = .node tag → SameNode s s' tag := by
  by_cases hnode : ∃ tag, e = .node tag
  · obtain ⟨tag, rfl⟩ := hnode
    have hverify := AuthCheck.verify_of_getRole hrole (by decide)
    rw [respond_of_auth hverify rfl, respond_of_auth hverify rfl, handle_node_eq_iff h]
    constructor
    · rintro hsame _ ⟨⟩
      exact hsame
    · intro hsame
      exact hsame tag rfl
  · rw [not_exists] at hnode
    exact iff_of_true (respond_eq_of_ne hrole h hnode) fun tag he ↦ absurd he (hnode tag)

/-! ## A user and two stores -/

/-- A signature under the secret of thirty-two zeros, and the payload it is for. -/
def userJwt : JwtUtil where
  secret := ofString "00000000000000000000000000000000"
  hmacSha256 := fun _ _ ↦
    [174, 245, 140, 138, 59, 190, 160, 68, 162, 147, 246, 102, 60, 35, 26, 156,
    224, 236, 250, 215, 169, 43, 76, 188, 148, 191, 145, 109, 99, 18, 109, 251]
  parse := fun _ ↦ some
    (.ofFields [("exp", .integer 2000000000), ("role", .string (ofString "user")),
    ("username", .string (ofString "u"))])
  now := 1750000000

def userRequest : Request where
  url := ofString "/api/v2rayn/vmess/nodes"
  authorization := some (ofString ("Bearer eyJhbGciOiJIUzI1NiIsInR5cCI6IkpXVCJ9." ++
    "eyJleHAiOjIwMDAwMDAwMDAsInJvbGUiOiJ1c2VyIiwidXNlcm5hbWUiOiJ1In0." ++
    "rvWMiju+oESik/ZmPCManODs+tepK0y8lL+RbWMSbfs"))
  cookie := none

/-- A store with one node. -/
def oneNode (userId : String) : NodeStore where
  nodes := [{ tag := ofString "a", address := ofString "a.example", userId := ofString userId }]
  activeNodeTag := ofString "a"

theorem getRole_userRequest :
    userJwt.getRole (AuthCheck.extractToken userRequest) = ofString "user" := by
  decide +kernel

theorem alikeStores_oneNode {a b : String} (h : HiddenAlike (ofString a) (ofString b)) :
    AlikeStores (oneNode a) (oneNode b) where
  nodes := .cons ⟨rfl, .inr h⟩ .nil
  activeNodeTag := rfl
  config := .inl rfl

theorem hiddenAlike_ids : HiddenAlike (ofString "0d1c52f4-3b4e-4c2a-9d8b-6f1e2a3b4c5d")
    (ofString "0d1c52f4-3b4e-4c2a-9d8b-7f1e2a3b4c5d") :=
  ⟨by decide, by decide, by decide, by decide⟩

/-- The library of a run in which no link is read or written. -/
def unusedLibrary : LinkWriter where
  decodeBlock _ := none
  parse _ := .error []
  dump _ := []

/-- In the list of the nodes the difference does not show. -/
theorem respond_nodes_eq :
    respond unusedLibrary userJwt userRequest (oneNode "0d1c52f4-3b4e-4c2a-9d8b-6f1e2a3b4c5d")
        .nodes =
      respond unusedLibrary userJwt userRequest (oneNode "0d1c52f4-3b4e-4c2a-9d8b-7f1e2a3b4c5d")
        .nodes :=
  (respond_eq_iff unusedLibrary getRole_userRequest (alikeStores_oneNode hiddenAlike_ids)
    .nodes).mpr nofun

/-- In the answer with the one node it does. -/
theorem respond_node_ne :
    userJwt.getRole (AuthCheck.extractToken userRequest) = ofString "user" ∧
      AlikeStores (oneNode "0d1c52f4-3b4e-4c2a-9d8b-6f1e2a3b4c5d")
        (oneNode "0d1c52f4-3b4e-4c2a-9d8b-7f1e2a3b4c5d") ∧
      ∀ lib : LinkWriter,
        respond lib userJwt userRequest (oneNode "0d1c52f4-3b4e-4c2a-9d8b-6f1e2a3b4c5d")
            (.node (ofString "a")) ≠
          respond lib userJwt userRequest (oneNode "0d1c52f4-3b4e-4c2a-9d8b-7f1e2a3b4c5d")
            (.node (ofString "a")) := by
  have halike := alikeStores_oneNode hiddenAlike_ids
  refine ⟨getRole_userRequest, halike, ?_⟩
  intro lib
  have hverify := AuthCheck.verify_of_getRole getRole_userRequest (by decide)
  rw [respond_of_auth hverify rfl, respond_of_auth hverify rfl, Ne, handle_node_eq_iff halike]
  intro hsame
  rcases hsame _ rfl _ rfl with hid | hnot
  · exact absurd (ofString_inj.mp hid) (by decide)
  · exact absurd hnot.1 (by decide +kernel)

end NodeEndpoint

end LanProxyGateway
