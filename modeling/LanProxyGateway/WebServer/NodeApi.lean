import LanProxyGateway.V2raynManager.NodeJson
import LanProxyGateway.V2raynManager.NodeViews

/-!
# The node endpoints

The handlers of `api_router` behind `/api/v2rayn/vmess` that change nodes or read links, once their
guards have let the request through. A handler answers with a text that it has ready, with a value
that it writes out as JSON, or with what an operation of the node manager left in `error_msg`. An
exception is answered with `bad_request` where the handler catches it.

The parser is that of the link codec.
-/

open Foundation ByteString

namespace LanProxyGateway

/-- The answer of a handler. -/
inductive NodeReply
  | fixed (code : ℕ) (body : ByteString)
  /-- `resp.dump()`. -/
  | value (j : Json)
  /-- `error_msg` inside of the body. -/
  | errorMsg (code : ℕ) (errorMsg : ByteString)
  /-- An exception that leaves the handler. -/
  | thrown (e : CxxException)

/-- `"{\"error\":\"" + error_msg + "\"}"`. -/
def errorBody (errorMsg : ByteString) : ByteString :=
  ofString "\x7b\"error\":\"" ++ errorMsg ++ ofString "\"\x7d"

/-- What `res.write` is given. -/
def NodeReply.body (dump : Json → ByteString) : NodeReply → Option ByteString
  | .fixed _ body => some body
  | .value j => some (dump j)
  | .errorMsg _ msg => some (errorBody msg)
  | .thrown _ => none

inductive NodeRequest
  | postNodes (body : ByteString)
  | putNode (oldTag body : ByteString)
  | deleteNode (tag : ByteString)
  | postApply (body : ByteString)
  | postActive (body : ByteString)
  | postParse (body : ByteString)
  | postImport (body : ByteString)

namespace NodeStore

open VmLinkCodec

/-! ## Reading the request -/

/-- `json_to_node` of the parsed body, `none` where one of the two throws. -/
def readNode (lib : LinkLibrary) (body : ByteString) : Option VmNode :=
  (lib.parse body).toOption.bind fun j ↦ (jsonToNode j).toOption

/-- `body.value(key, "")` of the parsed body, `none` where one of the two throws. -/
def readString (lib : LinkLibrary) (key : String) (body : ByteString) : Option ByteString :=
  (lib.parse body).toOption.bind (Json.value Json.getString key [])

/-! ## Answering -/

def badRequest : NodeReply := .fixed 400 (errorBody (ofString "bad_request"))

def okReply : NodeReply := .fixed 200 (ofString "\x7b\"ok\":true\x7d")

/-- `res.write(resp.dump())`, which throws where a string is not UTF-8. -/
def dumped (fields : List (String × Json)) : NodeReply :=
  if (Json.ofFields fields).isSerializable then .value (.ofFields fields) else .thrown .typeError

/-- `catch (...)`. -/
def caught : NodeReply × NodeStore → NodeReply × NodeStore
  | (.thrown _, s) => (badRequest, s)
  | reply => reply

/-- What is answered when an operation has ended. -/
def answer {α : Type} (code : ℕ) (onDone : α → NodeStore → NodeReply) :
    Outcome α × NodeStore → NodeReply × NodeStore
  | (.done result, s) => (onDone result s, s)
  | (.failed errorMsg, s) => (.errorMsg code errorMsg, s)
  | (.thrown e, s) => (.thrown e, s)

/-! ## The handlers -/

def postNodes (lib : LinkLibrary) (disk : DiskAnswer) (body : ByteString) (s : NodeStore) :
    NodeReply × NodeStore :=
  match readNode lib body with
  | none => (badRequest, s)
  | some node =>
    caught (answer 400 (fun _ _ ↦ dumped [("ok", .boolean true), ("tag", .string node.tag)])
      (s.addNode disk node))

def putNode (lib : LinkLibrary) (disk : DiskAnswer) (oldTag body : ByteString) (s : NodeStore) :
    NodeReply × NodeStore :=
  match readNode lib body with
  | none => (badRequest, s)
  | some node => caught (answer 400 (fun _ _ ↦ okReply) (s.updateNode disk oldTag node))

/-- There is no `catch` here. -/
def deleteNode (disk : DiskAnswer) (tag : ByteString) (s : NodeStore) : NodeReply × NodeStore :=
  answer 400 (fun _ _ ↦ okReply) (s.removeNode disk tag)

/-- `apply_config` and what is answered to it. -/
def apply (disk : DiskAnswer) (s : NodeStore) : NodeReply × NodeStore :=
  answer 500 (fun _ s' ↦ dumped [("ok", .boolean true), ("active_node", .string s'.activeNodeTag)])
    (s.applyConfig disk)

/-- `set_active_node`, and `apply_config` where it succeeds. -/
def activate (disk : DiskAnswer) (tag : ByteString) (s : NodeStore) : NodeReply × NodeStore :=
  match s.setActiveNode tag with
  | (.failed errorMsg, s') => (.errorMsg 400 errorMsg, s')
  | (_, s') => s'.apply disk

/-- A body that cannot be read is as good as none, and what `apply_config` throws is not caught. -/
def postApply (lib : LinkLibrary) (disk : DiskAnswer) (body : ByteString) (s : NodeStore) :
    NodeReply × NodeStore :=
  let nodeTag := (readString lib "node_tag" body).getD []
  if nodeTag = [] then s.apply disk else s.activate disk nodeTag

def postActive (lib : LinkLibrary) (disk : DiskAnswer) (body : ByteString) (s : NodeStore) :
    NodeReply × NodeStore :=
  match readString lib "node_tag" body with
  | none => (badRequest, s)
  | some nodeTag =>
    if nodeTag = [] then (.fixed 400 (errorBody (ofString "node_tag不能为空")), s)
    else caught (s.activate disk nodeTag)

def postParse (lib : LinkLibrary) (body : ByteString) (s : NodeStore) : NodeReply × NodeStore :=
  match readString lib "vmess_link" body with
  | none => (badRequest, s)
  | some link =>
    if link = [] then (.fixed 400 (errorBody (ofString "链接不能为空")), s)
    else
      match decode lib link with
      | .error _ => (badRequest, s)
      | .ok (.error errorMsg) => (.errorMsg 400 errorMsg, s)
      | .ok (.ok node) =>
        caught (dumped [("ok", .boolean true), ("node", nodeToJson node false)], s)

def postImport (lib : LinkLibrary) (disk : DiskAnswer) (body : ByteString) (s : NodeStore) :
    NodeReply × NodeStore :=
  match readString lib "vmess_link" body with
  | none => (badRequest, s)
  | some link =>
    if link = [] then (.fixed 400 (errorBody (ofString "链接不能为空")), s)
    else
      caught (answer 400 (fun node _ ↦
        dumped [("ok", .boolean true), ("node", nodeToJson node false)])
        (s.importFromLink lib disk link))

/-- The handler of a request. -/
def serve (lib : LinkLibrary) (disk : DiskAnswer) (s : NodeStore) :
    NodeRequest → NodeReply × NodeStore
  | .postNodes body => s.postNodes lib disk body
  | .putNode oldTag body => s.putNode lib disk oldTag body
  | .deleteNode tag => s.deleteNode disk tag
  | .postApply body => s.postApply lib disk body
  | .postActive body => s.postActive lib disk body
  | .postParse body => s.postParse lib body
  | .postImport body => s.postImport lib disk body

end NodeStore

end LanProxyGateway
