import LanProxyGateway.Concurrency.Scheduling
import LanProxyGateway.RouteDecision.RuleManager
import LanProxyGateway.V2raynManager.V2raynProcess
import LanProxyGateway.WebServer.Login
import LanProxyGateway.WebServer.NodeApi
import LanProxyGateway.WebServer.Settings
import LanProxyGateway.WebServer.Tokens
import LanProxyGateway.WebServer.Visibility

/-!
# The whole of the HTTP interface

All requests of `api_router` that change something, over one state: the configuration, the users,
the routing rules, the nodes with their health and their balancer, the v2ray child, and the records
of the login. A handler begins with its guard; what it does behind it is put together from the
models of the single subsystems. Of the requests that only read, those for the nodes are here.

A body is parsed by its handler. An exception that no handler catches is the value of the request;
what had been changed by then stays.
-/

open Foundation ByteString

namespace LanProxyGateway

open AuthCheck

/-- The libraries behind the handlers, and the key of the tokens. -/
structure WebLibrary extends LinkWriter where
  secret : ByteString
  /-- `HMAC-SHA256` of some data under a key. -/
  hmacSha256 : ByteString → ByteString → ByteString
  hash : HashLibrary
  std : PrioritySort

namespace WebLibrary

/-- `nlohmann::json::parse`, `none` where it throws. -/
def parsed (lib : WebLibrary) (body : ByteString) : Option Json := (lib.parse body).toOption

/-- The tokens, some seconds after the epoch. -/
def tokens (lib : WebLibrary) (now : Int) : TokenWriter where
  secret := lib.secret
  hmacSha256 := lib.hmacSha256
  parse := lib.parsed
  now := now
  dump := lib.dump

end WebLibrary

/-- What one request finds outside. -/
structure Outside where
  /-- Seconds since the epoch. -/
  now : Int
  salt : ByteString := []
  saveAnswer : UserManager.SaveAnswer := {}
  rulesAnswer : RuleManager.SaveAnswer := {}
  disk : DiskAnswer := {}
  auditOpens : Bool := true
  fork : Option ℕ := none

/-- What the handlers work on. -/
structure Backend where
  console : Console := {}
  logins : LoginRecords := {}
  scheduler : Scheduler := {}
  host : Host := {}
  /-- The files with routing rules, by their paths. -/
  ruleFiles : ByteString → FileContent := fun _ ↦ .absent

/-- The requests, with what is in their paths and bodies. -/
inductive ApiCall
  | postLogin (body : ByteString)
  | postLogout
  | postUsers (body : ByteString)
  | putUser (username body : ByteString)
  | deleteUser (username : ByteString)
  | postRules (body : ByteString)
  | postRulesReload
  | postV2raynStart
  | postV2raynStop
  | postV2raynRestart
  | putV2raynConfig (body : ByteString)
  | putSettings (body : ByteString)
  | node (request : NodeRequest)
  | putNodesReorder (body : ByteString)
  | view (endpoint : NodeEndpoint)
  | putSchedule (body : ByteString)
  | putIpAffinity (body : ByteString)
  | putNodeWeight (tag body : ByteString)
  | postHealthCheck

/-- What a handler answers, or the exception that leaves it. -/
abbrev Answer := Except CxxException Response

namespace Response

def ok : Response := { body := .text (ofString "\x7b\"ok\":true\x7d") }

/-- An error with a fixed text. -/
def error (code : ℕ) (text : String) : Response :=
  { code := code, body := .text (errorBody (ofString text)) }

/-- What the guard writes. -/
def ofRefusal (r : Refusal) : Response := { code := r.code, body := .text r.body }

def ofApiReply : ApiReply → Response
  | .ok => ok
  | .saved needRestart =>
    { body := .json (.ofFields [("ok", .boolean true), ("need_restart", .boolean needRestart)]) }
  | .badRequest => error 400 "bad_request"

end Response

def NodeReply.answer : NodeReply → Answer
  | .fixed code body => .ok { code := code, body := .text body }
  | .value j => .ok { body := .json j }
  | .errorMsg code msg => .ok { code := code, body := .text (errorBody msg) }
  | .thrown e => .error e

/-- The answer to a login that brings no token. -/
def LoginResponse.response (r : LoginResponse) : Response :=
  match r with
  | .loggedIn _ _ | .badRequest => .error 400 "bad_request"
  | .invalidCredentials => .error 401 "invalid_credentials"
  | .accountDisabled => .error 403 "account_disabled"
  | .accountExpired => .error 403 "account_expired"
  | .locked remaining => {
      code := 429
      body := .text (ofString "\x7b\"error\":\"locked\",\"remaining\":" ++
        intToDecimal remaining ++ ofString "\x7d") }

namespace Backend

variable (lib : WebLibrary) (o : Outside)

/-! ## Logging in -/

/-- How a login ends, and the records behind it. -/
def login (s : Backend) (body : ByteString) : LoginResponse × LoginRecords :=
  s.logins.login ⟨o.now, lib.hash, s.console.loader.config, s.console.users⟩ (lib.parsed body)

/-- The token that a login brings, with its role. The tokens of a login last for half an hour. -/
def grant (s : Backend) (body : ByteString) : Option (ByteString × ByteString) :=
  match (s.login lib o body).1 with
  | .loggedIn username role =>
    match JwtUtil.sign (lib.tokens o.now) username role 30 with
    | .ok token => some (token, role)
    | .error _ => none
  | _ => none

/-- `POST /api/auth/login`. -/
def postLogin (s : Backend) (body : ByteString) : Answer × Backend :=
  let t := { s with logins := (s.login lib o body).2 }
  match (s.login lib o body).1, s.grant lib o body with
  | .loggedIn username role, some (token, _) =>
    (.ok { body := .json (.ofFields [("token", .string token), ("username", .string username),
      ("role", .string role)]) }, t)
  | r, _ => (.ok r.response, t)

/-! ## Users -/

/-- The name, the password and the days in the body of `POST /api/users`. -/
def newAccount (body : ByteString) : Option (ByteString × ByteString × Int) := do
  let j ← lib.parsed body
  let username ← Json.value Json.getString "username" [] j
  let password ← Json.value Json.getString "password" [] j
  let days ← Json.value Json.getInt "days" 0 j
  some (username, password, days)

/-- `POST /api/users`. -/
def postUsers (s : Backend) (body : ByteString) : Answer × Backend :=
  match newAccount lib body with
  | none => (.ok (.error 400 "bad_request"), s)
  | some (username, password, days) =>
    match s.console.users.addUser lib.hash o.salt o.now username password days with
    | (false, _) => (.ok (.error 409 "username_exists"), s)
    | (true, users) =>
      let s := { s with console := { s.console with users := users } }
      match users.save o.saveAnswer s.console.usersFile with
      | .error _ => (.ok (.error 400 "bad_request"), s)
      | .ok (_, file) =>
        let s := { s with console := { s.console with usersFile := file } }
        -- the entry for the audit log throws for a name that is not UTF-8
        if o.auditOpens && !decide (Utf8 username) then (.ok (.error 400 "bad_request"), s)
        else (.ok .ok, s)

/-- `PUT /api/users/<name>`. -/
def putUser (s : Backend) (username body : ByteString) : Answer × Backend :=
  let r := s.console.putUser ⟨lib.hash, o.salt, o.saveAnswer, o.auditOpens⟩ username
    (lib.parsed body)
  (.ok (.ofApiReply r.2), { s with console := r.1 })

/-- `DELETE /api/users/<name>`. There is no `catch` here. -/
def deleteUser (s : Backend) (username : ByteString) : Answer × Backend :=
  match s.console.users.removeUser username with
  | (false, _) => (.ok (.error 404 "not_found"), s)
  | (true, users) =>
    let s := { s with console := { s.console with users := users } }
    match users.save o.saveAnswer s.console.usersFile with
    | .error e => (.error e, s)
    | .ok (_, file) =>
      let s := { s with console := { s.console with usersFile := file } }
      if o.auditOpens && !decide (Utf8 username) then (.error .typeError, s) else (.ok .ok, s)

/-! ## Rules -/

/-- `POST /api/rules`. The rule in a body is read as one of a file is. -/
def postRules (s : Backend) (body : ByteString) : Answer × Backend :=
  match (lib.parsed body).bind (RouteEngine.parseRule false) with
  | none => (.ok (.error 400 "bad_request"), s)
  | some rule =>
    let path := s.console.loader.config.customRulesPath
    let rules := (RuleManager.addRule lib.std path o.rulesAnswer
      ⟨s.console.router, s.ruleFiles path⟩ rule).2
    (.ok .ok, { s with
      console := { s.console with router := rules.engine }
      ruleFiles := Function.update s.ruleFiles path rules.customFile })

/-- `POST /api/rules/reload`. -/
def postRulesReload (s : Backend) : Answer × Backend :=
  (.ok .ok, { s with
    console := { s.console with router := s.console.router.reloadRules s.ruleFiles } })

/-! ## v2ray -/

/-- `POST /api/v2rayn/start`. -/
def postV2raynStart (s : Backend) : Answer × Backend :=
  let cfg := s.console.loader.config
  let logPath := cfg.logFilePath ++ ofString "v2rayn.log"
  let host := s.host.start cfg.v2raynExecutablePath cfg.v2raynConfigPath logPath o.fork
  (.ok .ok, { s with host := host })

/-- `v2rayn_config::save`. -/
def saveV2raynConfig (store : NodeStore) (config : Json) : Except CxxException NodeStore :=
  if !o.disk.opensTmp then .ok store
  else if !config.isSerializable then .error .typeError
  else .ok (if o.disk.renames then { store with config := .json config } else store)

/-- The nodes are changed, and nothing else. -/
def withStore (s : Backend) (store : NodeStore) : Backend :=
  { s with scheduler := { s.scheduler with store := store } }

/-- `PUT /api/v2rayn/config`. Nobody asks whether the file was written. -/
def putV2raynConfig (s : Backend) (body : ByteString) : Answer × Backend :=
  match lib.parsed body with
  | none => (.ok (.error 400 "bad_request"), s)
  | some config =>
    if !NodeStore.validateConfig config then (.ok (.error 400 "invalid_config"), s)
    else
      match saveV2raynConfig o s.scheduler.store config with
      | .error _ => (.ok (.error 400 "bad_request"), s)
      | .ok store => (.ok .ok, s.withStore store)

/-- `PUT /api/settings`. -/
def putSettings (s : Backend) (body : ByteString) : Answer × Backend :=
  let r := s.console.putSettings o.saveAnswer (lib.parsed body)
  (.ok (.ofApiReply r.2), { s with console := r.1 })

/-! ## Nodes -/

/-- The node that `set_active_node` and `apply_config` are called for, if they are, with an empty
tag where only the latter is. -/
def appliedTag : NodeRequest → Option ByteString
  | .postApply body => some ((NodeStore.readString lib.toLinkLibrary "node_tag" body).getD [])
  | .postActive body =>
    (NodeStore.readString lib.toLinkLibrary "node_tag" body).filter (fun tag ↦ decide (tag ≠ []))
  | _ => none

/-- `set_active_node` has succeeded, if it was called, and then `apply_config`. -/
def isApplied (store : NodeStore) (r : NodeRequest) : Bool :=
  match appliedTag lib r with
  | none => false
  | some tag =>
    if tag = [] then (store.applyConfig o.disk).1.isDone
    else (store.setActiveNode tag).1.isDone &&
      ((store.setActiveNode tag).2.applyConfig o.disk).1.isDone

/-- The request to the manager of which the health checker and the balancer are told. -/
def toldRequest : NodeRequest → Option NodeStore.Request
  | .postNodes body => (NodeStore.readNode lib.toLinkLibrary body).map .addNode
  | .deleteNode tag => some (.removeNode tag)
  | _ => none

/-- What a request for the nodes does elsewhere. -/
def afterNode (s : Backend) (store : NodeStore) (r : NodeRequest) : Backend :=
  let s := match toldRequest lib r with
    | some request =>
      if Scheduler.isTold o.disk store request then
        { s with scheduler := s.scheduler.afterRequest request }
      else s
    | none => s
  if isApplied lib o store r then { s with host := s.host.restart o.fork } else s

/-- The handlers of `/api/v2rayn/vmess` that change nodes or read links. -/
def node (s : Backend) (r : NodeRequest) : Answer × Backend :=
  let reply := s.scheduler.store.serve lib.toLinkLibrary o.disk r
  (reply.1.answer, (s.withStore reply.2).afterNode lib o s.scheduler.store r)

/-- `body["ordered_tags"]` and the loop over it: what is no array or object is its own only
element. -/
def orderedTags (body : Json) : Option (List ByteString) :=
  let items : Json → List Json := fun v ↦
    match v with
    | .array js => js
    | .object ms => ms.map Prod.snd
    | .null => []
    | j => [j]
  match body with
  | .object _ => ((body.member? (ofString "ordered_tags")).elim [] items).mapM Json.getString
  | .null => some []
  | _ => none

/-- `PUT /api/v2rayn/vmess/nodes/reorder`. -/
def putNodesReorder (s : Backend) (body : ByteString) : Answer × Backend :=
  match (lib.parsed body).bind orderedTags with
  | none => (.ok (.error 400 "bad_request"), s)
  | some tags => (.ok .ok, s.withStore (s.scheduler.store.reorderNodes tags).2)

/-! ## Scheduling -/

/-- The balancer is changed, and nothing else. -/
def withBalancer (s : Backend) (balancer : NodeBalancer) : Backend :=
  { s with scheduler := { s.scheduler with balancer := balancer } }

/-- `PUT /api/concurrency/schedule`. -/
def putSchedule (s : Backend) (body : ByteString) : Answer × Backend :=
  match lib.parsed body with
  | none => (.ok (.error 400 "bad_request"), s)
  | some j =>
    match j.member? (ofString "strategy") with
    | none => (.ok (.error 400 "missing strategy"), s)
    | some v =>
      match v.getString with
      | none => (.ok (.error 400 "bad_request"), s)
      | some name =>
        (.ok .ok, s.withBalancer { s.scheduler.balancer with strategy := .fromString name })

/-- `PUT /api/concurrency/ip-affinity`. -/
def putIpAffinity (s : Backend) (body : ByteString) : Answer × Backend :=
  match lib.parsed body with
  | none => (.ok (.error 400 "bad_request"), s)
  | some j =>
    match j.member? (ofString "enabled") with
    | none => (.ok .ok, s)
    | some v =>
      match v.getBool with
      | none => (.ok (.error 400 "bad_request"), s)
      | some enabled =>
        (.ok .ok, s.withBalancer { s.scheduler.balancer with ipAffinityEnabled := enabled })

/-- `PUT /api/concurrency/node-weight/<tag>`. -/
def putNodeWeight (s : Backend) (tag body : ByteString) : Answer × Backend :=
  match lib.parsed body with
  | none => (.ok (.error 400 "bad_request"), s)
  | some j =>
    match j.member? (ofString "weight") with
    | none => (.ok (.error 400 "missing weight"), s)
    | some v =>
      match v.getInt with
      | none => (.ok (.error 400 "bad_request"), s)
      | some weight =>
        if weight < 1 ∨ 100 < weight then (.ok (.error 400 "weight must be 1-100"), s)
        else (.ok .ok, s.withBalancer (s.scheduler.balancer.setNodeWeight tag weight))

/-- `POST /api/concurrency/health/check`. -/
def postHealthCheck (s : Backend) : Answer × Backend :=
  (.ok { body := .text (ofString "\x7b\"ok\":true,\"message\":\"health check triggered\"\x7d") },
    { s with scheduler := s.scheduler.store.nodes.foldl (fun t n ↦ t.checkNow n.tag) s.scheduler })

/-! ## The handlers with their guards -/

/-- A handler, past its guard. A logout leaves an entry in the audit log and nothing else. -/
def handle (s : Backend) : ApiCall → Answer × Backend
  | .postLogin body => s.postLogin lib o body
  | .postLogout => (.ok .ok, s)
  | .postUsers body => s.postUsers lib o body
  | .putUser username body => s.putUser lib o username body
  | .deleteUser username => s.deleteUser o username
  | .postRules body => s.postRules lib o body
  | .postRulesReload => s.postRulesReload
  | .postV2raynStart => s.postV2raynStart o
  | .postV2raynStop => (.ok .ok, { s with host := s.host.stop })
  | .postV2raynRestart => (.ok .ok, { s with host := s.host.restart o.fork })
  | .putV2raynConfig body => s.putV2raynConfig lib o body
  | .putSettings body => s.putSettings lib o body
  | .node r => s.node lib o r
  | .putNodesReorder body => s.putNodesReorder lib body
  | .view endpoint => (endpoint.handle lib.toLinkWriter s.scheduler.store, s)
  | .putSchedule body => s.putSchedule lib body
  | .putIpAffinity body => s.putIpAffinity lib body
  | .putNodeWeight tag body => s.putNodeWeight lib tag body
  | .postHealthCheck => s.postHealthCheck

end Backend

/-- The guard that a handler starts with. -/
def ApiCall.guard : ApiCall → Option Guard
  | .postLogin _ => none
  | .postLogout => some .auth
  | .node (.postParse _) => some .auth
  | .view endpoint => some endpoint.guard
  | _ => some .admin

namespace Backend

/-- The answer to a request, and what is left behind. -/
def respond (lib : WebLibrary) (o : Outside) (req : Request) (s : Backend) (call : ApiCall) :
    Answer × Backend :=
  match call.guard with
  | none => s.handle lib o call
  | some g =>
    match g.check (lib.tokens o.now).toJwtUtil req with
    | .error refusal => (.ok (.ofRefusal refusal), s)
    | .ok () => s.handle lib o call

end Backend

/-- A request, and what it finds. -/
structure ApiEvent where
  outside : Outside
  request : Request
  call : ApiCall

/-- The state behind the interface, and the tokens that have been handed out, with their roles. -/
structure Panel where
  backend : Backend := {}
  issued : List (ByteString × ByteString) := []

namespace Panel

/-- The token that an event brings. -/
def brought (lib : WebLibrary) (s : Panel) (e : ApiEvent) : Option (ByteString × ByteString) :=
  match e.call with
  | .postLogin body => s.backend.grant lib e.outside body
  | _ => none

def step (lib : WebLibrary) (s : Panel) (e : ApiEvent) : Except Empty Panel :=
  .ok ⟨(s.backend.respond lib e.outside e.request e.call).2,
    s.issued ++ (s.brought lib e).toList⟩

end Panel

end LanProxyGateway
