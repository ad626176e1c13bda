import LanProxyGateway.ConfigManager.ConfigFile
import LanProxyGateway.RouteDecision.RouteEngine

/-!
# Does a rejected change change nothing?

The configuration is changed by `PUT /api/settings`, by `PUT /api/users/<name>` and by
`config_loader::load`. All three go through the members of a JSON object one after another and
assign each as soon as it has been converted; a conversion that throws ends the request with 400, or
the load with `false`, and what has been assigned stays.

So a rejected change changes nothing exactly when everything that it assigned was there before
(`rejected_same_iff`).
-/

open Foundation ByteString

namespace LanProxyGateway

/-- What the three paths change, with the files behind it. -/
structure Console where
  loader : ConfigLoader := {}
  router : RouteEngine := {}
  users : UserManager := {}
  configFile : FileContent := .absent
  usersFile : FileContent := .absent

/-- The answers of the two handlers. -/
inductive ApiReply
  | ok
  | saved (needRestart : Bool)
  /-- Status 400. -/
  | badRequest
  deriving DecidableEq, Repr

namespace Console

/-! ## PUT /api/settings -/

/-- The fields up to the default action. -/
def earlySettings : List FieldAssignment := [
  .int "proxy_port" fun n c ↦ { c with proxyPort := n },
  .int "web_ui_port" fun n c ↦ { c with webUiPort := n },
  .string "default_route_action" fun s c ↦ { c with defaultRouteAction := s }]

/-- The fields behind it. -/
def lateSettings : List FieldAssignment := [
  .int "proxy_thread_count" fun n c ↦ { c with proxyThreadCount := n },
  .string "v2rayn_executable_path" fun s c ↦ { c with v2raynExecutablePath := s },
  .int "v2rayn_local_socks_port" fun n c ↦ { c with v2raynLocalSocksPort := n },
  .int "v2rayn_local_http_port" fun n c ↦ { c with v2raynLocalHttpPort := n }]

def settingsFields : List FieldAssignment := earlySettings ++ lateSettings

/-- `v != n` for a JSON value and an `int`. -/
def differs (v : Json) (n : Int) : Bool :=
  match v with
  | .integer m => decide (Json.castInt64 m ≠ n)
  | .float x => decide (x ≠ n)
  | _ => true

def needRestart (j : Json) (c : SystemConfig) : Bool :=
  (j.member? (ofString "proxy_port")).any (differs · c.proxyPort) ||
    (j.member? (ofString "web_ui_port")).any (differs · c.webUiPort)

def setConfig (s : Console) (c : SystemConfig) : Console :=
  { s with loader := { s.loader with config := c } }

/-- The handler of `PUT /api/settings`, behind its guard; there is no body where it is no JSON. -/
def putSettings (answer : UserManager.SaveAnswer) (s : Console) (body : Option Json) :
    Console × ApiReply :=
  match body with
  | none => (s, .badRequest)
  | some j =>
    let restart := needRestart j s.loader.config
    let early := assignFields j earlySettings s.loader.config
    if !early.2 then (s.setConfig early.1, .badRequest)
    else
      let router := if j.contains (ofString "default_route_action")
        then s.router.setDefaultAction early.1.defaultRouteAction else s.router
      let late := assignFields j lateSettings early.1
      let t := { s.setConfig late.1 with router := router }
      if !late.2 then (t, .badRequest)
      else
        match t.loader.save answer t.configFile with
        | .error _ => (t, .badRequest)
        | .ok (_, file) => ({ t with configFile := file }, .saved restart)

/-! ## PUT /api/users/<name> -/

/-- `if (body.contains(key)) f(body[key]);`, `none` where the conversion throws. -/
def memberUpdate {α : Type} (j : Json) (key : String) (convert : Json → Option α)
    (f : α → UserManager → UserManager) : Option (UserManager → UserManager) :=
  match j.member? (ofString key) with
  | none => some id
  | some v => (convert v).map f

def statusUpdate (j : Json) (username : ByteString) : Option (UserManager → UserManager) :=
  memberUpdate j "active" Json.getBool fun b m ↦ (m.setStatus username b).2

def passwordUpdate (lib : HashLibrary) (salt : ByteString) (j : Json) (username : ByteString) :
    Option (UserManager → UserManager) :=
  memberUpdate j "password" Json.getString fun p m ↦ (m.updatePassword lib salt username p).2

/-- What the handler finds outside: the library and the salt for a hash, the file system, and
whether the audit log can be opened. -/
structure Surroundings where
  lib : HashLibrary
  salt : ByteString
  answer : UserManager.SaveAnswer := {}
  auditOpens : Bool := true

/-- The handler of `PUT /api/users/<name>`, behind its guard. The entry for the audit log is written
out as JSON, which throws for a name that is not UTF-8. -/
def putUser (o : Surroundings) (s : Console) (username : ByteString) (body : Option Json) :
    Console × ApiReply :=
  match body with
  | none => (s, .badRequest)
  | some j =>
    match statusUpdate j username with
    | none => (s, .badRequest)
    | some setStatus =>
      let s := { s with users := setStatus s.users }
      match passwordUpdate o.lib o.salt j username with
      | none => (s, .badRequest)
      | some setPassword =>
        let s := { s with users := setPassword s.users }
        match s.users.save o.answer s.usersFile with
        | .error _ => (s, .badRequest)
        | .ok (_, file) =>
          let s := { s with usersFile := file }
          if o.auditOpens && !decide (Utf8 username) then (s, .badRequest) else (s, .ok)

/-! ## Rejected changes -/

/-- The configuration, the default action and the table of the users are as before. -/
structure Same (s t : Console) : Prop where
  config : t.loader.config = s.loader.config
  action : t.router.defaultAction = s.router.defaultAction
  users : ∀ name, t.users.users.lookup name = s.users.users.lookup name

/-- All settings convert, and the configuration that they make can be written out. -/
def AcceptsSettings (answer : UserManager.SaveAnswer) (s : Console) (j : Json) : Prop :=
  WellTyped j settingsFields ∧ ∃ r,
    (s.setConfig (assignFields j settingsFields s.loader.config).1).loader.save answer
      s.configFile = .ok r

/-- The settings in front of the first one that does not convert are in force already. -/
structure SettingsInForce (s : Console) (j : Json) : Prop where
  fields : ∀ f ∈ assignedFields j settingsFields, f.Agrees j s.loader.config
  action : WellTyped j earlySettings → ∀ v a, j.member? (ofString "default_route_action") = some v →
    v.getString = some a → RouteEngine.actionOfString a = s.router.defaultAction

/-- Both members of the account convert, and the table that they make and the entry for the audit
log can be written out. -/
def AcceptsUser (o : Surroundings) (s : Console) (username : ByteString) (j : Json) : Prop :=
  ∃ setStatus setPassword, statusUpdate j username = some setStatus ∧
    passwordUpdate o.lib o.salt j username = some setPassword ∧
    (∃ r, (setPassword (setStatus s.users)).save o.answer s.usersFile = .ok r) ∧
    (o.auditOpens = true → Utf8 username)

/-- The members of the account in front of the first one that does not convert are in force already.
There is nothing to do where there is no account. -/
structure UserInForce (o : Surroundings) (s : Console) (username : ByteString) (j : Json) :
    Prop where
  active : ∀ info v b, s.users.users.lookup username = some info →
    j.member? (ofString "active") = some v → v.getBool = some b → b = info.active
  password : (statusUpdate j username).isSome → ∀ info v p,
    s.users.users.lookup username = some info → j.member? (ofString "password") = some v →
    v.getString = some p → PasswordHasher.hash o.lib o.salt p = info.passwordHash

/-! ## What the settings come to -/

/-- The text of the default action after the early fields. -/
theorem defaultRouteAction_early {j : Json} {c : SystemConfig} (h : WellTyped j earlySettings)
    {v : Json} (hv : j.member? (ofString "default_route_action") = some v) :
    v.getString = some (assignFields j earlySettings c).1.defaultRouteAction := by
  simp only [WellTyped, earlySettings, List.forall_mem_cons] at h
  obtain ⟨hport, hweb, haction, -⟩ := h
  obtain ⟨f, hf⟩ := Option.isSome_iff_exists.mp hport
  obtain ⟨g, hg⟩ := Option.isSome_iff_exists.mp hweb
  obtain ⟨k, hk⟩ := Option.isSome_iff_exists.mp haction
  simp only [earlySettings, assignFields, hf, hg, hk]
  rw [FieldAssignment.update, FieldAssignment.string, hv] at hk
  obtain ⟨a, ha, rfl⟩ := Option.map_eq_some_iff.mp hk
  exact ha

/-- **What the handler leaves behind**, and when it answers with 400. -/
theorem putSettings_spec (answer : UserManager.SaveAnswer) (s : Console) (j : Json) :
    (s.putSettings answer (some j)).1.loader.config =
        (assignFields j settingsFields s.loader.config).1 ∧
      (s.putSettings answer (some j)).1.router =
        (if (assignFields j earlySettings s.loader.config).2 ∧
            j.contains (ofString "default_route_action")
          then s.router.setDefaultAction
            (assignFields j earlySettings s.loader.config).1.defaultRouteAction
          else s.router) ∧
      (s.putSettings answer (some j)).1.users = s.users ∧
      ((s.putSettings answer (some j)).2 = .badRequest ↔ ¬AcceptsSettings answer s j) := by
  -- the handler stops between the two lists to set the default action
  have happend := assignFields_append j earlySettings lateSettings s.loader.config
  have htyped := assignFields_snd j settingsFields s.loader.config
  rw [AcceptsSettings, ← htyped, putSettings]
  simp only [settingsFields] at happend ⊢
  rw [happend]
  rcases hearly : assignFields j earlySettings s.loader.config with ⟨c, _ | _⟩
  · simp [setConfig]
  · rcases hlate : assignFields j lateSettings c with ⟨d, _ | _⟩
    · simp [setConfig]
    · rcases hsave : ConfigLoader.save answer ⟨d, s.loader.configPath⟩ s.configFile with e | r
      · simp [setConfig, hsave]
      · simp [setConfig, hsave]

/-- The handler leaves nothing behind exactly when what it assigned was in force. -/
theorem putSettings_same_iff (answer : UserManager.SaveAnswer) (s : Console) (j : Json) :
    Same s (s.putSettings answer (some j)).1 ↔ SettingsInForce s j := by
  obtain ⟨hconfig, hrouter, husers, -⟩ := putSettings_spec answer s j
  have hapart : FieldsApart settingsFields := by
    apply fieldsApart_configFields.sublist
    repeat first
      | exact List.nil_sublist _
      | apply List.Sublist.cons_cons
      | apply List.Sublist.cons
  have hfields := assignFields_eq_self_iff hapart j s.loader.config
  have haction : (s.putSettings answer (some j)).1.router.defaultAction = s.router.defaultAction ↔
      (WellTyped j earlySettings → ∀ v a,
        j.member? (ofString "default_route_action") = some v → v.getString = some a →
          RouteEngine.actionOfString a = s.router.defaultAction) := by
    simp only [hrouter, assignFields_snd, Json.contains]
    -- the action is set only when the early fields have gone through, and then it is the new one
    by_cases hearly : WellTyped j earlySettings
    · rw [forall_prop_of_true hearly]
      rcases hm : j.member? (ofString "default_route_action") with _ | v
      · simp
      · have hv := defaultRouteAction_early (c := s.loader.config) hearly hm
        rw [Option.isSome_some, if_pos ⟨hearly, rfl⟩, RouteEngine.setDefaultAction]
        constructor
        · intro hsame v' a hv' ha
          rw [← Option.some.inj hv', hv] at ha
          rw [← Option.some.inj ha]
          exact hsame
        · intro hall
          exact hall v _ rfl hv
    · simp [hearly]
  constructor
  · intro h
    exact ⟨hfields.mp (hconfig ▸ h.config), haction.mp h.action⟩
  · intro h
    exact ⟨hconfig.trans (hfields.mpr h.fields), haction.mpr h.action, fun name ↦ by rw [husers]⟩

/-! ## What the change of an account comes to -/

/-- The step makes of the entry of one user what `f` says, and leaves the others alone. -/
def Modifies (username : ByteString) (f : UserInfo → UserInfo) (step : UserManager → UserManager) :
    Prop :=
  ∀ m name, (step m).users.lookup name =
    if name = username then (m.users.lookup name).map f else m.users.lookup name

theorem modifies_modifyUser (username : ByteString) (f : UserInfo → UserInfo) :
    Modifies username f fun m ↦ (m.modifyUser username f).2 := by
  intro m name
  simp only [UserManager.modifyUser]
  rcases hm : m.users.lookup username with _ | info
  · split_ifs with hname
    · rw [hname, hm, Option.map_none]
    · rfl
  · split_ifs with hname
    · rw [hname, AList.lookup_insert, hm, Option.map_some]
    · exact AList.lookup_insert_ne hname

theorem modifies_id (username : ByteString) : Modifies username id id := by
  intro m name
  split_ifs
  · rw [Option.map_id, id, id]
  · rfl

theorem Modifies.comp {username : ByteString} {f g : UserInfo → UserInfo}
    {step next : UserManager → UserManager} (hf : Modifies username f step)
    (hg : Modifies username g next) : Modifies username (g ∘ f) (next ∘ step) := by
  intro m name
  rw [Function.comp, hg, hf]
  split_ifs with hname
  · rw [Option.map_map]
  · rfl

/-- A step on the account changes nothing exactly when the account was so before. -/
theorem Modifies.same_iff {username : ByteString} {f : UserInfo → UserInfo}
    {step : UserManager → UserManager} (h : Modifies username f step) (m : UserManager) :
    (∀ name, (step m).users.lookup name = m.users.lookup name) ↔
      ∀ info, m.users.lookup username = some info → f info = info := by
  constructor
  · intro hsame info hinfo
    have hname := hsame username
    rw [h, if_pos rfl, hinfo, Option.map_some] at hname
    exact Option.some.inj hname
  · intro hfix name
    rw [h]
    split_ifs with hname
    · subst hname
      rcases hm : m.users.lookup name with _ | info
      · rfl
      · rw [Option.map_some, hfix info hm]
    · rfl

/-- A member that is absent makes nothing of the account; one that is there makes what it says. -/
theorem modifies_memberUpdate {α : Type} {j : Json} {key : String} {convert : Json → Option α}
    {g : α → UserInfo → UserInfo} {username : ByteString} {step : UserManager → UserManager}
    (h : memberUpdate j key convert (fun a m ↦ (m.modifyUser username (g a)).2) = some step) :
    ∃ f, Modifies username f step ∧ (f = id ∨ ∃ a, f = g a) ∧ ∀ info, f info = info ↔
      ∀ v a, j.member? (ofString key) = some v → convert v = some a → g a info = info := by
  rw [memberUpdate] at h
  rcases hm : j.member? (ofString key) with _ | v
  · rw [hm] at h
    rw [← Option.some.inj h]
    refine ⟨id, modifies_id username, .inl rfl, fun info ↦ iff_of_true rfl ?_⟩
    intro v a hv
    cases hv
  · rw [hm] at h
    obtain ⟨a, ha, rfl⟩ := Option.map_eq_some_iff.mp h
    refine ⟨g a, modifies_modifyUser username (g a), .inr ⟨a, rfl⟩, fun info ↦ ⟨?_, ?_⟩⟩
    · intro hsame v' a' hv' ha'
      rw [← Option.some.inj hv', ha] at ha'
      rw [← Option.some.inj ha']
      exact hsame
    · intro hall
      exact hall v a rfl ha

/-- The state of the account: it is all that is set. -/
theorem modifies_statusUpdate {j : Json} {username : ByteString}
    {step : UserManager → UserManager} (h : statusUpdate j username = some step) :
    ∃ f, Modifies username f step ∧
      (∀ info, (f info).active = info.active → f info = info) ∧
      ∀ info, f info = info ↔
        ∀ v b, j.member? (ofString "active") = some v → v.getBool = some b → b = info.active := by
  obtain ⟨f, hmod, hkind, hf⟩ := modifies_memberUpdate h
  refine ⟨f, hmod, fun info hactive ↦ ?_, fun info ↦ (hf info).trans ?_⟩
  · obtain rfl | ⟨b, rfl⟩ := hkind
    · rfl
    · subst hactive
      rfl
  · refine forall₄_congr fun v b _ _ ↦ ⟨congrArg UserInfo.active, ?_⟩
    rintro rfl
    rfl

/-- The password: its hash is set, and the state of the account stays. -/
theorem modifies_passwordUpdate {lib : HashLibrary} {salt : ByteString} {j : Json}
    {username : ByteString} {step : UserManager → UserManager}
    (h : passwordUpdate lib salt j username = some step) :
    ∃ f, Modifies username f step ∧ (∀ info, (f info).active = info.active) ∧
      ∀ info, f info = info ↔ ∀ v p, j.member? (ofString "password") = some v →
        v.getString = some p → PasswordHasher.hash lib salt p = info.passwordHash := by
  obtain ⟨f, hmod, hkind, hf⟩ := modifies_memberUpdate h
  refine ⟨f, hmod, fun info ↦ ?_, fun info ↦ (hf info).trans ?_⟩
  · obtain rfl | ⟨p, rfl⟩ := hkind <;> rfl
  · refine forall₄_congr fun v p _ _ ↦ ⟨congrArg UserInfo.passwordHash, fun hp ↦ ?_⟩
    rw [hp]

/-- The table that the handler leaves behind. -/
def usersAfter (o : Surroundings) (m : UserManager) (username : ByteString) (j : Json) :
    UserManager :=
  match statusUpdate j username with
  | none => m
  | some setStatus => ((passwordUpdate o.lib o.salt j username).getD id) (setStatus m)

/-- **What the handler leaves behind**, and when it answers with 400. -/
theorem putUser_spec (o : Surroundings) (s : Console) (username : ByteString) (j : Json) :
    (s.putUser o username (some j)).1.loader = s.loader ∧
      (s.putUser o username (some j)).1.router = s.router ∧
      (s.putUser o username (some j)).1.users = usersAfter o s.users username j ∧
      ((s.putUser o username (some j)).2 = .badRequest ↔ ¬AcceptsUser o s username j) := by
  rw [AcceptsUser, usersAfter, putUser]
  rcases statusUpdate j username with _ | setStatus
  · simp
  rcases passwordUpdate o.lib o.salt j username with _ | setPassword
  · simp
  rcases hsave : (setPassword (setStatus s.users)).save o.answer s.usersFile with e | ⟨saved, file⟩
  · simp [hsave]
  · rcases o.auditOpens with _ | _
    · simp [hsave]
    · by_cases hname : Utf8 username
      · simp [hsave, hname]
      · simp [hsave, hname]

theorem memberUpdate_eq_none {α : Type} {j : Json} {key : String} {convert : Json → Option α}
    {f : α → UserManager → UserManager} (h : memberUpdate j key convert f = none) {v : Json}
    (hv : j.member? (ofString key) = some v) : convert v = none := by
  rw [memberUpdate, hv] at h
  exact Option.map_eq_none_iff.mp h

/-- The table is left as it was exactly when what was assigned was in force. -/
theorem usersAfter_same_iff (o : Surroundings) (s : Console) (username : ByteString) (j : Json) :
    (∀ name, (usersAfter o s.users username j).users.lookup name = s.users.users.lookup name) ↔
      UserInForce o s username j := by
  rw [usersAfter]
  rcases hstatus : statusUpdate j username with _ | setStatus
  -- the status throws: nothing has been assigned
  · refine iff_of_true (fun _ ↦ rfl) ⟨fun info v b _ hv hb ↦ ?_, fun hsome ↦ ?_⟩
    · rw [memberUpdate_eq_none hstatus hv] at hb
      cases hb
    · rw [hstatus] at hsome
      cases hsome
  -- from here on the status has been set, and it is there if the password throws
  obtain ⟨f, hf, hfactive, hfix⟩ := modifies_statusUpdate hstatus
  rcases hpassword : passwordUpdate o.lib o.salt j username with _ | setPassword
  · refine (hf.same_iff s.users).trans ?_
    constructor
    · intro hsame
      refine ⟨fun info v b hinfo ↦ (hfix info).mp (hsame info hinfo) v b, ?_⟩
      intro _ info v p _ hv hp
      rw [memberUpdate_eq_none hpassword hv] at hp
      cases hp
    · intro h info hinfo
      exact (hfix info).mpr fun v b ↦ h.active info v b hinfo
  obtain ⟨g, hg, hgactive, hgfix⟩ := modifies_passwordUpdate hpassword
  refine (hf.comp hg).same_iff s.users |>.trans ?_
  constructor
  · intro hsame
    -- the password does not touch the state, so the state was in force by itself
    have hstate : ∀ info, s.users.users.lookup username = some info → f info = info := by
      intro info hinfo
      apply hfactive
      rw [← hgactive (f info)]
      exact congrArg UserInfo.active (hsame info hinfo)
    have hpass : ∀ info, s.users.users.lookup username = some info → g info = info := by
      intro info hinfo
      have hboth := hsame info hinfo
      rw [Function.comp, hstate info hinfo] at hboth
      exact hboth
    exact ⟨fun info v b hinfo ↦ (hfix info).mp (hstate info hinfo) v b,
      fun _ info v p hinfo ↦ (hgfix info).mp (hpass info hinfo) v p⟩
  · intro h info hinfo
    have hstate : f info = info := (hfix info).mpr fun v b ↦ h.active info v b hinfo
    rw [Function.comp, hstate]
    exact (hgfix info).mpr fun v p ↦ h.password (by rw [hstatus]; rfl) info v p hinfo

theorem putUser_same_iff (o : Surroundings) (s : Console) (username : ByteString) (j : Json) :
    Same s (s.putUser o username (some j)).1 ↔ UserInForce o s username j := by
  obtain ⟨hloader, hrouter, husers, -⟩ := putUser_spec o s username j
  rw [← usersAfter_same_iff, ← husers]
  exact ⟨fun h ↦ h.users, fun h ↦ ⟨by rw [hloader], by rw [hrouter], h⟩⟩

/-! ## Loading -/

/-- A load fails over what is in the file, and not over its absence. -/
def LoadRejected (s : Console) (e : Entropy) (files : ByteString → FileContent)
    (path : ByteString) : Prop :=
  files path ≠ .absent ∧ (s.loader.load e files path).2 = false

/-- What a rejected load leaves in the configuration. -/
theorem loadRejected_same_iff (s : Console) (e : Entropy) (files : ByteString → FileContent)
    (path : ByteString) :
    (s.LoadRejected e files path → (s.loader.load e files path).1.config = s.loader.config) ↔
      ∀ j, files path = .json j → WellTyped j configFields ∨
        ∀ f ∈ assignedFields j configFields, f.Agrees j s.loader.config := by
  simp only [LoadRejected, ConfigLoader.load]
  rcases files path with _ | _ | j
  · simp
  · simp [ConfigLoader.loadConfig]
  have htyped := assignFields_snd j configFields s.loader.config
  -- `supplySecret` runs only where all fields have gone through, so a failure leaves just those
  have hfields := assignFields_eq_self_iff fieldsApart_configFields j s.loader.config
  rcases hassign : assignFields j configFields s.loader.config with ⟨c, completed⟩
  rw [hassign] at htyped hfields
  rcases completed with _ | _
  · have hill : ¬WellTyped j configFields := fun h ↦ Bool.false_ne_true (htyped.mpr h)
    simpa [ConfigLoader.loadConfig, hassign, hill] using hfields
  · have hwell : WellTyped j configFields := htyped.mp rfl
    simp [ConfigLoader.loadConfig, hassign, hwell]

/-! ## What a rejected change leaves behind -/

/-- **What a rejected change leaves behind.** A rejected change leaves everything as it was exactly
when each member in front of the one that was refused is in force already: of the settings, of an
account, and of a file. -/
theorem rejected_same_iff (s : Console) (answer : UserManager.SaveAnswer) (o : Surroundings)
    (username : ByteString) (body : Option Json) (e : Entropy) (files : ByteString → FileContent)
    (path : ByteString) :
    (((s.putSettings answer body).2 = .badRequest → Same s (s.putSettings answer body).1) ↔
        ∀ j, body = some j → AcceptsSettings answer s j ∨ SettingsInForce s j) ∧
    (((s.putUser o username body).2 = .badRequest → Same s (s.putUser o username body).1) ↔
        ∀ j, body = some j → AcceptsUser o s username j ∨ UserInForce o s username j) ∧
    ((s.LoadRejected e files path → (s.loader.load e files path).1.config = s.loader.config) ↔
        ∀ j, files path = .json j → WellTyped j configFields ∨
          ∀ f ∈ assignedFields j configFields, f.Agrees j s.loader.config) := by
  refine ⟨?_, ?_, loadRejected_same_iff s e files path⟩
  · rcases body with _ | j
    · exact iff_of_true (fun _ ↦ ⟨rfl, rfl, fun _ ↦ rfl⟩) fun j hj ↦ by cases hj
    · rw [(putSettings_spec answer s j).2.2.2, putSettings_same_iff, ← or_iff_not_imp_left]
      exact ⟨fun h _ hj ↦ Option.some.inj hj ▸ h, fun h ↦ h j rfl⟩
  · rcases body with _ | j
    · exact iff_of_true (fun _ ↦ ⟨rfl, rfl, fun _ ↦ rfl⟩) fun j hj ↦ by cases hj
    · rw [(putUser_spec o s username j).2.2.2, putUser_same_iff, ← or_iff_not_imp_left]
      exact ⟨fun h _ hj ↦ Option.some.inj hj ▸ h, fun h ↦ h j rfl⟩

/-- The second port is no number. -/
def halfSettings : Json := .ofFields [("proxy_port", .integer 1), ("web_ui_port", .string [])]

/-- The password is no text. -/
def halfAccount : Json := .ofFields [("active", .boolean false), ("password", .integer 5)]

def bobConsole : Console := {
  users.users := AList.insert (ofString "bob") { username := ofString "bob" } ∅ }

def noSurroundings : Surroundings := { lib := ⟨fun _ ↦ none, fun _ _ _ ↦ []⟩, salt := [] }

/-- Each of the three paths leaves the first half of a change behind that it has rejected. -/
theorem halfSettings_not_same :
    ¬((∀ answer (s : Console) body, (s.putSettings answer body).2 = .badRequest →
        Same s (s.putSettings answer body).1) ∧
      (∀ o (s : Console) username body, (s.putUser o username body).2 = .badRequest →
        Same s (s.putUser o username body).1) ∧
      ∀ (s : Console) e files path, s.LoadRejected e files path →
        (s.loader.load e files path).1.config = s.loader.config) ∧
    (bobConsole.putSettings {} (some halfSettings)).2 = .badRequest ∧
    ¬Same bobConsole (bobConsole.putSettings {} (some halfSettings)).1 ∧
    (bobConsole.putUser noSurroundings (ofString "bob") (some halfAccount)).2 = .badRequest ∧
    ¬Same bobConsole (bobConsole.putUser noSurroundings (ofString "bob") (some halfAccount)).1 ∧
    bobConsole.LoadRejected ⟨.replicate 8 0, [], noSurroundings.lib⟩ (fun _ ↦ .json halfSettings)
      [] ∧
    (bobConsole.loader.load ⟨.replicate 8 0, [], noSurroundings.lib⟩ (fun _ ↦ .json halfSettings)
      []).1.config ≠ bobConsole.loader.config := by
  have hsettings : (bobConsole.putSettings {} (some halfSettings)).2 = .badRequest := by decide
  have hport : ¬Same bobConsole (bobConsole.putSettings {} (some halfSettings)).1 := by
    intro h
    have hport := congrArg SystemConfig.proxyPort h.config
    exact absurd hport (by decide)
  have hactive : ¬Same bobConsole
      (bobConsole.putUser noSurroundings (ofString "bob") (some halfAccount)).1 := by
    intro h
    have hactive := congrArg (Option.map UserInfo.active) (h.users (ofString "bob"))
    exact absurd hactive (by decide)
  refine ⟨fun h ↦ hport (h.1 {} bobConsole _ hsettings), hsettings, hport, by decide, hactive,
    ⟨FileContent.noConfusion, by decide⟩, fun h ↦ ?_⟩
  have hport := congrArg SystemConfig.proxyPort h
  exact absurd hport (by decide)

end Console

end LanProxyGateway
