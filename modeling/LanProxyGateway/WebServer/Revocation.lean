import LanProxyGateway.WebServer.Privilege

/-!
# An account that is taken away stays away

An administrator deletes an account or makes it inactive. From then on, until a request brings it
back, the proxy does not let its user in and no login gets a token for the name, whatever requests
come in between and however they end (`refused_after`). Three facts about one request make this up:
such a request shuts the account out, even if its save or its entry in the audit log throws
(`shut_of_revokes`); every other request but the two that can bring an account back leaves it shut
out (`Shut.respond`); and an account that is shut out is refused (`refused_of_shut`).

A token that was handed out before lasts until it expires: nothing here looks at it again.
-/

open Foundation ByteString

namespace LanProxyGateway

open AuthCheck

/-- There is no account of this name, or it is not active. -/
def UserManager.Shut (m : UserManager) (username : ByteString) : Prop :=
  ∀ info, m.users.lookup username = some info → info.active = false

namespace UserManager

variable {m : UserManager} {username name : ByteString}

theorem Shut.addUser (h : m.Shut username) (hne : username ≠ name) (lib : HashLibrary)
    (salt : ByteString) (time : Int) (password : ByteString) (days : Int) :
    (m.addUser lib salt time name password days).2.Shut username := by
  rw [UserManager.addUser]
  split
  · exact h
  · intro info hinfo
    exact h info ((AList.lookup_insert_ne hne).symm.trans hinfo)

theorem Shut.removeUser (h : m.Shut username) (name : ByteString) :
    (m.removeUser name).2.Shut username := by
  rw [UserManager.removeUser]
  split
  · intro info hinfo
    by_cases hne : username = name
    · rw [hne, AList.lookup_erase] at hinfo
      cases hinfo
    · exact h info ((AList.lookup_erase_ne hne).symm.trans hinfo)
  · exact h

theorem shut_removeUser (m : UserManager) (username : ByteString) :
    (m.removeUser username).2.Shut username := by
  intro info hinfo
  rw [UserManager.removeUser] at hinfo
  split at hinfo
  · rw [AList.lookup_erase] at hinfo
    cases hinfo
  · rw [AList.lookup_eq_none.mpr ‹_›] at hinfo
    cases hinfo

/-- Nobody gets in with the name of an account that is shut out. -/
theorem Shut.authenticate (h : m.Shut username) {cfg : SystemConfig}
    (hadmin : username ≠ cfg.adminUsername) (lib : HashLibrary) (time : Int)
    (password : ByteString) : m.authenticate lib cfg time username password = .ok false := by
  have hnone : m.hashFor cfg time username = none := by
    rw [hashFor, if_neg hadmin]
    cases hlookup : m.users.lookup username with
    | none => rfl
    | some info => simp [h info hlookup]
  rw [UserManager.authenticate, hnone]

end UserManager

/-! ## A change of an account -/

namespace Console

variable {o : Surroundings} {s : Console} {username name : ByteString} {j : Json}

/-- An account that has another state than before has the one of the body. -/
theorem active_of_statusUpdate {m : UserManager} {set : UserManager → UserManager}
    (hset : statusUpdate j username = some set) {info : UserInfo}
    (hinfo : (set m).users.lookup name = some info) :
    ∃ old, m.users.lookup name = some old ∧ (info.active = old.active ∨
      name = username ∧ j.member? (ofString "active") = some (.boolean info.active)) := by
  obtain ⟨f, hmodifies, hsame, hfix⟩ := modifies_statusUpdate hset
  rw [hmodifies] at hinfo
  split_ifs at hinfo with hname
  · obtain ⟨old, hold, rfl⟩ := Option.map_eq_some_iff.mp hinfo
    refine ⟨old, hold, ?_⟩
    by_cases hactive : (f old).active = old.active
    · exact .inl hactive
    · -- the account was changed, and the member is the one value that changes it
      have hchanged : f old ≠ old := fun h ↦ hactive (congrArg UserInfo.active h)
      rw [Ne, hfix old] at hchanged
      push Not at hchanged
      obtain ⟨v, b, hv, hb, hne⟩ := hchanged
      refine .inr ⟨hname, ?_⟩
      cases v with
      | boolean c =>
        obtain rfl := Option.some.inj hb
        rw [hv, Bool.eq_not_of_ne hactive, Bool.eq_not_of_ne hne]
      | _ => cases hb
  · exact ⟨info, hinfo, .inl rfl⟩

theorem active_of_usersAfter {m : UserManager} {info : UserInfo}
    (hinfo : (usersAfter o m username j).users.lookup name = some info) :
    ∃ old, m.users.lookup name = some old ∧ (info.active = old.active ∨
      name = username ∧ j.member? (ofString "active") = some (.boolean info.active)) := by
  rw [usersAfter] at hinfo
  cases hstatus : statusUpdate j username with
  | none =>
    rw [hstatus] at hinfo
    exact ⟨info, hinfo, .inl rfl⟩
  | some setStatus =>
    rw [hstatus] at hinfo
    cases hpassword : passwordUpdate o.lib o.salt j username with
    | none =>
      rw [hpassword] at hinfo
      exact active_of_statusUpdate hstatus hinfo
    | some setPassword =>
      obtain ⟨g, hmodifies, hactive, -⟩ := modifies_passwordUpdate hpassword
      rw [hpassword] at hinfo
      replace hinfo : (setPassword (setStatus m)).users.lookup name = some info := hinfo
      rw [hmodifies] at hinfo
      split_ifs at hinfo with hname
      · obtain ⟨mid, hmid, rfl⟩ := Option.map_eq_some_iff.mp hinfo
        rw [hactive]
        exact active_of_statusUpdate hstatus hmid
      · exact active_of_statusUpdate hstatus hinfo

theorem shut_usersAfter {m : UserManager} (h : m.Shut name)
    (hnot : ¬(username = name ∧ j.member? (ofString "active") = some (.boolean true))) :
    (usersAfter o m username j).Shut name := by
  intro info hinfo
  obtain ⟨old, hold, hsame | ⟨hname, hmember⟩⟩ := active_of_usersAfter hinfo
  · rw [hsame, h old hold]
  · rw [← Bool.not_eq_true]
    intro hactive
    exact hnot ⟨hname.symm, hactive ▸ hmember⟩

/-- A body that makes the account inactive shuts it out, whatever becomes of its password. -/
theorem shut_usersAfter_of_inactive {m : UserManager}
    (hbody : j.member? (ofString "active") = some (.boolean false)) :
    (usersAfter o m username j).Shut username := by
  intro info hinfo
  have hstatus : statusUpdate j username =
      some fun m ↦ (m.setStatus username false).2 := by
    rw [statusUpdate, memberUpdate, hbody]
    rfl
  rw [usersAfter, hstatus] at hinfo
  have hset : ∀ info, (m.setStatus username false).2.users.lookup username = some info →
      info.active = false := by
    intro info hinfo
    rw [UserManager.setStatus, modifies_modifyUser, if_pos rfl] at hinfo
    obtain ⟨old, -, rfl⟩ := Option.map_eq_some_iff.mp hinfo
    rfl
  cases hpassword : passwordUpdate o.lib o.salt j username with
  | none =>
    rw [hpassword] at hinfo
    exact hset info hinfo
  | some setPassword =>
    obtain ⟨g, hmodifies, hactive, -⟩ := modifies_passwordUpdate hpassword
    rw [hpassword] at hinfo
    replace hinfo : (setPassword (m.setStatus username false).2).users.lookup username =
      some info := hinfo
    rw [hmodifies, if_pos rfl] at hinfo
    obtain ⟨mid, hmid, rfl⟩ := Option.map_eq_some_iff.mp hinfo
    rw [hactive]
    exact hset mid hmid

theorem users_putUser (o : Surroundings) (s : Console) (username : ByteString)
    (body : Option Json) :
    (s.putUser o username body).1.users = body.elim s.users (usersAfter o s.users username) := by
  cases body with
  | none => rfl
  | some j => exact (putUser_spec o s username j).2.2.1

end Console

/-! ## One request -/

/-- A call that can bring the account back. -/
def ApiCall.Readmits (lib : WebLibrary) (username : ByteString) : ApiCall → Prop
  | .postUsers body =>
    ∃ password days, Backend.newAccount lib body = some (username, password, days)
  | .putUser name body => name = username ∧ ∃ j, lib.parsed body = some j ∧
      j.member? (ofString "active") = some (.boolean true)
  | _ => False

/-- A call that takes the account away. -/
def ApiCall.Revokes (lib : WebLibrary) (username : ByteString) : ApiCall → Prop
  | .deleteUser name => name = username
  | .putUser name body => name = username ∧ ∃ j, lib.parsed body = some j ∧
      j.member? (ofString "active") = some (.boolean false)
  | _ => False

namespace Backend

variable {lib : WebLibrary} {o : Outside} {s : Backend} {username : ByteString}

theorem users_postUsers (s : Backend) (body : ByteString) :
    (s.postUsers lib o body).2.console.users = match newAccount lib body with
      | none => s.console.users
      | some (name, password, days) =>
        (s.console.users.addUser lib.hash o.salt o.now name password days).2 := by
  unfold postUsers
  rcases newAccount lib body with _ | ⟨name, password, days⟩
  · rfl
  dsimp only
  rcases hadd : s.console.users.addUser lib.hash o.salt o.now name password days with ⟨_ | _, users⟩
  · rw [UserManager.addUser] at hadd
    by_cases hmem : name ∈ s.console.users.users
    · rw [if_pos hmem] at hadd
      exact (Prod.mk.inj hadd).2
    · rw [if_neg hmem] at hadd
      exact absurd (Prod.mk.inj hadd).1.symm Bool.false_ne_true
  · -- from here on the account is in the table, whatever becomes of the rest
    dsimp only
    split
    · rfl
    · split
      · rfl
      · rfl

theorem users_deleteUser (s : Backend) (name : ByteString) :
    (s.deleteUser o name).2.console.users = (s.console.users.removeUser name).2 := by
  unfold deleteUser
  rcases hremove : s.console.users.removeUser name with ⟨_ | _, users⟩
  · rw [UserManager.removeUser] at hremove
    by_cases hmem : name ∈ s.console.users.users
    · rw [if_pos hmem] at hremove
      exact absurd (Prod.mk.inj hremove).1.symm Bool.false_ne_true
    · rw [if_neg hmem] at hremove
      exact (Prod.mk.inj hremove).2
  · dsimp only
    split
    · rfl
    · split
      · rfl
      · rfl

theorem users_node (s : Backend) (r : NodeRequest) :
    (s.node lib o r).2.console.users = s.console.users := by
  simp only [node, afterNode]
  repeat' split
  all_goals rfl

theorem users_putSettings (s : Backend) (body : ByteString) :
    (s.putSettings lib o body).2.console.users = s.console.users := by
  rw [putSettings]
  cases lib.parsed body with
  | none => rfl
  | some j => exact (Console.putSettings_spec o.saveAnswer s.console j).2.2.1

/-- **One call** leaves an account shut out, unless it can bring it back. -/
theorem shut_handle (h : s.console.users.Shut username) {call : ApiCall}
    (hnot : ¬call.Readmits lib username) :
    (s.handle lib o call).2.console.users.Shut username := by
  cases call with
  | postUsers body =>
    rw [handle, users_postUsers]
    split
    · exact h
    · rename_i name password days hbody
      refine h.addUser ?_ lib.hash o.salt o.now password days
      rintro rfl
      exact hnot ⟨password, days, hbody⟩
  | putUser name body =>
    rw [handle, putUser, Console.users_putUser]
    cases hbody : lib.parsed body with
    | none => exact h
    | some j =>
      exact Console.shut_usersAfter h fun hreadmits ↦ hnot ⟨hreadmits.1, j, hbody, hreadmits.2⟩
  | deleteUser name =>
    rw [handle, users_deleteUser]
    exact h.removeUser name
  | putSettings body =>
    rw [handle, users_putSettings]
    exact h
  | node r =>
    rw [handle, users_node]
    exact h
  | postLogin body =>
    have hsame : s.Untouched (s.postLogin lib o body).2 := s.postLogin_untouched body
    rw [handle, hsame]
    exact h
  | putV2raynConfig body =>
    simp only [handle, putV2raynConfig]
    split
    · exact h
    · split_ifs
      · exact h
      · split <;> exact h
  | putSchedule body =>
    simp only [handle, putSchedule]
    repeat' split
    all_goals exact h
  | putIpAffinity body =>
    simp only [handle, putIpAffinity]
    repeat' split
    all_goals exact h
  | putNodeWeight tag body =>
    simp only [handle, putNodeWeight]
    repeat' split
    all_goals exact h
  | postRules body =>
    simp only [handle, postRules]
    split <;> exact h
  | putNodesReorder body =>
    simp only [handle, putNodesReorder]
    split <;> exact h
  | _ => exact h

/-- A call that takes the account away has done so however it ends. -/
theorem shut_of_revokes (s : Backend) {call : ApiCall} (hrevokes : call.Revokes lib username) :
    (s.handle lib o call).2.console.users.Shut username := by
  cases call with
  | deleteUser name =>
    obtain rfl : name = username := hrevokes
    rw [handle, users_deleteUser]
    exact UserManager.shut_removeUser _ _
  | putUser name body =>
    obtain ⟨rfl, j, hbody, hactive⟩ := hrevokes
    rw [handle, putUser, Console.users_putUser, hbody]
    exact Console.shut_usersAfter_of_inactive hactive
  | _ => exact absurd hrevokes id

theorem keeps_adminUsername_settingsFields :
    ∀ f ∈ Console.settingsFields, f.Keeps SystemConfig.adminUsername := by
  simp only [Console.settingsFields, Console.earlySettings, Console.lateSettings, List.cons_append,
    List.nil_append, List.forall_mem_cons]
  refine ⟨?_, ?_, ?_, ?_, ?_, ?_, ?_, fun f hf ↦ absurd hf List.not_mem_nil⟩
  all_goals exact FieldAssignment.keeps_map fun _ _ ↦ rfl

/-- The name of the administrator cannot be changed here. -/
theorem adminUsername_handle (s : Backend) (call : ApiCall) :
    (s.handle lib o call).2.console.loader.config.adminUsername =
      s.console.loader.config.adminUsername := by
  cases call with
  | putSettings body =>
    rw [handle, putSettings]
    cases lib.parsed body with
    | none => rfl
    | some j =>
      dsimp only
      rw [(Console.putSettings_spec o.saveAnswer s.console j).1]
      exact assignFields_keeps keeps_adminUsername_settingsFields j _
  | putUser name body =>
    rw [handle, putUser]
    cases lib.parsed body with
    | none => rfl
    | some j =>
      dsimp only
      rw [(Console.putUser_spec _ s.console name j).1]
  | postLogin body =>
    have hsame : s.Untouched (s.postLogin lib o body).2 := s.postLogin_untouched body
    rw [handle, hsame]
  | postUsers body =>
    simp only [handle, postUsers]
    repeat' split
    all_goals rfl
  | deleteUser name =>
    simp only [handle, deleteUser]
    repeat' split
    all_goals rfl
  | node r =>
    simp only [handle, node, afterNode]
    repeat' split
    all_goals rfl
  | putV2raynConfig body =>
    simp only [handle, putV2raynConfig]
    repeat' split
    all_goals rfl
  | putSchedule body =>
    simp only [handle, putSchedule]
    repeat' split
    all_goals rfl
  | putIpAffinity body =>
    simp only [handle, putIpAffinity]
    repeat' split
    all_goals rfl
  | putNodeWeight tag body =>
    simp only [handle, putNodeWeight]
    repeat' split
    all_goals rfl
  | postRules body =>
    simp only [handle, postRules]
    split <;> rfl
  | putNodesReorder body =>
    simp only [handle, putNodesReorder]
    split <;> rfl
  | _ => rfl

/-- The guard of the call, if it has one, lets the request in. -/
def Passes (lib : WebLibrary) (o : Outside) (req : Request) (call : ApiCall) : Prop :=
  ∀ g, call.guard = some g → g.check (lib.tokens o.now).toJwtUtil req = .ok ()

/-- A request is turned away at the guard, or handled. -/
theorem respond_eq_or (s : Backend) (lib : WebLibrary) (o : Outside) (req : Request)
    (call : ApiCall) :
    (s.respond lib o req call).2 = s ∨
      (s.respond lib o req call).2 = (s.handle lib o call).2 := by
  rw [respond]
  split
  · exact .inr rfl
  · split
    · exact .inl rfl
    · exact .inr rfl

theorem respond_of_passes {req : Request} {call : ApiCall} (h : Passes lib o req call)
    (s : Backend) : s.respond lib o req call = s.handle lib o call := by
  rw [respond]
  split
  · rfl
  · rename_i g hguard
    rw [h g hguard]

end Backend

/-! ## Being refused -/

theorem LoginRecords.login_ne_loggedIn {c : LoginContext} {r : LoginRecords} {body : Option Json}
    {username password : ByteString} (hbody : credentials body = some (username, password))
    (hadmin : username ≠ c.config.adminUsername)
    (hrefused : c.users.authenticate c.lib c.config c.now username password = .ok false)
    (name role : ByteString) : (r.login c body).1 ≠ .loggedIn name role := by
  have hcheck : ∀ r : LoginRecords, (check c r username password).1 ≠ .loggedIn name role := by
    intro r
    rw [check, if_neg hadmin, hrefused]
    nofun
  rw [login, hbody]
  dsimp only
  split
  · split_ifs
    · nofun
    · exact hcheck _
  · exact hcheck _

namespace Panel

variable {lib : WebLibrary} {s t : Panel} {e : ApiEvent} {username : ByteString}

/-- The proxy lets nobody of this name in, and no login with it gets a token. -/
structure Refused (lib : WebLibrary) (s : Panel) (username : ByteString) : Prop where
  authenticate : ∀ time password, s.backend.console.users.authenticate lib.hash
    s.backend.console.loader.config time username password = .ok false
  login : ∀ (o : Outside) (body password : ByteString),
    LoginRecords.credentials (lib.parsed body) = some (username, password) →
      s.backend.grant lib o body = none

/-- The account is shut out, and the name is not that of the administrator. -/
structure ShutOut (s : Panel) (username : ByteString) : Prop where
  shut : s.backend.console.users.Shut username
  notAdmin : username ≠ s.backend.console.loader.config.adminUsername

theorem refused_of_shutOut (lib : WebLibrary) (h : s.ShutOut username) :
    s.Refused lib username where
  authenticate time password := h.shut.authenticate h.notAdmin lib.hash time password
  login o body password hbody := by
    rw [Option.eq_none_iff_forall_ne_some]
    rintro ⟨token, role⟩ hgrant
    obtain ⟨name, hlogin, -⟩ := Backend.of_grant hgrant
    exact LoginRecords.login_ne_loggedIn hbody h.notAdmin
      (h.shut.authenticate h.notAdmin lib.hash o.now password) name role hlogin

theorem ShutOut.step (h : s.ShutOut username) (hnot : ¬e.call.Readmits lib username)
    (ht : step lib s e = .ok t) : t.ShutOut username := by
  obtain rfl := Except.ok.inj ht
  rcases s.backend.respond_eq_or lib e.outside e.request e.call with hsame | hhandled
  · refine ⟨?_, ?_⟩
    · dsimp only
      rw [hsame]
      exact h.shut
    · dsimp only
      rw [hsame]
      exact h.notAdmin
  · refine ⟨?_, ?_⟩
    · dsimp only
      rw [hhandled]
      exact Backend.shut_handle h.shut hnot
    · dsimp only
      rw [hhandled, Backend.adminUsername_handle]
      exact h.notAdmin

/-- **An account that is taken away stays away**, until a request brings it back. -/
theorem refused_after {es : List ApiEvent}
    (hadmin : username ≠ s.backend.console.loader.config.adminUsername)
    (hpasses : Backend.Passes lib e.outside e.request e.call)
    (hrevokes : e.call.Revokes lib username)
    (hnot : ∀ e ∈ es, ¬e.call.Readmits lib username)
    (ht : run (step lib) s (e :: es) = .ok t) : t.Refused lib username := by
  apply refused_of_shutOut
  rw [run_cons] at ht
  have hfirst : (⟨(s.backend.respond lib e.outside e.request e.call).2,
      s.issued ++ (s.brought lib e).toList⟩ : Panel).ShutOut username := by
    rw [Backend.respond_of_passes hpasses]
    refine ⟨Backend.shut_of_revokes s.backend hrevokes, ?_⟩
    dsimp only
    rw [Backend.adminUsername_handle]
    exact hadmin
  exact run_induction (I := fun s ↦ s.ShutOut username) (fun s e t h hC ht ↦ h.step hC ht) hfirst
    (along_of_getElem? fun n e he _ _ ↦ hnot e (List.mem_of_getElem? he)) ht

/-! ## A user who is deleted -/

def bossClaims : Json := JwtUtil.payload (ofString "admin") (ofString "admin") 1750001800

def bossClaimsText : ByteString :=
  ofString "\x7b\"exp\":1750001800,\"role\":\"admin\",\"username\":\"admin\"\x7d"

/-- What is signed in the token of the administrator. -/
def bossSigned : ByteString := ofString ("eyJhbGciOiJIUzI1NiIsInR5cCI6IkpXVCJ9." ++
  "eyJleHAiOjE3NTAwMDE4MDAsInJvbGUiOiJhZG1pbiIsInVzZXJuYW1lIjoiYWRtaW4ifQ")

def bossToken : ByteString := bossSigned ++ ofString ".rUETKc+b5pM+gPyj9ywZ1gijICOW1qk5O+wsu+sNXR0"

/-- What the libraries make of the login of Alice and of the token of the administrator. -/
def bossLibrary : WebLibrary where
  toLinkWriter := { aliceLibrary.toLinkWriter with
    parse := fun s ↦ if s = bossClaimsText then .ok bossClaims else aliceLibrary.parse s }
  secret := aliceLibrary.secret
  hmacSha256 := fun message key ↦
    if message = bossSigned then
      [173, 65, 19, 41, 207, 155, 230, 147, 62, 128, 252, 163, 247, 44, 25, 214, 8, 163, 32, 35,
      150, 214, 169, 57, 59, 236, 44, 187, 235, 13, 93, 29]
    else aliceLibrary.hmacSha256 message key
  hash := aliceLibrary.hash
  std := aliceLibrary.std

def aliceDeleted : ApiEvent where
  outside := { now := 1750000000 }
  request := ⟨ofString "/api/users/alice", some (ofString "Bearer " ++ bossToken), none⟩
  call := .deleteUser (ofString "alice")

/-- Alice is not let in any more. -/
theorem alice_refused_after : ∃ t,
    run (step bossLibrary) alicePanel [aliceDeleted, aliceLogin] = .ok t ∧
      t.Refused bossLibrary (ofString "alice") := by
  obtain ⟨t, ht⟩ : ∃ t, run (step bossLibrary) alicePanel [aliceDeleted, aliceLogin] = .ok t :=
    ⟨_, rfl⟩
  have hpasses : Backend.Passes bossLibrary aliceDeleted.outside aliceDeleted.request
      aliceDeleted.call := by
    intro g hg
    obtain rfl := Option.some.inj hg
    have hadmin : (Guard.admin.check (bossLibrary.tokens aliceDeleted.outside.now).toJwtUtil
        aliceDeleted.request).toOption = some () := by decide +kernel
    rcases hcheck : Guard.admin.check (bossLibrary.tokens aliceDeleted.outside.now).toJwtUtil
      aliceDeleted.request with refusal | u
    · rw [hcheck] at hadmin
      cases hadmin
    · rfl
  refine ⟨t, ht, refused_after (by decide) hpasses rfl (fun e he ↦ ?_) ht⟩
  obtain rfl := List.mem_singleton.mp he
  exact id

end Panel

end LanProxyGateway
