import LanProxyGateway.WebServer.Backend

/-!
# Only administrators change anything

Every handler that changes something but the records of the login asks for the role in the token,
the role comes from the login that signed the token, and only the name and the password of the
administrator make it that of one. So where nobody forges a token and nobody logs in as the
administrator, no sequence of requests whatever changes the configuration, the users, the rules, the
nodes, the balancer or the v2ray child (`no_escalation`).

That a token is not forged is a condition on the requests: one that verifies has been handed out.
-/

open Foundation ByteString

namespace LanProxyGateway

open AuthCheck

/-! ## Who is handed which token -/

/-- A login succeeds with the password of the administrator, or as an ordinary user. -/
theorem LoginRecords.of_loggedIn {c : LoginContext} {r : LoginRecords} {body : Option Json}
    {username role : ByteString} (h : (r.login c body).1 = .loggedIn username role) :
    ∃ password, credentials body = some (username, password) ∧
      (role = ofString "admin" ∧ username = c.config.adminUsername ∧
        PasswordHasher.verify c.lib password c.config.adminPasswordHash = .ok true ∨
      role = ofString "user") := by
  have hcheck : ∀ {r : LoginRecords} {name password : ByteString},
      (check c r name password).1 = .loggedIn username role → name = username ∧
        (role = ofString "admin" ∧ username = c.config.adminUsername ∧
          PasswordHasher.verify c.lib password c.config.adminPasswordHash = .ok true ∨
        role = ofString "user") := by
    intro r name password hc
    unfold check at hc
    split at hc
    case isTrue hadmin =>
      split at hc
      case h_1 => cases hc
      case h_2 hverify =>
        obtain ⟨rfl, rfl⟩ := LoginResponse.loggedIn.inj hc
        exact ⟨rfl, .inl ⟨rfl, hadmin, hverify⟩⟩
      case h_3 => cases hc
    case isFalse =>
      split at hc
      case h_1 => cases hc
      case h_2 =>
        dsimp only at hc
        split at hc
        · cases hc
        · split at hc
          · cases hc
          · obtain ⟨rfl, rfl⟩ := LoginResponse.loggedIn.inj hc
            exact ⟨rfl, .inr rfl⟩
      case h_3 => cases hc
  unfold login at h
  split at h
  case h_1 => cases h
  case h_2 name password hcredentials =>
    dsimp only at h
    have hopen : (check c (r.cleanup c.now) name password).1 = .loggedIn username role := by
      split at h
      case h_1 =>
        split at h
        · cases h
        · exact h
      case h_2 => exact h
    obtain ⟨rfl, hrole⟩ := hcheck hopen
    exact ⟨password, hcredentials, hrole⟩

/-- A payload that can be written out has a name that is UTF-8. -/
theorem JwtUtil.utf8_of_isSerializable {username role : ByteString} {exp : Int}
    (h : (payload username role exp).isSerializable = true) : Utf8 username := by
  have hname : (payload username role exp).member? (ofString "username") =
      some (.string username) := by
    simp [payload, Json.member?_ofFields_cons]
  exact (Json.isSerializable_string _).mp (Json.isSerializable_of_member? h hname)

namespace Backend

variable {lib : WebLibrary} {o : Outside} {s : Backend} {body token role : ByteString}

theorem of_grant (h : s.grant lib o body = some (token, role)) :
    ∃ username, (s.login lib o body).1 = .loggedIn username role ∧
      JwtUtil.sign (lib.tokens o.now) username role 30 = .ok token := by
  unfold grant at h
  split at h
  case h_1 username role' hlogin =>
    split at h
    case h_1 token' hsign =>
      obtain ⟨rfl, rfl⟩ := Prod.mk.inj (Option.some.inj h)
      exact ⟨username, hlogin, hsign⟩
    case h_2 => cases h
  case h_2 => cases h

/-- What the payload of a new token says is what a parser reads in it. -/
def TokenReadsBack (lib : WebLibrary) (o : Outside) (s : Backend) (body : ByteString) : Prop :=
  ∀ username role, (s.login lib o body).1 = .loggedIn username role → Utf8 username →
    lib.parsed (lib.dump (JwtUtil.payload username role (o.now + 60 * 30))) =
      some (JwtUtil.payload username role (o.now + 60 * 30))

/-- The role in a token is the one it was signed for, whenever it verifies. -/
theorem getRole_of_grant (h : s.grant lib o body = some (token, role))
    (hcodec : TokenReadsBack lib o s body) {now : Int}
    (hv : (lib.tokens now).toJwtUtil.verify token = true) :
    (lib.tokens now).toJwtUtil.getRole token = role := by
  obtain ⟨username, hlogin, hsign⟩ := of_grant h
  have hutf8 : Utf8 username := by
    by_contra hnot
    rw [JwtUtil.sign, if_neg] at hsign
    · cases hsign
    · exact fun hserial ↦ hnot (JwtUtil.utf8_of_isSerializable hserial)
  have hrole : Utf8 role := by
    obtain ⟨-, -, ⟨rfl, -⟩ | rfl⟩ := LoginRecords.of_loggedIn hlogin
    · exact utf8_ofString _
    · exact utf8_ofString _
  obtain ⟨token', header, payload, hsign', hparts, hdecode⟩ :=
    JwtUtil.exists_sign_eq (w := lib.tokens o.now) (m := 30) hutf8 hrole (by decide) (by decide)
  obtain rfl := Except.ok.inj (hsign.symm.trans hsign')
  have hparse : (lib.tokens now).parse (JwtUtil.base64Decode payload) =
      some (JwtUtil.payload username role (o.now + 60 * 30)) := by
    rw [hdecode]
    exact hcodec username role hlogin hutf8
  have hread : Json.value Json.getString "role" (ofString "user")
      (JwtUtil.payload username role (o.now + 60 * 30)) = some role := by
    simp [JwtUtil.payload, Json.value_ofFields, Json.member?_ofFields_cons]
  rw [JwtUtil.getRole, hv, hparts]
  simp only [Bool.not_true, Bool.false_eq_true, if_false]
  rw [hparse, Option.bind_some, hread]

/-! ## What needs no administrator -/

/-- Everything is as it was, but for the records of the login. -/
def Untouched (s t : Backend) : Prop := t = { s with logins := t.logins }

theorem Untouched.refl (s : Backend) : Untouched s s := rfl

theorem Untouched.trans {s t u : Backend} (h : Untouched s t) (h' : Untouched t u) :
    Untouched s u := by
  rw [Untouched] at h h' ⊢
  rw [h', h]

theorem postLogin_untouched (s : Backend) (body : ByteString) :
    Untouched s (s.postLogin lib o body).2 := by
  unfold postLogin
  split
  · rfl
  · rfl

theorem postParse_untouched (s : Backend) (body : ByteString) :
    Untouched s (s.node lib o (.postParse body)).2 := by
  have hstore : (s.scheduler.store.postParse lib.toLinkLibrary body).2 = s.scheduler.store := by
    unfold NodeStore.postParse
    split
    · rfl
    · split
      · rfl
      · split
        · rfl
        · rfl
        · unfold NodeStore.caught
          split
          · rename_i heq
            exact (Prod.mk.inj heq).2.symm
          · rfl
  have hnode : (s.node lib o (.postParse body)).2 =
      s.withStore (s.scheduler.store.postParse lib.toLinkLibrary body).2 := rfl
  rw [hnode, hstore]
  rfl

/-- A handler without a guard, or with that for all users, touches nothing. -/
theorem handle_untouched {call : ApiCall} (h : call.guard ≠ some .admin) (s : Backend) :
    Untouched s (s.handle lib o call).2 := by
  cases call with
  | postLogin body => exact s.postLogin_untouched body
  | postLogout => rfl
  | view endpoint => rfl
  | node r =>
    cases r with
    | postParse body => exact s.postParse_untouched body
    | _ => exact absurd rfl h
  | _ => exact absurd rfl h

/-- A request whose token has another role than that of an administrator touches nothing. -/
theorem respond_untouched {req : Request} {call : ApiCall}
    (h : (lib.tokens o.now).toJwtUtil.getRole (extractToken req) ≠ ofString "admin")
    (s : Backend) : Untouched s (s.respond lib o req call).2 := by
  unfold respond
  split
  case h_1 hguard => exact handle_untouched (by simp [hguard]) s
  case h_2 g hguard =>
    split
    case h_1 => exact .refl s
    case h_2 hcheck =>
      refine handle_untouched (fun hadmin ↦ ?_) s
      obtain rfl := Option.some.inj (hguard.symm.trans hadmin)
      rw [Guard.check, requireAdmin] at hcheck
      rcases hauth : requireAuth (lib.tokens o.now).toJwtUtil req with refusal | u
      · rw [hauth] at hcheck
        cases hcheck
      · rw [hauth] at hcheck
        simp [bind, Except.bind, h] at hcheck

end Backend

/-! ## Runs -/

namespace Panel

variable {lib : WebLibrary} {s t : Panel} {e : ApiEvent}

/-- A token that verifies has been handed out. -/
def Honest (lib : WebLibrary) (s : Panel) (e : ApiEvent) : Prop :=
  (lib.tokens e.outside.now).toJwtUtil.verify (extractToken e.request) = true →
    ∃ role, (extractToken e.request, role) ∈ s.issued

/-- Somebody logs in with the name and the password of the administrator. -/
def LogsInAsAdmin (lib : WebLibrary) (cfg : SystemConfig) (e : ApiEvent) : Prop :=
  ∃ body password, e.call = .postLogin body ∧
    LoginRecords.credentials (lib.parsed body) = some (cfg.adminUsername, password) ∧
    PasswordHasher.verify lib.hash password cfg.adminPasswordHash = .ok true

/-- The new token of a login reads back. -/
def ReadsBack (lib : WebLibrary) (s : Panel) (e : ApiEvent) : Prop :=
  ∀ body, e.call = .postLogin body → s.backend.TokenReadsBack lib e.outside body

/-- All tokens that have been handed out are those of ordinary users. -/
def Ordinary (lib : WebLibrary) (s : Panel) : Prop :=
  ∀ x ∈ s.issued, x.2 = ofString "user" ∧
    ∀ now, (lib.tokens now).toJwtUtil.verify x.1 = true →
      (lib.tokens now).toJwtUtil.getRole x.1 = x.2

/-- With such tokens nobody is an administrator. -/
theorem Ordinary.getRole_ne (h : Ordinary lib s) (hhonest : Honest lib s e) :
    (lib.tokens e.outside.now).toJwtUtil.getRole (extractToken e.request) ≠ ofString "admin" := by
  rcases hv : (lib.tokens e.outside.now).toJwtUtil.verify (extractToken e.request) with _ | _
  · rw [JwtUtil.getRole_of_not_verify hv]
    decide
  · obtain ⟨role, hmem⟩ := hhonest hv
    obtain ⟨hrole, hread⟩ := h _ hmem
    rw [hread _ hv, hrole]
    decide

theorem Ordinary.step (h : Ordinary lib s) (hreads : ReadsBack lib s e)
    (hadmin : ¬LogsInAsAdmin lib s.backend.console.loader.config e)
    (ht : Panel.step lib s e = .ok t) : Ordinary lib t := by
  obtain rfl := Except.ok.inj ht
  intro x hx
  rcases List.mem_append.mp hx with hx | hx
  · exact h x hx
  rw [Option.mem_toList] at hx
  unfold brought at hx
  split at hx
  case h_1 body hcall =>
    obtain ⟨token, role⟩ := x
    obtain ⟨username, hlogin, -⟩ := Backend.of_grant hx
    refine ⟨?_, fun now hv ↦ Backend.getRole_of_grant hx (hreads body hcall) hv⟩
    obtain ⟨password, hcredentials, ⟨-, hname, hverify⟩ | hrole⟩ := LoginRecords.of_loggedIn hlogin
    · exact absurd ⟨body, password, hcall, hname ▸ hcredentials, hverify⟩ hadmin
    · exact hrole
  case h_2 => cases hx

/-- What a run of ordinary users does to the state. -/
structure Harmless (lib : WebLibrary) (s₀ s : Panel) : Prop where
  untouched : s₀.backend.Untouched s.backend
  ordinary : Ordinary lib s

theorem Harmless.step {s₀ : Panel} (h : Harmless lib s₀ s) (hhonest : Honest lib s e)
    (hreads : ReadsBack lib s e)
    (hadmin : ¬LogsInAsAdmin lib s₀.backend.console.loader.config e)
    (ht : Panel.step lib s e = .ok t) : Harmless lib s₀ t := by
  have hconfig : s.backend.console.loader.config = s₀.backend.console.loader.config := by
    have hsame : s.backend = _ := h.untouched
    rw [hsame]
  refine ⟨h.untouched.trans ?_, h.ordinary.step hreads (hconfig ▸ hadmin) ht⟩
  obtain rfl := Except.ok.inj ht
  exact Backend.respond_untouched (h.ordinary.getRole_ne hhonest) s.backend

/-- **No escalation.** From a state in which no token is out, requests with tokens that nobody has
forged leave everything but the records of the login as it was, and bring no token of an
administrator, unless one of them is a login with the name and the password of the administrator. -/
theorem no_escalation (lib : WebLibrary) {s₀ s : Panel} {es : List ApiEvent}
    (hnone : s₀.issued = [])
    (hes : Along (step lib) (fun s e ↦ Honest lib s e ∧ ReadsBack lib s e ∧
      ¬LogsInAsAdmin lib s₀.backend.console.loader.config e) s₀ es)
    (hs : run (step lib) s₀ es = .ok s) :
    s.backend = { s₀.backend with logins := s.backend.logins } ∧
      ∀ token role, (token, role) ∈ s.issued → role = ofString "user" := by
  have hstart : Harmless lib s₀ s₀ := by
    refine ⟨.refl _, fun x hx ↦ ?_⟩
    rw [hnone] at hx
    exact absurd hx List.not_mem_nil
  have hharmless : Harmless lib s₀ s := run_induction
    (fun s e t h hC ht ↦ h.step hC.1 hC.2.1 hC.2.2 ht) hstart hes hs
  exact ⟨hharmless.untouched, fun token role hx ↦ (hharmless.ordinary _ hx).1⟩

/-! ## A user who tries -/

def aliceBody : ByteString :=
  ofString "\x7b\"username\":\"alice\",\"password\":\"secret\"\x7d"

def aliceClaims : Json := JwtUtil.payload (ofString "alice") (ofString "user") 1750001800

def aliceClaimsText : ByteString :=
  ofString "\x7b\"exp\":1750001800,\"role\":\"user\",\"username\":\"alice\"\x7d"

/-- What the libraries make of one login and one token. -/
def aliceLibrary : WebLibrary where
  decodeBlock _ := none
  parse s :=
    if s = aliceBody then .ok (.ofFields
      [("username", .string (ofString "alice")), ("password", .string (ofString "secret"))])
    else if s = aliceClaimsText then .ok aliceClaims
    else .error []
  dump j :=
    if j.contains (ofString "alg") then ofString "\x7b\"alg\":\"HS256\",\"typ\":\"JWT\"\x7d"
    else aliceClaimsText
  secret := ofString "00000000000000000000000000000000"
  hmacSha256 := fun _ _ ↦
    [75, 85, 252, 255, 172, 24, 183, 204, 77, 151, 153, 113, 98, 243, 46, 142, 57, 67, 236, 170,
    78, 228, 124, 108, 69, 142, 50, 15, 243, 73, 251, 79]
  hash := ⟨fun _ ↦ none, fun _ _ _ ↦
    [126, 100, 215, 194, 221, 87, 93, 43, 29, 128, 53, 90, 83, 139, 226, 192, 147, 210, 23, 140,
    133, 212, 18, 9, 119, 246, 106, 88, 152, 114, 229, 77]⟩
  std := .stable

def alice : UserInfo where
  username := ofString "alice"
  passwordHash := ofString ("$pbkdf2-sha256$100000$00000000000000000000000000000000$" ++
    "7e64d7c2dd575d2b1d80355a538be2c093d2178c85d4120977f66a589872e54d")

def alicePanel : Panel where
  backend := { console := { users := { users := AList.insert (ofString "alice") alice ∅ } } }

def aliceToken : ByteString := ofString ("eyJhbGciOiJIUzI1NiIsInR5cCI6IkpXVCJ9." ++
  "eyJleHAiOjE3NTAwMDE4MDAsInJvbGUiOiJ1c2VyIiwidXNlcm5hbWUiOiJhbGljZSJ9." ++
  "S1X8/6wYt8xNl5lxYvMujjlD7KpO5HxsRY4yD/NJ+08")

def aliceLogin : ApiEvent where
  outside := { now := 1750000000 }
  request := ⟨ofString "/api/auth/login", none, none⟩
  call := .postLogin aliceBody

/-- A minute later she wants to change the settings. -/
def aliceChange : ApiEvent where
  outside := { now := 1750000060 }
  request := ⟨ofString "/api/settings", some (ofString "Bearer " ++ aliceToken), none⟩
  call := .putSettings aliceBody

theorem aliceRun_allowed : Along (step aliceLibrary) (fun s e ↦ Honest aliceLibrary s e ∧
    ReadsBack aliceLibrary s e ∧
    ¬LogsInAsAdmin aliceLibrary alicePanel.backend.console.loader.config e) alicePanel
    [aliceLogin, aliceChange] := by
  have hadmin : LoginRecords.credentials (aliceLibrary.parsed aliceBody) =
      some (ofString "alice", ofString "secret") := by decide +kernel
  have hlogin : (alicePanel.backend.login aliceLibrary aliceLogin.outside aliceBody).1 =
      .loggedIn (ofString "alice") (ofString "user") := by decide +kernel
  refine ⟨⟨fun hv ↦ ?_, ?_, ?_⟩, fun t ht ↦ ⟨⟨fun _ ↦ ?_, ?_, ?_⟩, fun _ _ ↦ trivial⟩⟩
  · exact absurd hv (by decide)
  · intro body hbody username role hgranted _
    obtain rfl := ApiCall.postLogin.inj hbody
    obtain ⟨rfl, rfl⟩ := LoginResponse.loggedIn.inj (hlogin.symm.trans hgranted)
    exact congrArg some rfl
  · rintro ⟨body, password, hbody, hcredentials, -⟩
    obtain rfl := ApiCall.postLogin.inj hbody
    have hname : ofString "alice" = alicePanel.backend.console.loader.config.adminUsername :=
      congrArg Prod.fst (Option.some.inj (hadmin.symm.trans hcredentials))
    exact absurd hname (by decide)
  · have hissued : alicePanel.brought aliceLibrary aliceLogin =
        some (extractToken aliceChange.request, ofString "user") := by decide +kernel
    obtain rfl := Except.ok.inj ht
    refine ⟨ofString "user", List.mem_append_right _ ?_⟩
    rw [hissued]
    exact List.mem_singleton_self _
  · exact fun body hbody ↦ ApiCall.noConfusion hbody
  · rintro ⟨body, password, hbody, -⟩
    cases hbody

/-- She is logged in, and nothing has changed. -/
theorem aliceRun_no_escalation : ∃ s,
    run (step aliceLibrary) alicePanel [aliceLogin, aliceChange] = .ok s ∧
    s.backend = { alicePanel.backend with logins := s.backend.logins } := by
  obtain ⟨s, hs⟩ : ∃ s, run (step aliceLibrary) alicePanel [aliceLogin, aliceChange] = .ok s :=
    ⟨_, rfl⟩
  exact ⟨s, hs, (no_escalation aliceLibrary rfl aliceRun_allowed hs).1⟩

end Panel

end LanProxyGateway
