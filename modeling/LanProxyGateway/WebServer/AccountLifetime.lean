import LanProxyGateway.WebServer.Login

/-!
# The lifetime of an account

An account is made for a number of days, and `add_user` turns them into the time at which it ends:
the length in seconds is computed as an `int`, and wraps from 24856 days on. Two functions ask about
that time. `user_manager::authenticate` refuses what comes later, the login what comes at it or
later, so at its last second an account can still use the proxy but no longer log in on the web
page.
-/

open Foundation ByteString

namespace LanProxyGateway

open LoginRecords (credentials)

namespace UserManager

/-! ## What two functions say about an account -/

/-- Both let the user in: the proxy, and the login of a name that is not locked. -/
structure Accepts (m : UserManager) (lib : HashLibrary) (cfg : SystemConfig) (t : Int)
    (username password : ByteString) : Prop where
  proxy : m.authenticate lib cfg t username password = .ok true
  login : ∀ (r : LoginRecords) body, credentials body = some (username, password) →
    r.lockUntil.lookup username = none → (r.login ⟨t, lib, cfg, m⟩ body).1.code = 200

/-- Both refuse. -/
structure Refuses (m : UserManager) (lib : HashLibrary) (cfg : SystemConfig) (t : Int)
    (username password : ByteString) : Prop where
  proxy : m.authenticate lib cfg t username password ≠ .ok true
  login : ∀ (r : LoginRecords) body, credentials body = some (username, password) →
    (r.login ⟨t, lib, cfg, m⟩ body).1.code ≠ 200

/-- An account made at `made` for `days` days is accepted until its last second and refused
afterwards. -/
structure LivesFor (m : UserManager) (lib : HashLibrary) (cfg : SystemConfig) (made days : Int)
    (username password : ByteString) : Prop where
  accepted : ∀ t, made ≤ t → t ≤ made + 86400 * days → m.Accepts lib cfg t username password
  refused : ∀ t, made + 86400 * days < t → m.Refuses lib cfg t username password

/-! ## What the two functions look at -/

section Windows

variable {m : UserManager} {lib : HashLibrary} {cfg : SystemConfig} {t : Int}
  {username password : ByteString}

/-- A name without a lock goes on to the check of its password. -/
theorem login_of_unlocked {r : LoginRecords} {c : LoginContext} {body : Option Json}
    (hbody : credentials body = some (username, password))
    (hlock : r.lockUntil.lookup username = none) :
    r.login c body = LoginRecords.check c (r.cleanup c.now) username password := by
  have hclean : (r.cleanup c.now).lockUntil.lookup username = none := by
    rw [LoginRecords.cleanup, lookup_keepValues, hlock]
    rfl
  rw [LoginRecords.login, hbody]
  simp only [hclean]

/-- A user who is no administrator logs in with the password that the proxy takes, unless the
account ends now. -/
theorem code_check_iff {r : LoginRecords} (hadmin : username ≠ cfg.adminUsername) :
    (LoginRecords.check ⟨t, lib, cfg, m⟩ r username password).1.code = 200 ↔
      m.authenticate lib cfg t username password = .ok true ∧
        (m.getUserInfo username).active = true ∧
        ¬(0 < (m.getUserInfo username).expireTime ∧ (m.getUserInfo username).expireTime ≤ t) := by
  simp only [LoginRecords.check, if_neg hadmin]
  rcases m.authenticate lib cfg t username password with e | _ | _
  · simp [LoginResponse.code]
  · simp [LoginResponse.code]
  · cases (m.getUserInfo username).active with
    | false => simp [LoginResponse.code]
    | true =>
      by_cases hend :
        0 < (m.getUserInfo username).expireTime ∧ (m.getUserInfo username).expireTime ≤ t
      · simp [hend, LoginResponse.code]
      · simp only [hend, LoginResponse.code, Bool.not_true, Bool.false_eq_true, if_false,
          not_false_eq_true, and_self]

/-- The hash of the administrator does not depend on the time, and a user has the same hash at any
two times at which the account has not ended. -/
theorem authenticate_eq_of_not_ended {t' : Int} (hinfo : username ≠ cfg.adminUsername →
      (0 < (m.getUserInfo username).expireTime ∧ (m.getUserInfo username).expireTime < t ↔
        0 < (m.getUserInfo username).expireTime ∧ (m.getUserInfo username).expireTime < t')) :
    m.authenticate lib cfg t username password = m.authenticate lib cfg t' username password := by
  have hhash : m.hashFor cfg t username = m.hashFor cfg t' username := by
    by_cases hadmin : username = cfg.adminUsername
    · rw [hashFor, hashFor, if_pos hadmin, if_pos hadmin]
    · have hinfo := hinfo hadmin
      rw [hashFor, hashFor, if_neg hadmin, if_neg hadmin]
      rcases hlookup : m.users.lookup username with _ | info
      · rfl
      · rw [getUserInfo, hlookup] at hinfo
        simp only [Option.getD_some] at hinfo
        simp only [hinfo]
  rw [authenticate, authenticate, hhash]

/-- A request that presents a name and a password. -/
def loginBody (username password : ByteString) : Json :=
  .ofFields [("username", .string username), ("password", .string password)]

theorem credentials_loginBody (username password : ByteString) :
    credentials (some (loginBody username password)) = some (username, password) := rfl

/-- Who is accepted by both at a time is let through the proxy a second later too: for the login the
account ends a second before it ends for the proxy. -/
theorem Accepts.next (h : m.Accepts lib cfg t username password) :
    m.authenticate lib cfg (t + 1) username password = .ok true := by
  rw [← h.proxy]
  apply authenticate_eq_of_not_ended
  intro hadmin
  have hlogin := h.login {} _ (credentials_loginBody username password) rfl
  rw [login_of_unlocked (credentials_loginBody username password) rfl,
    code_check_iff hadmin] at hlogin
  have hend := hlogin.2.2
  omega

/-- **No account lives as long as it is made for.** Its last second is not the same for the two. -/
theorem not_livesFor (m : UserManager) (lib : HashLibrary) (cfg : SystemConfig) (salt : ByteString)
    (username password : ByteString) (made : Int) {days : Int} (hdays : 0 < days) :
    ¬(m.addUser lib salt made username password days).2.LivesFor lib cfg made days username
      password := by
  intro h
  have hlast := h.accepted (made + 86400 * days) (by omega) le_rfl
  exact (h.refused (made + 86400 * days + 1) (by omega)).proxy hlast.next

/-- Python is not there, and the derived key is 32 zero bytes. -/
def plainLibrary : HashLibrary := ⟨fun _ ↦ none, fun _ _ _ ↦ List.replicate 32 0⟩

/-- The table with the one account that is made at the time 1000 for one day. -/
def dayAccount : UserManager :=
  (addUser {} plainLibrary [] 1000 (ofString "u") (ofString "p") 1).2

theorem dayAccount_not_livesFor :
    ¬dayAccount.LivesFor plainLibrary {} 1000 1 (ofString "u") (ofString "p") :=
  not_livesFor {} plainLibrary {} [] (ofString "u") (ofString "p") 1000 (by decide)

/-- A day later the proxy takes the password, and the login says that the account has expired. -/
theorem dayAccount_last_second :
    dayAccount.authenticate plainLibrary {} 87400 (ofString "u") (ofString "p") = .ok true ∧
      (LoginRecords.login ⟨87400, plainLibrary, {}, dayAccount⟩ {}
        (some (loginBody (ofString "u") (ofString "p")))).1 = .accountExpired ∧
      ¬dayAccount.LivesFor plainLibrary {} 1000 1 (ofString "u") (ofString "p") := by
  have hexpired : (LoginRecords.login ⟨87400, plainLibrary, {}, dayAccount⟩ {}
      (some (loginBody (ofString "u") (ofString "p")))).1 = .accountExpired := by
    decide +kernel
  refine ⟨?_, hexpired, fun h ↦ ?_⟩
  · have hproxy : (dayAccount.authenticate plainLibrary {} 87400 (ofString "u")
        (ofString "p")).toOption = some true := by
      decide +kernel
    rcases hauth : dayAccount.authenticate plainLibrary {} 87400 (ofString "u") (ofString "p")
      with e | ok
    · rw [hauth] at hproxy
      cases hproxy
    · rw [hauth] at hproxy
      rw [Option.some.inj hproxy]
  · have hlogin := (h.accepted 87400 (by decide) (by decide)).login {} _
      (credentials_loginBody (ofString "u") (ofString "p")) rfl
    rw [hexpired] at hlogin
    exact absurd hlogin (by decide)

/-! ## The account that `add_user` makes -/

/-- `info.expire_time` of an account made at `made` for `days` days. -/
def accountEnd (made days : Int) : Int := Json.castInt64 (made + Json.castInt (days * 24 * 3600))

/-- Up to 24855 days the seconds fit into an `int`. -/
theorem accountEnd_eq {made days : Int} (hdays : 0 < days) (hshort : days ≤ 24855)
    (hmade : 0 ≤ made) (hfits : made + 86400 * days ≤ 9223372036854775807) :
    accountEnd made days = made + 86400 * days := by
  rw [accountEnd, Json.castInt_of_bounds (by omega) (by omega),
    Json.castInt64_of_bounds (by omega) (by omega)]
  omega

variable {salt : ByteString} {made days : Int}

theorem lookup_addUser (lib : HashLibrary) (salt password : ByteString) (made : Int)
    (hnew : username ∉ m.users) (hdays : 0 < days) :
    (m.addUser lib salt made username password days).2.users.lookup username =
      some ⟨username, PasswordHasher.hash lib salt password, accountEnd made days, true⟩ := by
  rw [addUser, if_neg hnew, AList.lookup_insert, if_pos hdays]
  rfl

/-- One day more, and the account has ended long before it is made. -/
example : accountEnd 1700000000 24856 = -447408896 := by decide

/-- The proxy lets the user in until the account ends, the login until the second before. -/
theorem windows_addUser (hnew : username ∉ m.users) (hadmin : username ≠ cfg.adminUsername)
    (hright : PasswordHasher.verify lib password (PasswordHasher.hash lib salt password) = .ok true)
    (hdays : 0 < days) (hshort : days ≤ 24855) (hmade : 0 ≤ made)
    (hfits : made + 86400 * days ≤ 9223372036854775807) :
    ((m.addUser lib salt made username password days).2.authenticate lib cfg t username password =
        .ok true ↔ t ≤ made + 86400 * days) ∧
      ∀ r : LoginRecords,
        (LoginRecords.check ⟨t, lib, cfg, (m.addUser lib salt made username password days).2⟩ r
          username password).1.code = 200 ↔ t < made + 86400 * days := by
  have hlookup := lookup_addUser lib salt password made hnew hdays
  rw [accountEnd_eq hdays hshort hmade hfits] at hlookup
  set m' := (m.addUser lib salt made username password days).2
  have hproxy : m'.authenticate lib cfg t username password = .ok true ↔
      t ≤ made + 86400 * days := by
    rw [authenticate, hashFor, if_neg hadmin, hlookup]
    by_cases hlate : made + 86400 * days < t
    · have hend : 0 < made + 86400 * days := by omega
      simp [hend, hlate]
    · simp only [Bool.not_true, Bool.false_eq_true, if_false, hlate, and_false, hright, true_iff]
      omega
  refine ⟨hproxy, fun r ↦ ?_⟩
  rw [code_check_iff hadmin, hproxy, getUserInfo, hlookup]
  simp only [Option.getD_some, true_and]
  omega

end Windows

end UserManager

end LanProxyGateway
