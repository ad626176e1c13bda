import LanProxyGateway.Foundation.Json
import LanProxyGateway.UserManager.UserManager

/-!
# The login

The handler of `POST /api/auth/login` counts the failed logins of every name. With the fifth failure
the name is locked for 900 seconds and its count starts again; a successful login forgets both. The
two maps are shared by all names. Every attempt begins with a cleanup that drops the locks that have
expired and, when more than a thousand names have a count, all counts.

The handler reads the clock several times; here one attempt has one time. Of the 200 answer only the
name and the role are kept for which a token is signed.
-/

open Foundation ByteString

namespace LanProxyGateway

/-- The entries of a map whose values have a property. -/
def keepValues (p : Int → Bool) (m : AList fun _ : ByteString ↦ Int) :
    AList fun _ : ByteString ↦ Int :=
  ⟨m.entries.filter fun e ↦ p e.2, m.nodupKeys.sublist List.filter_sublist⟩

theorem lookup_keepValues (p : Int → Bool) (m : AList fun _ : ByteString ↦ Int) (key : ByteString) :
    (keepValues p m).lookup key = (m.lookup key).filter p := by
  have hmem : ∀ (m : AList fun _ : ByteString ↦ Int) (value : Int),
      m.lookup key = some value ↔ ⟨key, value⟩ ∈ m.entries := fun _ _ ↦ AList.mem_lookup_iff
  ext value
  rw [hmem, Option.filter_eq_some_iff, hmem]
  exact List.mem_filter

/-- `g_login_fail_count` and `g_login_lock_until`. -/
structure LoginRecords where
  failCount : AList fun _ : ByteString ↦ Int := ∅
  lockUntil : AList fun _ : ByteString ↦ Int := ∅

/-- What an attempt finds: the time, in seconds since the epoch, the configuration and the users. -/
structure LoginContext where
  now : Int
  lib : HashLibrary
  config : SystemConfig := {}
  users : UserManager := {}

inductive LoginResponse
  /-- With a token for the name and the role. -/
  | loggedIn (username role : ByteString)
  | badRequest
  | invalidCredentials
  | accountDisabled
  | accountExpired
  | locked (remaining : Int)
  deriving DecidableEq, Repr

namespace LoginResponse

/-- The status code. -/
def code : LoginResponse → ℕ
  | loggedIn _ _ => 200
  | badRequest => 400
  | invalidCredentials => 401
  | accountDisabled => 403
  | accountExpired => 403
  | locked _ => 429

end LoginResponse

namespace LoginRecords

/-- `cleanup_expired_login_records`. -/
def cleanup (r : LoginRecords) (now : Int) : LoginRecords where
  failCount := if 1000 < r.failCount.entries.length then ∅ else r.failCount
  lockUntil := keepValues (fun lockEnd ↦ now < lockEnd) r.lockUntil

/-- What a successful login does. -/
def forget (r : LoginRecords) (username : ByteString) : LoginRecords where
  failCount := r.failCount.erase username
  lockUntil := r.lockUntil.erase username

/-- What a failed login does. -/
def fail (r : LoginRecords) (now : Int) (username : ByteString) : LoginRecords :=
  let count := (r.failCount.lookup username).getD 0 + 1
  if 5 ≤ count then
    { failCount := r.failCount.erase username
      lockUntil := r.lockUntil.insert username (now + 900) }
  else { r with failCount := r.failCount.insert username count }

/-- The handler, past the check for a lock. -/
def check (c : LoginContext) (r : LoginRecords) (username password : ByteString) :
    LoginResponse × LoginRecords :=
  if username = c.config.adminUsername then
    match PasswordHasher.verify c.lib password c.config.adminPasswordHash with
    | .error _ => (.badRequest, r)
    | .ok true => (.loggedIn username (ofString "admin"), r.forget username)
    | .ok false => (.invalidCredentials, r.fail c.now username)
  else
    match c.users.authenticate c.lib c.config c.now username password with
    | .error _ => (.badRequest, r)
    | .ok true =>
      let info := c.users.getUserInfo username
      if !info.active then (.accountDisabled, r)
      else if 0 < info.expireTime ∧ info.expireTime ≤ c.now then (.accountExpired, r)
      else (.loggedIn username (ofString "user"), r.forget username)
    | .ok false => (.invalidCredentials, r.fail c.now username)

/-- The name and the password in the body of a request, `none` where it does not parse or has
something else in their place. -/
def credentials (body : Option Json) : Option (ByteString × ByteString) := do
  let body ← body
  let username ← Json.value Json.getString "username" [] body
  let password ← Json.value Json.getString "password" [] body
  some (username, password)

/-- `POST /api/auth/login`, for a body that `nlohmann::json::parse` has parsed, if it could. -/
def login (c : LoginContext) (r : LoginRecords) (body : Option Json) :
    LoginResponse × LoginRecords :=
  match credentials body with
  | none => (.badRequest, r)
  | some (username, password) =>
    let r := r.cleanup c.now
    match r.lockUntil.lookup username with
    | some lockEnd =>
      if c.now < lockEnd then (.locked (lockEnd - c.now), r) else check c r username password
    | none => check c r username password

end LoginRecords

end LanProxyGateway
