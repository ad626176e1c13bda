import LanProxyGateway.ConfigManager.SystemConfig
import LanProxyGateway.UserManager.PasswordHasher
import Mathlib.Data.List.AList

/-!
# Users

`user_manager::authenticate` knows the administrator from the configuration and every other user
from its own table, where an account has to be active and not expired. The password itself is
checked by `password_hasher::verify`, whose exceptions nobody catches here.

The table is read from a file and written to it. Reading stops at the first entry that does not
convert, and keeps what it has read until then.
-/

open Foundation ByteString

namespace LanProxyGateway

structure UserInfo where
  username : ByteString := []
  passwordHash : ByteString := []
  /-- Seconds since the epoch; zero for an account without an end. -/
  expireTime : Int := 0
  active : Bool := true
  deriving DecidableEq, Repr

structure UserManager where
  filepath : ByteString := []
  users : AList fun _ : ByteString ↦ UserInfo := ∅

namespace UserManager

/-- The stored hash that decides about a user name, if there is one at this time. -/
def hashFor (m : UserManager) (cfg : SystemConfig) (time : Int) (username : ByteString) :
    Option ByteString :=
  if username = cfg.adminUsername then some cfg.adminPasswordHash
  else
    match m.users.lookup username with
    | none => none
    | some info =>
      if !info.active then none
      else if 0 < info.expireTime ∧ info.expireTime < time then none
      else some info.passwordHash

/-- `user_manager::authenticate`. -/
def authenticate (m : UserManager) (lib : HashLibrary) (cfg : SystemConfig) (time : Int)
    (username password : ByteString) : Except CxxException Bool :=
  match m.hashFor cfg time username with
  | none => .ok false
  | some hashStr => PasswordHasher.verify lib password hashStr

/-- `user_manager::get_user_info`: the defaults for a name that is not in the table. -/
def getUserInfo (m : UserManager) (username : ByteString) : UserInfo :=
  (m.users.lookup username).getD {}

/-! ## Changing the table -/

/-- `user_manager::add_user`. The length of the account in seconds is an `int`, its end a
`time_t`. -/
def addUser (m : UserManager) (lib : HashLibrary) (salt : ByteString) (time : Int)
    (username password : ByteString) (days : Int) : Bool × UserManager :=
  if username ∈ m.users then (false, m)
  else
    let info : UserInfo := {
      username := username
      passwordHash := PasswordHasher.hash lib salt password
      expireTime :=
        if 0 < days then Json.castInt64 (time + Json.castInt (days * 24 * 3600)) else 0
      active := true }
    (true, { m with users := m.users.insert username info })

/-- `user_manager::remove_user`. -/
def removeUser (m : UserManager) (username : ByteString) : Bool × UserManager :=
  if username ∈ m.users then (true, { m with users := m.users.erase username }) else (false, m)

/-- A change of the account under a name, false where there is none. -/
def modifyUser (m : UserManager) (username : ByteString) (f : UserInfo → UserInfo) :
    Bool × UserManager :=
  match m.users.lookup username with
  | none => (false, m)
  | some info => (true, { m with users := m.users.insert username (f info) })

/-- `user_manager::set_status`. -/
def setStatus (m : UserManager) (username : ByteString) (active : Bool) : Bool × UserManager :=
  m.modifyUser username fun info ↦ { info with active := active }

/-- `user_manager::update_password`. -/
def updatePassword (m : UserManager) (lib : HashLibrary) (salt : ByteString)
    (username newPassword : ByteString) : Bool × UserManager :=
  m.modifyUser username fun info ↦
    { info with passwordHash := PasswordHasher.hash lib salt newPassword }

/-! ## The file -/

/-- An entry of the file, `none` where a conversion throws. -/
def readUser (u : Json) : Option UserInfo := do
  let username ← Json.value Json.getString "username" [] u
  let passwordHash ← Json.value Json.getString "password_hash" [] u
  let expireTime ← Json.value Json.getInt64 "expire_time" 0 u
  let active ← Json.value Json.getBool "active" true u
  some { username, passwordHash, expireTime, active }

/-- The loop over the entries: whether it came to the end, and the table it made. -/
def readUsers (users : AList fun _ : ByteString ↦ UserInfo) :
    List Json → Bool × AList fun _ : ByteString ↦ UserInfo
  | [] => (true, users)
  | u :: us =>
    match readUser u with
    | none => (false, users)
    | some info =>
      readUsers (if info.username = [] then users else users.insert info.username info) us

/-- `user_manager::load`. -/
def load (filepath : ByteString) (file : FileContent) : Bool × UserManager :=
  match file with
  | .absent => (false, { filepath := filepath })
  | .malformed => (false, { filepath := filepath })
  | .json j =>
    let (ok, users) := readUsers ∅ ((j.member? (ofString "users")).elim [] Json.arrayItems)
    (ok, { filepath := filepath, users := users })

/-- An account as `save` writes it. -/
def userJson (info : UserInfo) : Json := .ofFields [
  ("username", .string info.username),
  ("password_hash", .string info.passwordHash),
  ("expire_time", .integer info.expireTime),
  ("active", .boolean info.active)]

def usersJson (m : UserManager) : Json := .ofFields [
  ("version", .integer 1),
  ("users", .array (m.users.entries.map fun e ↦ userJson e.2))]

/-- What the file system answers to a save. -/
structure SaveAnswer where
  opensTmp : Bool := true
  /-- All of the text reaches the file; nobody asks the stream. -/
  writes : Bool := true
  renames : Bool := true
  deriving DecidableEq, Repr

/-- `user_manager::save`: whether it succeeds, and what is in the file afterwards. A part of the
text is no JSON. -/
def save (answer : SaveAnswer) (m : UserManager) (file : FileContent) :
    Except CxxException (Bool × FileContent) :=
  if m.filepath.isEmpty then .ok (false, file)
  else if !answer.opensTmp then .ok (false, file)
  else if !m.usersJson.isSerializable then .error .typeError
  else if answer.renames then
    .ok (true, if answer.writes then .json m.usersJson else .malformed)
  else .ok (false, file)

end UserManager

end LanProxyGateway
