import LanProxyGateway.ConfigManager.SystemConfig
import LanProxyGateway.UserManager.PasswordHasher

/-!
# Loading the configuration

`config_loader::load`, `validate` and `apply_cli_overrides`, and the beginning of `main` up to the
call of `jwt_util::set_secret`.

`load` has three exits: no file, an exception of the JSON library, and the end of the assignments.
The first and the last make up a random secret where there is none. `main` loads at least twice when
a `--config` option is given: once while it goes through the options, and once with the path it
picks out of them itself.
-/

open Foundation ByteString

namespace LanProxyGateway

/-- What one call of `load` draws from outside: eight random words, and the salt and the library
that `password_hasher::hash` uses. -/
structure Entropy where
  words : Vector UInt32 8
  salt : ByteString
  lib : HashLibrary

structure ConfigLoader where
  config : SystemConfig := {}
  configPath : ByteString := []

namespace ConfigLoader

/-- The eight words of `%08x`, one after the other. -/
def randomSecret (e : Entropy) : ByteString := e.words.toList.flatMap hex8

/-- `if (m_config.jwt_secret.empty()) …`. -/
def supplySecret (e : Entropy) (c : SystemConfig) : SystemConfig :=
  if c.jwtSecret.isEmpty then { c with jwtSecret := randomSecret e } else c

/-- The part of the password test that `load` and `validate` share. -/
def hasNoPassword (c : SystemConfig) : Bool :=
  c.adminPasswordHash.isEmpty || (find c.adminPasswordHash (ofString "placeholder") 0).isSome

def supplyPassword (e : Entropy) (c : SystemConfig) : SystemConfig :=
  if hasNoPassword c then
    { c with adminPasswordHash := PasswordHasher.hash e.lib e.salt (ofString "changeme") }
  else c

/-- The effect of `config_loader::load` on the record, and the value it returns. -/
def loadConfig (e : Entropy) (content : FileContent) (c : SystemConfig) : SystemConfig × Bool :=
  match content with
  | .absent => (supplyPassword e (supplySecret e c), false)
  | .malformed => (c, false)
  | .json j =>
    let (c, completed) := assignFields j configFields c
    if completed then (supplySecret e c, true) else (c, false)

/-- `config_loader::load`. -/
def load (l : ConfigLoader) (e : Entropy) (files : ByteString → FileContent)
    (filepath : ByteString) : ConfigLoader × Bool :=
  let (c, ok) := loadConfig e (files filepath) l.config
  (⟨c, filepath⟩, ok)

def setProxyPort (l : ConfigLoader) (port : Int) : ConfigLoader :=
  { l with config := { l.config with proxyPort := port } }

def setWebUiPort (l : ConfigLoader) (port : Int) : ConfigLoader :=
  { l with config := { l.config with webUiPort := port } }

def isPort (n : Int) : Bool := decide (1 ≤ n ∧ n ≤ 65535)

/-- `config_loader::validate`. -/
def validate (l : ConfigLoader) : Bool :=
  let c := l.config
  isPort c.proxyPort && isPort c.webUiPort && isPort c.v2raynLocalSocksPort
    && isPort c.v2raynLocalHttpPort && decide (1 ≤ c.proxyThreadCount)
    && !c.adminUsername.isEmpty && !c.jwtSecret.isEmpty && !hasNoPassword c
    && (c.defaultRouteAction == ofString "direct" || c.defaultRouteAction == ofString "proxy")

end ConfigLoader

/-! ## The start of the program -/

/-- Why `main` ended before it set the secret. -/
inductive EarlyEnd
  /-- `--help`. -/
  | exited
  | uncaught (e : CxxException)
  deriving DecidableEq, Repr

/-- The world `main` starts in: the files, and what the `n`-th call of `load` draws. -/
structure Startup where
  files : ByteString → FileContent
  entropy : ℕ → Entropy

namespace Startup

/-- `config_loader::apply_cli_overrides` over the arguments behind the program name, `n` loads into
the run. The result carries the number of loads made so far. -/
def applyCliOverrides (w : Startup) : List ByteString → ℕ → ConfigLoader →
    Except EarlyEnd (ℕ × ConfigLoader)
  | [], n, l => .ok (n, l)
  | [arg], n, l => if arg = ofString "--help" then .error .exited else .ok (n, l)
  | arg :: value :: rest, n, l =>
    if arg = ofString "--config" then
      applyCliOverrides w rest (n + 1) (l.load (w.entropy n) w.files value).1
    else if arg = ofString "--proxy-port" then
      match stoi value with
      | .ok port => applyCliOverrides w rest n (l.setProxyPort port)
      | .error e => .error (.uncaught e)
    else if arg = ofString "--web-port" then
      match stoi value with
      | .ok port => applyCliOverrides w rest n (l.setWebUiPort port)
      | .error e => .error (.uncaught e)
    else if arg = ofString "--help" then .error .exited
    else applyCliOverrides w (value :: rest) n l

/-- The path `main` picks out of the arguments: that of the last `--config`. It skips the value of
no other option. -/
def configPath : List ByteString → ByteString → ByteString
  | [], path => path
  | [_], path => path
  | arg :: value :: rest, path =>
    if arg = ofString "--config" then configPath rest value else configPath (value :: rest) path

/-- `main` up to `jwt_util::set_secret`: the loader as it is then. A failed `validate` only prints a
warning. -/
def loaderAtSetSecret (w : Startup) (args : List ByteString) : Except EarlyEnd ConfigLoader := do
  let (n, l) ← w.applyCliOverrides args 0 {}
  .ok (l.load (w.entropy n) w.files (configPath args (ofString "config/default_system.json"))).1

/-- The secret `main` passes to `jwt_util::set_secret`. -/
def secretSet (w : Startup) (args : List ByteString) : Except EarlyEnd ByteString :=
  (w.loaderAtSetSecret args).map fun l ↦ l.config.jwtSecret

end Startup

end LanProxyGateway
