import LanProxyGateway.Foundation.Text
import Mathlib.Data.List.DropRight

/-!
# Password hashes

`password_hasher` prefers bcrypt, which it runs in a `python3` process behind a pipe, and falls back
to PBKDF2-HMAC-SHA256. A stored hash says by its first bytes which of the two made it; the PBKDF2
form carries its iteration count in decimal, and `verify` reads it with `std::stoi`.

The process and the key derivation are the two functions of a `HashLibrary`.
-/

open Foundation ByteString

namespace LanProxyGateway

/-- What `password_hasher` calls and does not contain. -/
structure HashLibrary where
  /-- The output of a shell command, read to its end; `none` where no pipe could be opened. -/
  popen : ByteString → Option ByteString
  /-- The bytes in `derived` after `PKCS5_PBKDF2_HMAC` on a password, a salt and a number of
  iterations. -/
  pbkdf2HmacSha256 : ByteString → ByteString → Int → ByteString

namespace PasswordHasher

/-- `hex_encode` and `bytes_to_hex`: two lower-case digits for each byte. -/
def hexEncode (s : ByteString) : ByteString :=
  s.flatMap fun c ↦ [hexDigit (c.toNat >>> 4), hexDigit c.toNat]

def pbkdf2Hash (lib : HashLibrary) (password saltHex : ByteString) (iterations : Int) :
    ByteString :=
  hexEncode (lib.pbkdf2HmacSha256 password saltHex iterations)

/-- `while (!s.empty() && (s.back() == '\n' || s.back() == '\r')) s.pop_back();`. -/
def trimNewlines (s : ByteString) : ByteString := s.rdropWhile fun c ↦ c == 10 || c == 13

/-- The command line of `python_bcrypt_hash`. -/
def bcryptHashCommand (password : ByteString) : ByteString :=
  ofString "python3 -c \"import bcrypt,binascii; pw=binascii.unhexlify('"
    ++ hexEncode password
    ++ ofString "').decode(); print(bcrypt.hashpw(pw.encode(), bcrypt.gensalt(10)).decode())\" "
    ++ ofString "2>/dev/null"

def pythonBcryptHash (lib : HashLibrary) (password : ByteString) : ByteString :=
  match lib.popen (bcryptHashCommand password) with
  | none => []
  | some output => trimNewlines output

/-- The command line of `python_bcrypt_verify`. -/
def bcryptVerifyCommand (password hashStr : ByteString) : ByteString :=
  ofString "python3 -c \"import bcrypt,binascii; pw=binascii.unhexlify('"
    ++ hexEncode password
    ++ ofString "').decode(); h=binascii.unhexlify('"
    ++ hexEncode hashStr
    ++ ofString "').decode(); print('ok' if bcrypt.checkpw(pw.encode(), h.encode()) else 'fail')\" "
    ++ ofString "2>/dev/null"

def pythonBcryptVerify (lib : HashLibrary) (password hashStr : ByteString) : Bool :=
  match lib.popen (bcryptVerifyCommand password hashStr) with
  | none => false
  | some output => trimNewlines output == ofString "ok"

/-- The test for a bcrypt hash. -/
def isBcrypt (s : ByteString) : Bool :=
  s.take 3 == ofString "$2a" || s.take 3 == ofString "$2b"

/-- `password_hasher::hash`, with the salt the fallback draws. -/
def hash (lib : HashLibrary) (salt password : ByteString) : ByteString :=
  let bcryptResult := pythonBcryptHash lib password
  if !bcryptResult.isEmpty && decide (10 < bcryptResult.length) && isBcrypt bcryptResult then
    bcryptResult
  else
    ofString "$pbkdf2-sha256$100000$" ++ hexEncode salt ++ ofString "$"
      ++ pbkdf2Hash lib password (hexEncode salt) 100000

/-- The iteration count, the salt and the derived key of a stored PBKDF2 hash, as text, or `none`
when a `$` is missing. -/
def pbkdf2Parts (hashStr : ByteString) : Option (ByteString × ByteString × ByteString) := do
  let d1 ← find hashStr (ofString "$") 1
  let d2 ← find hashStr (ofString "$") (d1 + 1)
  let d3 ← find hashStr (ofString "$") (d2 + 1)
  some (substr hashStr (d1 + 1) (d2 - d1 - 1),
    substr hashStr (d2 + 1) (d3 - d2 - 1), hashStr.drop (d3 + 1))

/-- `password_hasher::verify`. The comparison of the sizes and `CRYPTO_memcmp` together compare the
two strings. -/
def verify (lib : HashLibrary) (password hashStr : ByteString) : Except CxxException Bool :=
  if hashStr.isEmpty then .ok false
  else if isBcrypt hashStr then .ok (pythonBcryptVerify lib password hashStr)
  else if hashStr.take 15 == ofString "$pbkdf2-sha256$" then
    match pbkdf2Parts hashStr with
    | none => .ok false
    | some (iterStr, saltHex, storedDerived) =>
      (stoi iterStr).map fun iterations ↦
        pbkdf2Hash lib password saltHex iterations == storedDerived
  else .ok false

/-- A stored hash whose iteration count `std::stoi` cannot read. -/
def hasBadIterations (hashStr : ByteString) : Prop :=
  isBcrypt hashStr = false ∧ hashStr.take 15 = ofString "$pbkdf2-sha256$" ∧
    ∃ parts, pbkdf2Parts hashStr = some parts ∧ ∃ e, stoi parts.1 = .error e

/-- `verify` throws on such hashes only. -/
theorem verify_isOk_iff (lib : HashLibrary) (password hashStr : ByteString) :
    (∃ b, verify lib password hashStr = .ok b) ↔ ¬hasBadIterations hashStr := by
  have hne : hashStr.take 15 = ofString "$pbkdf2-sha256$" → hashStr.isEmpty = false := by
    intro h
    cases hashStr with
    | nil => exact absurd h (by decide)
    | cons c s => rfl
  rw [verify, hasBadIterations]
  by_cases hp : hashStr.take 15 = ofString "$pbkdf2-sha256$"
  · rw [hne hp, if_neg Bool.false_ne_true]
    cases hb : isBcrypt hashStr with
    | true => exact ⟨fun _ h ↦ absurd h.1 (by decide), fun _ ↦ ⟨_, rfl⟩⟩
    | false =>
      rw [if_neg Bool.false_ne_true, if_pos (beq_iff_eq.mpr hp)]
      cases hparts : pbkdf2Parts hashStr with
      | none =>
        refine ⟨fun _ h ↦ ?_, fun _ ↦ ⟨_, rfl⟩⟩
        obtain ⟨-, -, parts, hsome, -⟩ := h
        cases hsome
      | some parts =>
        obtain ⟨iterStr, saltHex, stored⟩ := parts
        cases hs : stoi iterStr with
        | ok n =>
          refine ⟨fun _ h ↦ ?_, fun _ ↦ ⟨_, by simp only [hs, Except.map]; rfl⟩⟩
          obtain ⟨-, -, parts, hsome, e, he⟩ := h
          cases hsome
          rw [hs] at he
          cases he
        | error e =>
          refine ⟨fun h ↦ ?_, fun h ↦ absurd ⟨rfl, hp, _, rfl, e, hs⟩ h⟩
          obtain ⟨b, hb⟩ := h
          simp only [hs, Except.map] at hb
          cases hb
  · refine ⟨fun _ h ↦ hp h.2.1, fun _ ↦ ?_⟩
    rw [if_neg (c := (hashStr.take 15 == _) = true) (by rwa [beq_iff_eq])]
    by_cases he : hashStr.isEmpty
    · exact ⟨_, if_pos he⟩
    · rw [if_neg he]
      by_cases hb : isBcrypt hashStr
      · exact ⟨_, if_pos hb⟩
      · exact ⟨_, if_neg hb⟩

end PasswordHasher

end LanProxyGateway
