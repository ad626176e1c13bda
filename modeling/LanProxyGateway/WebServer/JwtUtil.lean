import LanProxyGateway.Foundation.Base64
import LanProxyGateway.Foundation.Json
import Mathlib.Data.List.DropRight

/-!
# Tokens

`jwt_util` verifies a token `header.payload.signature` by computing the signature of its first two
parts anew and then comparing the expiry time in the payload with the clock. HMAC-SHA256 and the
JSON parser are fields of a `JwtUtil`, next to the secret and the time.
-/

open Foundation ByteString

namespace LanProxyGateway

structure JwtUtil where
  secret : ByteString
  /-- `HMAC-SHA256` of some data under a key. -/
  hmacSha256 : ByteString → ByteString → ByteString
  /-- `nlohmann::json::parse`; `none` where it throws. -/
  parse : ByteString → Option Json
  /-- Seconds since the epoch. -/
  now : Int

namespace JwtUtil

/-- The encoding without its padding. -/
def base64Encode (s : ByteString) : ByteString := (Base64.encode s).rdropWhile (· == 61)

/-- The decoding table: the standard alphabet, and `-` and `_` for `+` and `/`. -/
def digit? (c : UInt8) : Option ℕ :=
  if c = 45 then some 62 else if c = 95 then some 63 else Base64.digit? c

/-- Characters outside the table are skipped. -/
def base64Decode (s : ByteString) : ByteString := Base64.decodeDigits {} (s.filterMap digit?)

/-- The three parts of a token, or `none` where a dot is missing. -/
def parts (token : ByteString) : Option (ByteString × ByteString × ByteString) := do
  let dot1 ← find token (ofString ".") 0
  let dot2 ← find token (ofString ".") (dot1 + 1)
  some (token.take dot1, substr token (dot1 + 1) (dot2 - dot1 - 1), token.drop (dot2 + 1))

/-- The signature that belongs to a header and a payload. -/
def signature (u : JwtUtil) (headerB64 payloadB64 : ByteString) : ByteString :=
  base64Encode (u.hmacSha256 (headerB64 ++ ofString "." ++ payloadB64) u.secret)

/-- `payload.value("exp", 0) > now`, false where the payload does not parse or has no such
number. -/
def isCurrent (u : JwtUtil) (payloadB64 : ByteString) : Bool :=
  match (u.parse (base64Decode payloadB64)).bind (Json.value Json.getInt64 "exp" 0) with
  | some exp => decide (u.now < exp)
  | none => false

/-- `jwt_util::verify`. -/
def verify (u : JwtUtil) (token : ByteString) : Bool :=
  match parts token with
  | none => false
  | some (headerB64, payloadB64, sigB64) =>
    sigB64 == u.signature headerB64 payloadB64 && u.isCurrent payloadB64

/-- `jwt_util::get_role`: nothing for a token that does not verify, `user` for one that says
nothing. -/
def getRole (u : JwtUtil) (token : ByteString) : ByteString :=
  if !u.verify token then []
  else
    match parts token with
    | none => ofString "user"
    | some (_, payloadB64, _) =>
      match (u.parse (base64Decode payloadB64)).bind
          (Json.value Json.getString "role" (ofString "user")) with
      | some role => role
      | none => ofString "user"

@[simp] theorem verify_nil (u : JwtUtil) : u.verify [] = false := rfl

theorem getRole_of_not_verify {u : JwtUtil} {token : ByteString} (h : u.verify token = false) :
    u.getRole token = [] := by
  rw [getRole, h]
  rfl

end JwtUtil

end LanProxyGateway
