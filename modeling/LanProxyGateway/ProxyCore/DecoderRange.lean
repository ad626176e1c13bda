import LanProxyGateway.Foundation.Base64Int
import LanProxyGateway.ProxyCore.Heads
import LanProxyGateway.WebServer.Tokens

/-!
# Do the base64 decoders keep to the range of `int`?

A token and the credentials of a CONNECT are decoded before anybody has been authenticated, each by
a loop of its own over an `int` that is shifted left for every digit and never cut back. The two
differ in the characters they make digits of: the one skips `=` and what is in neither alphabet, the
other stops at the first character outside the standard alphabet.

Either loop keeps to the range for the few digits that make an `int` (`decoders_inRange_iff`). Every
token that the service issues has more, and so have credentials of five bytes.
-/

open Foundation ByteString

namespace LanProxyGateway

open Base64

/-! ## The loops -/

/-- The loop of `jwt_util::base64_decode`. -/
def JwtUtil.base64DecodeInt : IntBits → ByteString → Option (ByteString × IntBits)
  | b, [] => some ([], b)
  | b, c :: s =>
    if c = 61 then JwtUtil.base64DecodeInt b s
    else
      match JwtUtil.digit? c with
      | none => JwtUtil.base64DecodeInt b s
      | some idx => do
        let (out, b) ← b.step? idx
        let (rest, b) ← JwtUtil.base64DecodeInt b s
        some (out.toList ++ rest, b)

/-- The loop of the inline decoder. -/
def decodeCredentialsInt : IntBits → ByteString → Option (ByteString × IntBits)
  | b, [] => some ([], b)
  | b, c :: s =>
    match digit? c with
    | none => some ([], b)
    | some idx => do
      let (out, b) ← b.step? idx
      let (rest, b) ← decodeCredentialsInt b s
      some (out.toList ++ rest, b)

/-- The digits of a token: what is no digit is skipped. -/
def tokenDigits (s : ByteString) : List ℕ := s.filterMap JwtUtil.digit?

/-- The digits of credentials: they end at the first character that is none. -/
def credentialDigits (s : ByteString) : List ℕ :=
  (s.takeWhile fun c ↦ (digit? c).isSome).filterMap digit?

theorem base64DecodeInt_eq (b : IntBits) (s : ByteString) :
    JwtUtil.base64DecodeInt b s = decodeInt b (tokenDigits s) := by
  induction s generalizing b with
  | nil => rfl
  | cons c s ih =>
    rw [JwtUtil.base64DecodeInt, tokenDigits, List.filterMap_cons]
    split
    · rename_i hpad
      have hnone : JwtUtil.digit? c = none := by
        rw [hpad]
        decide
      rw [ih, hnone]
      rfl
    · rcases hdigit : JwtUtil.digit? c with _ | idx
      · exact ih b
      · simp only [decodeInt, ih]
        rfl

theorem decodeCredentialsInt_eq (b : IntBits) (s : ByteString) :
    decodeCredentialsInt b s = decodeInt b (credentialDigits s) := by
  induction s generalizing b with
  | nil => rfl
  | cons c s ih =>
    rw [decodeCredentialsInt, credentialDigits, List.takeWhile_cons]
    rcases hdigit : digit? c with _ | idx
    · rfl
    · simp only [Option.isSome_some, if_true, List.filterMap_cons, hdigit, decodeInt, ih]
      rfl

theorem lt_of_mem_tokenDigits {s : ByteString} {d : ℕ} (h : d ∈ tokenDigits s) : d < 64 := by
  obtain ⟨c, -, hc⟩ := List.mem_filterMap.mp h
  rw [JwtUtil.digit?] at hc
  split_ifs at hc
  · cases hc
    decide
  · cases hc
    decide
  · exact digit?_lt hc

theorem lt_of_mem_credentialDigits {s : ByteString} {d : ℕ} (h : d ∈ credentialDigits s) :
    d < 64 := by
  obtain ⟨c, -, hc⟩ := List.mem_filterMap.mp h
  exact digit?_lt hc

/-- Where the loops are defined, they decode as the model of them that wraps around. -/
theorem decodes_of_defined {s out : ByteString} {b : IntBits} :
    (JwtUtil.base64DecodeInt {} s = some (out, b) → JwtUtil.base64Decode s = out) ∧
      (decodeCredentialsInt {} s = some (out, b) → decodeCredentials s = out) := by
  rw [base64DecodeInt_eq, decodeCredentialsInt_eq]
  exact ⟨decodeDigits_of_decodeInt, decodeDigits_of_decodeInt⟩

/-! ## The range -/

/-- A loop runs through, and at each of its digits the accumulator and the counter are in range. -/
structure InRange (loop : IntBits → ByteString → Option (ByteString × IntBits))
    (digits : ByteString → List ℕ) (s : ByteString) : Prop where
  defined : loop {} s ≠ none
  digits : StaysInRange (digits s)

/-- **Each decoder keeps to the range** of `int` exactly on the texts with five digits, or with six
of which the first is `B`, after the letters `A` that they begin with. -/
theorem decoders_inRange_iff (s : ByteString) :
    (InRange JwtUtil.base64DecodeInt tokenDigits s ↔ Short (tokenDigits s)) ∧
      (InRange decodeCredentialsInt credentialDigits s ↔ Short (credentialDigits s)) := by
  have hiff : ∀ {loop digits}, loop {} s = decodeInt {} (digits s) → (∀ d ∈ digits s, d < 64) →
      (InRange loop digits s ↔ Short (digits s)) := by
    intro loop digits hloop hdigits
    rw [← staysInRange_iff hdigits]
    exact ⟨InRange.digits, fun h ↦ ⟨hloop ▸ h.defined, h⟩⟩
  exact ⟨hiff (base64DecodeInt_eq {} s) fun _ ↦ lt_of_mem_tokenDigits,
    hiff (decodeCredentialsInt_eq {} s) fun _ ↦ lt_of_mem_credentialDigits⟩

/-- The encoding of four bytes or more, of which the first is not among the first eight, is too
long for both. -/
theorem not_inRange_encode {a b c e : UInt8} (s : ByteString) (ha : 8 ≤ a.toNat) :
    ¬InRange JwtUtil.base64DecodeInt tokenDigits (encode (a :: b :: c :: e :: s)) ∧
      ¬InRange decodeCredentialsInt credentialDigits (encode (a :: b :: c :: e :: s)) := by
  have htoken : tokenDigits (encode (a :: b :: c :: e :: s)) =
      Base64.digits (a :: b :: c :: e :: s) := filterMap_encode JwtUtil.digit?_getD (by decide) _
  have hcredentials : credentialDigits (encode (a :: b :: c :: e :: s)) =
      Base64.digits (a :: b :: c :: e :: s) := by
    obtain ⟨-, k, hencode, -⟩ := unpadded_spec (a :: b :: c :: e :: s)
    rw [credentialDigits, hencode, filterMap_takeWhile_unpadded]
  obtain ⟨htokens, hinline⟩ := decoders_inRange_iff (encode (a :: b :: c :: e :: s))
  rw [htokens, hinline, htoken, hcredentials]
  exact ⟨not_short_digits s ha, not_short_digits s ha⟩

/-- `alice:pw`, as a token or as credentials. -/
theorem alice_not_inRange : encode (ofString "alice:pw") = ofString "YWxpY2U6cHc=" ∧
    JwtUtil.base64DecodeInt {} (ofString "YWxpY2U6cHc=") = none ∧
    decodeCredentialsInt {} (ofString "YWxpY2U6cHc=") = none ∧
    ¬InRange JwtUtil.base64DecodeInt tokenDigits (ofString "YWxpY2U6cHc=") ∧
    ¬InRange decodeCredentialsInt credentialDigits (ofString "YWxpY2U6cHc=") := by
  have hencode : encode (ofString "alice:pw") = ofString "YWxpY2U6cHc=" := by decide +kernel
  have hbytes : ofString "alice:pw" = 97 :: 108 :: 105 :: 99 :: ofString "e:pw" := by decide
  obtain ⟨htoken, hcredentials⟩ := not_inRange_encode (a := 97) (b := 108) (c := 105) (e := 99)
    (ofString "e:pw") (by decide)
  rw [← hbytes, hencode] at htoken hcredentials
  exact ⟨hencode, by decide +kernel, by decide +kernel, htoken, hcredentials⟩

end LanProxyGateway
