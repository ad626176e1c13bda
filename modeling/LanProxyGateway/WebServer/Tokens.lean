import LanProxyGateway.WebServer.JwtUtil

/-!
# Tokens verify as issued

`sign` writes a token and `verify` reads it: the two cut it at the same dots, because the encoding
has none of its own, and the decoder reads the payload back, so what is left of the verification is
the comparison of two times. In the other direction nothing is accepted but a header and a payload
with their signature behind them.
-/

open Foundation ByteString

namespace LanProxyGateway

/-- The JSON printer too, for values whose strings are UTF-8. -/
structure TokenWriter extends JwtUtil where
  /-- `nlohmann::json::dump`. -/
  dump : Json → ByteString

namespace JwtUtil

/-! ## Issuing a token -/

def header : Json := .ofFields
    [("alg", .string (ofString "HS256")), ("typ", .string (ofString "JWT"))]

def payload (username role : ByteString) (exp : Int) : Json :=
  .ofFields [("username", .string username), ("role", .string role), ("exp", .integer exp)]

/-- `jwt_util::sign`. `dump` throws on a name or a role that is not UTF-8. -/
def sign (w : TokenWriter) (username role : ByteString) (expireMinutes : Int) :
    Except CxxException ByteString :=
  let claims := payload username role (w.now + Json.castInt (expireMinutes * 60))
  if claims.isSerializable then
    let headerB64 := base64Encode (w.dump header)
    let payloadB64 := base64Encode (w.dump claims)
    let signingInput := headerB64 ++ ofString "." ++ payloadB64
    .ok (signingInput ++ ofString "." ++ base64Encode (w.hmacSha256 signingInput w.secret))
  else .error .typeError

/-- `jwt_util::get_username`: nothing for a token that does not verify, and for one that names
nobody. -/
def getUsername (u : JwtUtil) (token : ByteString) : ByteString :=
  if !u.verify token then []
  else
    match parts token with
    | none => []
    | some (_, payloadB64, _) =>
      ((u.parse (base64Decode payloadB64)).bind (Json.value Json.getString "username" [])).getD []

/-! ## The parts of a token -/

theorem parts_eq_some_iff {token h p s : ByteString} :
    parts token = some (h, p, s) ↔ token = h ++ 46 :: (p ++ 46 :: s) ∧ 46 ∉ h ∧ 46 ∉ p := by
  have hdot : ofString "." = [46] := rfl
  have hlen : ∀ n m : ℕ, n + 1 + m - n - 1 = m := by omega
  constructor
  · intro hparts
    simp only [parts, hdot, Option.bind_eq_bind, Option.bind_eq_some_iff, find_singleton_iff,
      Option.some.injEq, Prod.mk.injEq] at hparts
    obtain ⟨_, ⟨a, b, htoken, ha, rfl⟩, _, ⟨a', b', hb, ha', rfl⟩, rfl, rfl, rfl⟩ := hparts
    obtain ⟨-, -, hrest⟩ := cut_at_byte htoken ha
    obtain ⟨-, hcut, hlast⟩ := cut_at_byte hb ha'
    rw [hlen, hcut, hlast, ← hb, hrest, Nat.zero_add]
    rw [List.drop_zero] at htoken
    subst htoken
    rw [List.take_left]
    exact ⟨rfl, ha, ha'⟩
  · rintro ⟨rfl, hh, hp⟩
    have hwhole : (h ++ 46 :: (p ++ 46 :: s)).drop 0 = h ++ 46 :: (p ++ 46 :: s) := rfl
    obtain ⟨hfirst, hcut, hbehind⟩ := cut_at_byte hwhole hh
    rw [Nat.zero_add] at hfirst hbehind
    obtain ⟨hsecond, hcut', hlast⟩ := cut_at_byte hbehind hp
    rw [substr, hwhole] at hcut
    simp only [parts, hdot, hfirst, hsecond, Option.bind_eq_bind, Option.bind_some, hlen, hcut',
      hlast, hcut]

/-- The encoding has no dots. -/
theorem dot_not_mem_base64Encode (s : ByteString) : 46 ∉ base64Encode s := by
  intro hmem
  exact absurd ((Base64.unpadded_spec s).1 46 hmem) (by decide +kernel)

theorem digit?_getD : ∀ i < 64, digit? (Base64.alphabet.getD i 0) = some i := by
  decide +kernel

/-- The decoder reads the encoding without its padding. -/
theorem base64Decode_base64Encode (s : ByteString) : base64Decode (base64Encode s) = s := by
  rw [base64Decode, base64Encode, ← Base64.unpadded,
    Base64.filterMap_unpadded digit?_getD (by decide)]
  exact Base64.decodeDigits_digits s 0

/-- **What is accepted**: a header and a payload, without dots, and the signature that belongs to
them. -/
theorem verify_eq_true_iff {u : JwtUtil} {token : ByteString} :
    u.verify token = true ↔ ∃ h p, parts token = some (h, p, u.signature h p) ∧
      u.isCurrent p = true := by
  rw [verify]
  rcases parts token with _ | ⟨h, p, s⟩
  · simp
  · simp only [Bool.and_eq_true, beq_iff_eq, Option.some.injEq, Prod.mk.injEq]
    constructor
    · rintro ⟨rfl, hcurrent⟩
      exact ⟨h, p, ⟨rfl, rfl, rfl⟩, hcurrent⟩
    · rintro ⟨_, _, ⟨rfl, rfl, rfl⟩, hcurrent⟩
      exact ⟨rfl, hcurrent⟩

/-- The payload is an object whose expiry time is still to come. -/
theorem isCurrent_iff {u : JwtUtil} {payloadB64 : ByteString} : u.isCurrent payloadB64 = true ↔
    ∃ j exp, u.parse (base64Decode payloadB64) = some j ∧
      Json.value Json.getInt64 "exp" 0 j = some exp ∧ u.now < exp := by
  rw [isCurrent]
  rcases hparse : u.parse (base64Decode payloadB64) with _ | j
  · simp
  rcases hvalue : Json.value Json.getInt64 "exp" 0 j with _ | exp
  · simp [hvalue]
  · simp [hvalue]

/-! ## A token and its payload -/

section Issued

variable {w : TokenWriter} {username role : ByteString} {m : Int}

theorem isSerializable_payload {exp : Int} (hname : Utf8 username) (hrole : Utf8 role) :
    (payload username role exp).isSerializable := by
  apply Json.isSerializable_ofFields
  simp only [List.forall_mem_cons, Json.isSerializable_string]
  exact ⟨hname, hrole, rfl, fun _ hf ↦ absurd hf List.not_mem_nil⟩

/-- The token that `sign` issues, cut at its dots. -/
theorem exists_sign_eq (hname : Utf8 username) (hrole : Utf8 role)
    (hlo : -2147483648 ≤ m * 60) (hhi : m * 60 ≤ 2147483647) :
    ∃ token h p, sign w username role m = .ok token ∧
      parts token = some (h, p, w.signature h p) ∧
      base64Decode p = w.dump (payload username role (w.now + 60 * m)) := by
  have hexp : w.now + Json.castInt (m * 60) = w.now + 60 * m := by
    rw [Json.castInt_of_bounds hlo hhi, Int.mul_comm]
  obtain ⟨h, hh⟩ : ∃ h, h = base64Encode (w.dump header) := ⟨_, rfl⟩
  obtain ⟨p, hp⟩ :
      ∃ p, p = base64Encode (w.dump (payload username role (w.now + 60 * m))) := ⟨_, rfl⟩
  refine ⟨h ++ ofString "." ++ p ++ ofString "." ++ w.signature h p, h, p, ?_, ?_, ?_⟩
  · rw [sign, hexp, signature, hh, hp]
    exact if_pos (isSerializable_payload hname hrole)
  · rw [parts_eq_some_iff]
    refine ⟨?_, hh ▸ dot_not_mem_base64Encode _, hp ▸ dot_not_mem_base64Encode _⟩
    have hdot : ofString "." = [46] := rfl
    simp only [hdot, List.append_assoc, List.cons_append, List.nil_append]
  · rw [hp, base64Decode_base64Encode]

/-- What the members of the payload are read as. -/
theorem value_payload (username role : ByteString) (exp : Int) (hlo : -9223372036854775808 ≤ exp)
    (hhi : exp ≤ 9223372036854775807) :
    Json.value Json.getInt64 "exp" 0 (payload username role exp) = some exp ∧
      Json.value Json.getString "username" [] (payload username role exp) = some username ∧
      Json.value Json.getString "role" (ofString "user") (payload username role exp) =
        some role := by
  simp only [payload, Json.value_ofFields, Json.member?_ofFields_cons, String.reduceEq, if_false,
    if_true, Option.elim_some, Json.getString_string, Json.getInt64, and_true]
  rw [Json.castInt64_of_bounds hlo hhi]

end Issued

/-- The token has one header and one payload, and the payload decides until when it verifies. -/
theorem verify_iff_of_parts {u : JwtUtil} {token h p : ByteString} {j : Json} {exp : Int}
    (hparts : parts token = some (h, p, u.signature h p))
    (hparse : u.parse (base64Decode p) = some j)
    (hexp : Json.value Json.getInt64 "exp" 0 j = some exp) : u.verify token ↔ u.now < exp := by
  rw [verify_eq_true_iff]
  constructor
  · rintro ⟨h', p', hparts', hcurrent⟩
    obtain ⟨rfl, rfl, -⟩ : h = h' ∧ p = p' ∧ _ := by simpa using hparts.symm.trans hparts'
    obtain ⟨j', exp', hj, hvalue, hlt⟩ := isCurrent_iff.mp hcurrent
    obtain rfl := Option.some.inj (hparse.symm.trans hj)
    rwa [← Option.some.inj (hexp.symm.trans hvalue)] at hlt
  · intro hlt
    exact ⟨h, p, hparts, isCurrent_iff.mpr ⟨j, exp, hparse, hexp, hlt⟩⟩

/-- A payload without an expiry time reads as the time 0. -/
theorem contains_exp {j : Json} {exp : Int} (hvalue : Json.value Json.getInt64 "exp" 0 j = some exp)
    (hpos : 0 < exp) : j.contains (ofString "exp") := by
  by_contra hnone
  rw [Json.contains, Bool.not_eq_true, Option.isSome_eq_false_iff, Option.isNone_iff_eq_none]
    at hnone
  obtain ⟨ms, rfl⟩ : ∃ ms, j = .object ms := by
    cases j with
    | object ms => exact ⟨ms, rfl⟩
    | _ => cases hvalue
  rw [Json.value_of_isObject _ _ _ rfl, hnone] at hvalue
  exact hpos.ne (Option.some.inj hvalue)

/-- What a token that verifies is made of. -/
theorem exists_of_verify {u : JwtUtil} {t : ByteString} (hv : u.verify t) :
    ∃ s h p, t = s ++ ofString "." ++ base64Encode (u.hmacSha256 s u.secret) ∧
      s = h ++ ofString "." ++ p ∧ s.count 46 = 1 ∧
      ∃ j exp, u.parse (base64Decode p) = some j ∧
        Json.value Json.getInt64 "exp" 0 j = some exp ∧ u.now < exp := by
  obtain ⟨h, p, hparts, hcurrent⟩ := verify_eq_true_iff.mp hv
  obtain ⟨rfl, hh, hp⟩ := parts_eq_some_iff.mp hparts
  have hdot : ofString "." = [46] := rfl
  refine ⟨h ++ ofString "." ++ p, h, p, ?_, rfl, ?_, isCurrent_iff.mp hcurrent⟩
  · rw [signature, hdot]
    simp only [List.append_assoc, List.cons_append, List.nil_append]
  · rw [hdot, List.count_append, List.count_append, List.count_eq_zero.mpr hh,
      List.count_eq_zero.mpr hp, List.count_singleton_self]

/-- **Tokens verify as issued.** The clock counts nanoseconds in an `int64_t`, so its seconds are
less than ten digits long and adding a lifetime to them does not overflow. -/
theorem verify_sign_iff (w : TokenWriter) (username role : ByteString) (m : Int)
    (hname : Utf8 username) (hrole : Utf8 role)
    (hlo : -2147483648 ≤ m * 60) (hhi : m * 60 ≤ 2147483647)
    (hclock : -9223372036 ≤ w.now ∧ w.now ≤ 9223372036)
    (hcodec : w.parse (w.dump (payload username role (w.now + 60 * m))) =
      some (payload username role (w.now + 60 * m))) :
    (∃ token, sign w username role m = .ok token ∧
      ∀ now, (verify { w.toJwtUtil with now := now } token ↔ now < w.now + 60 * m) ∧
        (verify { w.toJwtUtil with now := now } token →
          getUsername { w.toJwtUtil with now := now } token = username ∧
            getRole { w.toJwtUtil with now := now } token = role)) ∧
    ∀ (u : JwtUtil) (t : ByteString), u.verify t →
      ∃ s h p, t = s ++ ofString "." ++ base64Encode (u.hmacSha256 s u.secret) ∧
        s = h ++ ofString "." ++ p ∧ s.count 46 = 1 ∧
        ∃ j exp, u.parse (base64Decode p) = some j ∧
          Json.value Json.getInt64 "exp" 0 j = some exp ∧ u.now < exp ∧
          (0 ≤ u.now → j.contains (ofString "exp")) := by
  constructor
  · obtain ⟨token, h, p, hsign, hparts, hdecode⟩ := exists_sign_eq (w := w) hname hrole hlo hhi
    obtain ⟨hexp, huser, hrole'⟩ :=
      value_payload username role (w.now + 60 * m) (by omega) (by omega)
    have hparse : w.parse (base64Decode p) = some (payload username role (w.now + 60 * m)) := by
      rw [hdecode, hcodec]
    refine ⟨token, hsign, fun now ↦ ⟨verify_iff_of_parts hparts hparse hexp, fun hv ↦ ⟨?_, ?_⟩⟩⟩
    · rw [getUsername, hv, hparts]
      simp only [Bool.not_true, Bool.false_eq_true, if_false]
      rw [hparse, Option.bind_some, huser, Option.getD_some]
    · rw [getRole, hv, hparts]
      simp only [Bool.not_true, Bool.false_eq_true, if_false]
      rw [hparse, Option.bind_some, hrole']
  · intro u t hv
    obtain ⟨s, h, p, ht, hs, hcount, j, exp, hj, hvalue, hlt⟩ := exists_of_verify hv
    exact ⟨s, h, p, ht, hs, hcount, j, exp, hj, hvalue, hlt,
      fun hnow ↦ contains_exp hvalue (Int.lt_of_le_of_lt hnow hlt)⟩

/-! ## A token for one hour -/

/-- The clock of the hour, the secret of thirty-two zeros and what the two libraries make of one
token under it. -/
def hourWriter : TokenWriter where
  secret := ofString "00000000000000000000000000000000"
  hmacSha256 := fun _ _ ↦
    [194, 45, 207, 95, 33, 83, 105, 248, 34, 173, 224, 65, 158, 156, 28, 113,
    102, 61, 164, 28, 146, 9, 165, 229, 227, 157, 1, 27, 220, 49, 78, 9]
  parse := fun _ ↦ some (payload (ofString "alice") (ofString "admin") 1750003600)
  now := 1750000000
  dump := fun j ↦
    if j.contains (ofString "alg") then ofString "\x7b\"alg\":\"HS256\",\"typ\":\"JWT\"\x7d"
    else ofString "\x7b\"exp\":1750003600,\"role\":\"admin\",\"username\":\"alice\"\x7d"

/-- It verifies for one hour. -/
theorem verify_sign_hour :
    (∃ token, sign hourWriter (ofString "alice") (ofString "admin") 60 = .ok token ∧
      ∀ now, (verify { hourWriter.toJwtUtil with now := now } token ↔ now < 1750003600) ∧
        (verify { hourWriter.toJwtUtil with now := now } token →
          getUsername { hourWriter.toJwtUtil with now := now } token = ofString "alice" ∧
            getRole { hourWriter.toJwtUtil with now := now } token = ofString "admin")) :=
  (verify_sign_iff hourWriter (ofString "alice") (ofString "admin") 60 (by decide) (by decide)
    (by decide) (by decide) (by decide) rfl).1

end JwtUtil

end LanProxyGateway
