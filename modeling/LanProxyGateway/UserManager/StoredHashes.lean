import LanProxyGateway.UserManager.BcryptProcess

/-!
# Stored hashes verify

`verify` takes apart what `hash` has put together: it goes by the first bytes to the branch that
`hash` took, and on the PBKDF2 branch finds the iterations, the salt and the digest between the same
signs again. The salt goes to PBKDF2 as its hexadecimal text.

On the bcrypt branch the password goes to a second command, together with the hash, and this command
is longer than the one that has made the hash. For passwords of lengths in between, `hash` gets its
answer and `verify` gets none, and takes that for a wrong password (`verifiesOwn_iff`).
-/

open Foundation ByteString

namespace LanProxyGateway

namespace PasswordHasher

variable {lib : HashLibrary} {salt password : ByteString}

/-! ## Parts -/

/-- The parts of a text with four signs. -/
theorem pbkdf2Parts_eq {u v a b : ByteString} (hu : 36 ∉ u) (hv : 36 ∉ v) (ha : 36 ∉ a) :
    pbkdf2Parts (36 :: (u ++ 36 :: (v ++ 36 :: (a ++ 36 :: b)))) = some (v, a, b) := by
  have hsign : ofString "$" = [36] := by decide
  set s := (36 : UInt8) :: (u ++ 36 :: (v ++ 36 :: (a ++ 36 :: b))) with hs
  have hbehind : s.drop 1 = u ++ 36 :: (v ++ 36 :: (a ++ 36 :: b)) := rfl
  obtain ⟨hfind₁, -, hbehind₁⟩ := cut_at_byte hbehind hu
  obtain ⟨hfind₂, hcut₂, hbehind₂⟩ := cut_at_byte hbehind₁ hv
  obtain ⟨hfind₃, hcut₃, hbehind₃⟩ := cut_at_byte hbehind₂ ha
  have hlen : ∀ n m : ℕ, n + 1 + m - n - 1 = m := by omega
  simp only [pbkdf2Parts, hsign, hfind₁, hfind₂, hfind₃, Option.bind_eq_bind, Option.bind_some,
    hlen, hcut₂, hcut₃, hbehind₃]

/-- The stored form of the fallback. -/
def pbkdf2Form (saltHex derivedHex : ByteString) : ByteString :=
  ofString "$pbkdf2-sha256$100000$" ++ saltHex ++ ofString "$" ++ derivedHex

theorem pbkdf2Form_eq (saltHex derivedHex : ByteString) : pbkdf2Form saltHex derivedHex =
    36 :: (ofString "pbkdf2-sha256" ++ 36 :: (ofString "100000" ++
      36 :: (saltHex ++ 36 :: derivedHex))) := by
  have hprefix : ofString "$pbkdf2-sha256$100000$" =
      36 :: (ofString "pbkdf2-sha256" ++ 36 :: (ofString "100000" ++ [36])) := by decide
  have hsign : ofString "$" = [36] := by decide
  rw [pbkdf2Form, hprefix, hsign]
  simp only [List.append_assoc, List.cons_append, List.nil_append]

theorem sign_not_mem_hexEncode (s : ByteString) : 36 ∉ hexEncode s :=
  fun h ↦ absurd (Hex.mem_digits_of_mem_encode h) (by decide +kernel)

/-! ## The two branches -/

/-- The test of `hash` for the output of the process. -/
def takesBcrypt (lib : HashLibrary) (password : ByteString) : Bool :=
  !(pythonBcryptHash lib password).isEmpty &&
    decide (10 < (pythonBcryptHash lib password).length) &&
    isBcrypt (pythonBcryptHash lib password)

theorem hash_of_bcrypt (h : takesBcrypt lib password = true) :
    hash lib salt password = pythonBcryptHash lib password := if_pos h

theorem hash_of_fallback (h : takesBcrypt lib password = false) : hash lib salt password =
    pbkdf2Form (hexEncode salt) (pbkdf2Hash lib password (hexEncode salt) 100000) :=
  if_neg (Bool.eq_false_iff.mp h)

/-- A stored form of the fallback is verified by deriving the key again. -/
theorem verify_pbkdf2Form (lib : HashLibrary) (password saltHex derivedHex : ByteString)
    (hsalt : 36 ∉ saltHex) : verify lib password (pbkdf2Form saltHex derivedHex) =
      .ok (pbkdf2Hash lib password saltHex 100000 == derivedHex) := by
  have hparts : pbkdf2Parts (pbkdf2Form saltHex derivedHex) =
      some (ofString "100000", saltHex, derivedHex) := by
    rw [pbkdf2Form_eq]
    exact pbkdf2Parts_eq (by decide) (by decide) hsalt
  have hempty : (pbkdf2Form saltHex derivedHex).isEmpty = false := by
    rw [pbkdf2Form_eq]
    rfl
  have hbcrypt : isBcrypt (pbkdf2Form saltHex derivedHex) = false := by
    rw [pbkdf2Form_eq]
    rfl
  have hprefix : ((pbkdf2Form saltHex derivedHex).take 15 == ofString "$pbkdf2-sha256$") =
      true := by
    rw [pbkdf2Form_eq]
    rfl
  have hstoi : stoi (ofString "100000") = .ok 100000 := by decide
  rw [verify, hempty, hbcrypt, hprefix, hparts]
  simp only [Bool.false_eq_true, if_false, if_true, hstoi]
  rfl

/-! ## Verifying -/

/-- What becomes of a password that is stored. -/
structure VerifiesOwn (lib : HashLibrary) (salt password : ByteString) : Prop where
  own : verify lib password (hash lib salt password) = .ok true
  /-- The parts of a PBKDF2 hash are those that it was made of. -/
  recovered : takesBcrypt lib password = false → ∃ iterations saltHex digestHex,
    pbkdf2Parts (hash lib salt password) = some (iterations, saltHex, digestHex) ∧
    stoi iterations = .ok 100000 ∧ Hex.decode saltHex = some salt ∧
    Hex.decode digestHex = some (lib.pbkdf2HmacSha256 password saltHex 100000)
  /-- Another password is taken for this one exactly if PBKDF2 takes it for this one. -/
  others : takesBcrypt lib password = false → ∀ other,
    verify lib other (hash lib salt password) =
      .ok (decide (lib.pbkdf2HmacSha256 other (hexEncode salt) 100000 =
        lib.pbkdf2HmacSha256 password (hexEncode salt) 100000))

/-- The branch of the fallback, whatever becomes of the other. -/
theorem verifiesOwn_of_own (h : verify lib password (hash lib salt password) = .ok true) :
    VerifiesOwn lib salt password := by
  refine ⟨h, fun hfallback ↦ ?_, fun hfallback other ↦ ?_⟩
  · refine ⟨ofString "100000", hexEncode salt,
      pbkdf2Hash lib password (hexEncode salt) 100000, ?_, by decide, Hex.decode_encode salt,
      Hex.decode_encode _⟩
    rw [hash_of_fallback hfallback, pbkdf2Form_eq]
    exact pbkdf2Parts_eq (by decide) (by decide) (sign_not_mem_hexEncode salt)
  · rw [hash_of_fallback hfallback, verify_pbkdf2Form _ _ _ _ (sign_not_mem_hexEncode salt),
      pbkdf2Hash, pbkdf2Hash, Except.ok.injEq, Bool.beq_eq_decide_eq, decide_eq_decide]
    exact Hex.encode_injective.eq_iff

theorem verify_hash_of_fallback (h : takesBcrypt lib password = false) :
    verify lib password (hash lib salt password) = .ok true := by
  rw [hash_of_fallback h, verify_pbkdf2Form _ _ _ _ (sign_not_mem_hexEncode salt),
    beq_self_eq_true]

/-- A hash of the module is checked by the module. -/
theorem verify_of_isBcryptHash {h : ByteString} (hh : IsBcryptHash h) :
    verify lib password h = .ok (pythonBcryptVerify lib password h) := by
  rw [verify, hh.isEmpty, hh.isBcrypt]
  rfl

variable {bcrypt : Bcrypt} {argMax : ℕ}

/-- The module is asked for a hash and has one. -/
theorem takesBcrypt_iff (hruns : RunsPython lib bcrypt argMax) (password : ByteString) :
    takesBcrypt lib password = true ↔
      (2 * password.length + 147 ≤ argMax ∧ Utf8 password) ∧
        (bcrypt.hashpw password).isSome := by
  rw [takesBcrypt, hruns.pythonBcryptHash_eq]
  by_cases hasked : 2 * password.length + 147 ≤ argMax ∧ Utf8 password
  · rw [if_pos hasked, and_iff_right hasked]
    cases hhash : bcrypt.hashpw password with
    | none => simp
    | some h =>
      have hh := bcrypt.isBcryptHash hhash
      simp [hh.isEmpty, hh.length, hh.isBcrypt]
  · rw [if_neg hasked]
    simp [hasked]

theorem verify_hash_iff (hruns : RunsPython lib bcrypt argMax) (salt password : ByteString) :
    verify lib password (hash lib salt password) = .ok true ↔
      (Utf8 password → (bcrypt.hashpw password).isSome → 2 * password.length + 147 ≤ argMax →
        2 * password.length + 306 ≤ argMax) := by
  have htakes := takesBcrypt_iff hruns password
  cases hbranch : takesBcrypt lib password with
  | false =>
    rw [hbranch] at htakes
    refine iff_of_true (verify_hash_of_fallback hbranch) fun htext hhas hfits ↦ ?_
    exact absurd (htakes.mpr ⟨⟨hfits, htext⟩, hhas⟩) Bool.false_ne_true
  | true =>
    obtain ⟨⟨hfits, htext⟩, hhas⟩ := htakes.mp hbranch
    obtain ⟨h, hhash⟩ := Option.isSome_iff_exists.mp hhas
    have hmade : hash lib salt password = h := by
      rw [hash_of_bcrypt hbranch, hruns.pythonBcryptHash_eq, if_pos ⟨hfits, htext⟩, hhash]
      rfl
    rw [hmade, verify_of_isBcryptHash (bcrypt.isBcryptHash hhash),
      hruns.pythonBcryptVerify_eq htext hhash, Except.ok.injEq, decide_eq_true_iff]
    exact ⟨fun h _ _ _ ↦ h, fun h ↦ h htext hhas hfits⟩

/-- **When a stored hash verifies**: always, but for a text that bcrypt makes a hash of, where the
command that makes the hash can be passed on and the one that checks it is too long. -/
theorem verifiesOwn_iff (lib : HashLibrary) (bcrypt : Bcrypt) (argMax : ℕ)
    (hruns : RunsPython lib bcrypt argMax) (salt password : ByteString) :
    VerifiesOwn lib salt password ↔
      (Utf8 password → (bcrypt.hashpw password).isSome → 2 * password.length + 147 ≤ argMax →
        2 * password.length + 306 ≤ argMax) := by
  rw [← verify_hash_iff hruns salt]
  exact ⟨VerifiesOwn.own, verifiesOwn_of_own⟩

/-! ## A password of many letters -/

/-- What `hashpw` makes of seventy-two times the letter `a`, for one salt. -/
def sampleHash : ByteString :=
  ofString "$2b$10$k87L/MF28Q673VKh8/cPi.qZ3Hts14VF.gxXaS7nRcFC6ISy/E1Ba"

/-- A module that goes by the first seventy-two bytes, and is asked about this letter only. -/
def sampleBcrypt : Bcrypt where
  hashpw pw := if pw.take 72 = List.replicate 72 97 then some sampleHash else none
  checkpw pw h := some (decide (pw.take 72 = List.replicate 72 97 ∧ h = sampleHash))
  isBcryptHash {pw h} hhash := by
    obtain ⟨-, hsome⟩ := Option.ite_none_right_eq_some.mp hhash
    obtain rfl := Option.some.inj hsome
    exact ⟨by decide +kernel, by decide +kernel, by decide +kernel⟩
  checkpw_hashpw {pw h} hhash := by
    obtain ⟨hpw, hsome⟩ := Option.ite_none_right_eq_some.mp hhash
    simp [hpw, Option.some.inj hsome]

/-- Up to this length Linux takes an argument. -/
def linuxArgMax : ℕ := 131071

/-- Seventy-two letters verify. -/
theorem verifiesOwn_shortPassword :
    VerifiesOwn (sampleBcrypt.library linuxArgMax) (List.replicate 16 0)
      (List.replicate 72 97) :=
  (verifiesOwn_iff _ sampleBcrypt linuxArgMax (runsPython_library _ _) _ _).mpr
    fun _ _ _ ↦ by decide +kernel

/-- Of 65400 letters there is a hash, and the password is refused. -/
theorem not_verifiesOwn_longPassword :
    sampleBcrypt.hashpw (List.replicate 65400 97) = some sampleHash ∧
      hash (sampleBcrypt.library linuxArgMax) (List.replicate 16 0) (List.replicate 65400 97) =
        sampleHash ∧
      verify (sampleBcrypt.library linuxArgMax) (List.replicate 65400 97) sampleHash = .ok false ∧
      ¬VerifiesOwn (sampleBcrypt.library linuxArgMax) (List.replicate 16 0)
        (List.replicate 65400 97) := by
  have hhash : sampleBcrypt.hashpw (List.replicate 65400 97) = some sampleHash := by
    rw [sampleBcrypt]
    dsimp only
    rw [List.take_replicate]
    rfl
  have htext : Utf8 (List.replicate 65400 97) := by
    refine utf8_of_ascii fun c hc ↦ ?_
    rw [List.eq_of_mem_replicate hc]
    decide
  have hlength : (List.replicate 65400 (97 : UInt8)).length = 65400 := List.length_replicate
  have hruns := runsPython_library sampleBcrypt linuxArgMax
  have htakes := (takesBcrypt_iff hruns (List.replicate 65400 97)).mpr
    ⟨⟨by rw [hlength]; decide, htext⟩, by rw [hhash]; rfl⟩
  have hmade : hash (sampleBcrypt.library linuxArgMax) (List.replicate 16 0)
      (List.replicate 65400 97) = sampleHash := by
    rw [hash_of_bcrypt htakes, hruns.pythonBcryptHash_eq, hlength, if_pos ⟨by decide, htext⟩,
      hhash]
    rfl
  have hrefused : verify (sampleBcrypt.library linuxArgMax) (List.replicate 65400 97) sampleHash =
      .ok false := by
    rw [verify_of_isBcryptHash (sampleBcrypt.isBcryptHash hhash),
      hruns.pythonBcryptVerify_eq htext hhash, hlength]
    decide
  refine ⟨hhash, hmade, hrefused, fun h ↦ ?_⟩
  have hown := h.own
  rw [hmade, hrefused] at hown
  cases hown

end PasswordHasher

end LanProxyGateway
