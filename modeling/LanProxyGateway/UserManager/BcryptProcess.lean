import LanProxyGateway.UserManager.HashCommands

/-!
# The process that knows bcrypt

Behind the two commands are a shell, `python3` and its module `bcrypt`. `Bcrypt` is the module, with
what is documented about it. `RunsPython` says what the commands print where that module is
installed: the shell and Python read them as `commandTokens` does, and the program that they find in
them prints what the module answers, or nothing if an exception ends it.

A command is handed over as one argument. The system limits the length of an argument, on Linux to
131071 bytes, and a command that is longer cannot be started: it depends on the C library whether
there is no pipe then, or one that nothing comes out of. The command that checks a password is the
longer one of the two.
-/

open Foundation ByteString

namespace LanProxyGateway

namespace PasswordHasher

/-- The text of a hash. -/
structure IsBcryptHash (h : ByteString) : Prop where
  length : h.length = 60
  mark : h.take 3 = ofString "$2b"
  printable : ∀ c ∈ h, 33 ≤ c ∧ c < 127

/-- The module, and the salt that `gensalt` draws. Where an answer is missing there is an
exception. -/
structure Bcrypt where
  hashpw : ByteString → Option ByteString
  checkpw : ByteString → ByteString → Option Bool
  isBcryptHash : ∀ {pw h}, hashpw pw = some h → IsBcryptHash h
  /-- A password goes with the hash that was made of it. -/
  checkpw_hashpw : ∀ {pw h}, hashpw pw = some h → checkpw pw h = some true

/-! ## What is printed -/

/-- `print(bcrypt.hashpw(unhexlify(pwHex).decode().encode(), bcrypt.gensalt(10)).decode())`. -/
def Bcrypt.printHash (bcrypt : Bcrypt) (pwHex : ByteString) : ByteString :=
  match Hex.decode pwHex with
  | some pw => if Utf8 pw then ((bcrypt.hashpw pw).map (· ++ [10])).getD [] else []
  | none => []

/-- The program that checks, for the two texts that it decodes. -/
def Bcrypt.printCheck (bcrypt : Bcrypt) (pwHex hashHex : ByteString) : ByteString :=
  match Hex.decode pwHex, Hex.decode hashHex with
  | some pw, some h =>
    if Utf8 pw ∧ Utf8 h then
      match bcrypt.checkpw pw h with
      | some true => ofString "ok\n"
      | some false => ofString "fail\n"
      | none => []
    else []
  | _, _ => []

/-- The commands run in a shell that takes arguments of up to `argMax` bytes. -/
structure RunsPython (lib : HashLibrary) (bcrypt : Bcrypt) (argMax : ℕ) : Prop where
  tooLong : ∀ command, argMax < command.length →
    lib.popen command = none ∨ lib.popen command = some []
  hash : ∀ command pwHex, command.length ≤ argMax →
    commandTokens command = some (frame, hashTokens pwHex) →
    lib.popen command = some (bcrypt.printHash pwHex)
  check : ∀ command pwHex hashHex, command.length ≤ argMax →
    commandTokens command = some (frame, verifyTokens pwHex hashHex) →
    lib.popen command = some (bcrypt.printCheck pwHex hashHex)

/-! ## A library that runs them -/

/-- The contents of the literals of a program. -/
def literals (ts : List Python.Token) : List ByteString :=
  ts.filterMap fun
    | .string s => some s
    | _ => none

theorem literals_hashTokens (pwHex : ByteString) : literals (hashTokens pwHex) = [pwHex] := by
  have hopening : literals (Python.lex opening).tokens = [] := by decide +kernel
  have hending : literals (Python.lex hashEnding).tokens = [] := by decide +kernel
  rw [literals] at hopening hending ⊢
  rw [hashTokens, List.filterMap_append, List.filterMap_cons, hopening, hending]
  rfl

theorem literals_verifyTokens (pwHex hashHex : ByteString) :
    literals (verifyTokens pwHex hashHex) =
      [pwHex, hashHex, ofString "ok", ofString "fail"] := by
  have hopening : literals (Python.lex opening).tokens = [] := by decide +kernel
  have hmiddle : literals (Python.lex verifyMiddle).tokens = [] := by decide +kernel
  have hending : literals (Python.lex verifyEnding).tokens =
      [ofString "ok", ofString "fail"] := by decide +kernel
  rw [literals] at hopening hmiddle hending ⊢
  rw [verifyTokens, List.filterMap_append, List.filterMap_cons, List.filterMap_append,
    List.filterMap_cons, hopening, hmiddle, hending]
  rfl

/-- What a program prints that is one of the two. -/
def Bcrypt.interpret (bcrypt : Bcrypt) (ts : List Python.Token) : ByteString :=
  match literals ts with
  | [pwHex] => if ts = hashTokens pwHex then bcrypt.printHash pwHex else []
  | pwHex :: hashHex :: _ =>
    if ts = verifyTokens pwHex hashHex then bcrypt.printCheck pwHex hashHex else []
  | [] => []

/-- A shell with the module, and without key derivation. -/
def Bcrypt.library (bcrypt : Bcrypt) (argMax : ℕ) : HashLibrary where
  popen command := some <|
    if argMax < command.length then []
    else
      match commandTokens command with
      | some (words, ts) => if words = frame then bcrypt.interpret ts else []
      | none => []
  pbkdf2HmacSha256 _ _ _ := []

theorem runsPython_library (bcrypt : Bcrypt) (argMax : ℕ) :
    RunsPython (bcrypt.library argMax) bcrypt argMax where
  tooLong command h := by
    rw [Bcrypt.library]
    exact .inr (congrArg some (if_pos h))
  hash command pwHex h htokens := by
    simp only [Bcrypt.library, if_neg (Nat.not_lt.mpr h), htokens, if_true, Bcrypt.interpret,
      literals_hashTokens]
  check command pwHex hashHex h htokens := by
    simp only [Bcrypt.library, if_neg (Nat.not_lt.mpr h), htokens, if_true, Bcrypt.interpret,
      literals_verifyTokens]

/-! ## The lengths of the commands -/

theorem length_commandLine (script : ByteString) :
    (commandLine script).length = script.length + 25 := by
  have hopen : (ofString "python3 -c \"").length = 12 := by decide +kernel
  have hclose : (ofString "\" 2>/dev/null").length = 13 := by decide +kernel
  rw [commandLine, List.length_append, List.length_append, hopen, hclose]
  omega

theorem length_bcryptHashCommand (password : ByteString) :
    (bcryptHashCommand password).length = 2 * password.length + 147 := by
  have hhex : (hexEncode password).length = 2 * password.length := Hex.length_encode password
  have hopening : opening.length = 46 := by decide +kernel
  have hending : hashEnding.length = 74 := by decide +kernel
  rw [bcryptHashCommand_eq, length_commandLine, hashScript]
  simp only [List.length_append, List.length_cons, hhex, hopening, hending]
  omega

theorem length_bcryptVerifyCommand (password hashStr : ByteString) :
    (bcryptVerifyCommand password hashStr).length =
      2 * password.length + 2 * hashStr.length + 186 := by
  have hhex : ∀ s, (hexEncode s).length = 2 * s.length := Hex.length_encode
  have hopening : opening.length = 46 := by decide +kernel
  have hmiddle : verifyMiddle.length = 33 := by decide +kernel
  have hending : verifyEnding.length = 78 := by decide +kernel
  rw [bcryptVerifyCommand_eq, length_commandLine, verifyScript]
  simp only [List.length_append, List.length_cons, hhex, hopening, hmiddle, hending]
  omega

/-! ## The two answers -/

theorem IsBcryptHash.utf8 {h : ByteString} (hh : IsBcryptHash h) : Utf8 h :=
  utf8_of_ascii fun c hc ↦ (hh.printable c hc).2.trans (by decide)

/-- It passes the tests for one. -/
theorem IsBcryptHash.isBcrypt {h : ByteString} (hh : IsBcryptHash h) : isBcrypt h = true := by
  rw [PasswordHasher.isBcrypt, hh.mark]
  decide

theorem IsBcryptHash.isEmpty {h : ByteString} (hh : IsBcryptHash h) : h.isEmpty = false := by
  rw [List.isEmpty_eq_false_iff_exists_mem, ← List.length_pos_iff_exists_mem, hh.length]
  decide

/-- What stands in front of the line feed is not trimmed. -/
theorem IsBcryptHash.trimNewlines_eq {h : ByteString} (hh : IsBcryptHash h) :
    trimNewlines (h ++ [10]) = h := by
  rw [trimNewlines, List.rdropWhile_concat_pos _ _ _ (by decide), List.rdropWhile_eq_self_iff]
  intro hne hlast
  have hprintable := (hh.printable _ (List.getLast_mem hne)).1
  rw [Bool.or_eq_true, beq_iff_eq, beq_iff_eq] at hlast
  rcases hlast with hlast | hlast
  · rw [hlast] at hprintable
    exact absurd hprintable (by decide)
  · rw [hlast] at hprintable
    exact absurd hprintable (by decide)

namespace RunsPython

variable {lib : HashLibrary} {bcrypt : Bcrypt} {argMax : ℕ} {password h : ByteString}

/-- The answer of `hashpw`, if the command is not too long and the password is a text. -/
theorem pythonBcryptHash_eq (hruns : RunsPython lib bcrypt argMax) (password : ByteString) :
    pythonBcryptHash lib password =
      if 2 * password.length + 147 ≤ argMax ∧ Utf8 password then
        (bcrypt.hashpw password).getD [] else [] := by
  have hlength := length_bcryptHashCommand password
  by_cases hfits : 2 * password.length + 147 ≤ argMax
  · have hpopen : lib.popen (bcryptHashCommand password) =
        some (bcrypt.printHash (hexEncode password)) :=
      hruns.hash _ _ (hlength ▸ hfits) (commandTokens_hash password)
    have hdecode : Hex.decode (hexEncode password) = some password := Hex.decode_encode password
    simp only [pythonBcryptHash, hpopen, Bcrypt.printHash, hdecode, hfits, true_and]
    by_cases htext : Utf8 password
    · rw [if_pos htext, if_pos htext]
      cases hhash : bcrypt.hashpw password with
      | none => rfl
      | some h => exact (bcrypt.isBcryptHash hhash).trimNewlines_eq
    · rw [if_neg htext, if_neg htext]
      rfl
  · rw [if_neg fun h ↦ hfits h.1, pythonBcryptHash]
    rcases hruns.tooLong (bcryptHashCommand password) (by omega) with hpopen | hpopen
    · rw [hpopen]
    · rw [hpopen]
      rfl

/-- A password goes with its hash as long as the command is not too long. -/
theorem pythonBcryptVerify_eq (hruns : RunsPython lib bcrypt argMax) (htext : Utf8 password)
    (hhash : bcrypt.hashpw password = some h) :
    pythonBcryptVerify lib password h = decide (2 * password.length + 306 ≤ argMax) := by
  have hh := bcrypt.isBcryptHash hhash
  have hlength := length_bcryptVerifyCommand password h
  rw [hh.length] at hlength
  by_cases hfits : 2 * password.length + 306 ≤ argMax
  · have hpopen : lib.popen (bcryptVerifyCommand password h) =
        some (bcrypt.printCheck (hexEncode password) (hexEncode h)) :=
      hruns.check _ _ _ (by omega) (commandTokens_verify password h)
    have hdecode : ∀ s, Hex.decode (hexEncode s) = some s := Hex.decode_encode
    rw [pythonBcryptVerify, hpopen, decide_eq_true hfits]
    simp only [Bcrypt.printCheck, hdecode, htext, hh.utf8, and_self, if_true,
      bcrypt.checkpw_hashpw hhash]
    decide
  · rw [pythonBcryptVerify, decide_eq_false hfits]
    rcases hruns.tooLong (bcryptVerifyCommand password h) (by omega) with hpopen | hpopen
    · rw [hpopen]
    · rw [hpopen]
      decide

end RunsPython

end PasswordHasher

end LanProxyGateway
