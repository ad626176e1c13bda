import LanProxyGateway.Foundation.Hex
import LanProxyGateway.Foundation.PythonTokens
import LanProxyGateway.Foundation.Shell
import LanProxyGateway.UserManager.PasswordHasher

/-!
# The commands behind the hashes

Passwords and stored hashes reach a shell, and in it a line of Python, as hexadecimal text. Whatever
their bytes are, the shell takes the command apart into the same words, and Python the program into
the same tokens; the bytes only show in the literals that they were written into
(`commands_inert`).
-/

open Foundation ByteString

namespace LanProxyGateway

namespace PasswordHasher

/-! ## The texts around the literals -/

def opening : ByteString := ofString "import bcrypt,binascii; pw=binascii.unhexlify("

def hashEnding : ByteString :=
  ofString ").decode(); print(bcrypt.hashpw(pw.encode(), bcrypt.gensalt(10)).decode())"

def verifyMiddle : ByteString := ofString ").decode(); h=binascii.unhexlify("

def verifyEnding : ByteString :=
  ofString ").decode(); print('ok' if bcrypt.checkpw(pw.encode(), h.encode()) else 'fail')"

/-- The program that makes a hash. -/
def hashScript (pwHex : ByteString) : ByteString := opening ++ 39 :: (pwHex ++ 39 :: hashEnding)

/-- The program that checks one. -/
def verifyScript (pwHex hashHex : ByteString) : ByteString :=
  opening ++ 39 :: (pwHex ++ 39 :: (verifyMiddle ++ 39 :: (hashHex ++ 39 :: verifyEnding)))

def commandLine (script : ByteString) : ByteString :=
  ofString "python3 -c \"" ++ (script ++ ofString "\" 2>/dev/null")

/-- What both commands begin with. -/
theorem opening_eq : ofString "python3 -c \"import bcrypt,binascii; pw=binascii.unhexlify('" =
    ofString "python3 -c \"" ++ (opening ++ [39]) := by decide +kernel

theorem bcryptHashCommand_eq (password : ByteString) :
    bcryptHashCommand password = commandLine (hashScript (hexEncode password)) := by
  have hending : ofString
      "').decode(); print(bcrypt.hashpw(pw.encode(), bcrypt.gensalt(10)).decode())\" " ++
        ofString "2>/dev/null" = 39 :: (hashEnding ++ ofString "\" 2>/dev/null") := by
    decide +kernel
  rw [bcryptHashCommand, List.append_assoc, hending, opening_eq, commandLine, hashScript]
  simp only [List.append_assoc, List.cons_append, List.nil_append]

theorem bcryptVerifyCommand_eq (password hashStr : ByteString) :
    bcryptVerifyCommand password hashStr =
      commandLine (verifyScript (hexEncode password) (hexEncode hashStr)) := by
  have hmiddle : ofString "').decode(); h=binascii.unhexlify('" =
      39 :: (verifyMiddle ++ [39]) := by decide +kernel
  have hending : ofString
      "').decode(); print('ok' if bcrypt.checkpw(pw.encode(), h.encode()) else 'fail')\" " ++
        ofString "2>/dev/null" = 39 :: (verifyEnding ++ ofString "\" 2>/dev/null") := by
    decide +kernel
  rw [bcryptVerifyCommand, List.append_assoc, hending, hmiddle, opening_eq, commandLine,
    verifyScript]
  simp only [List.append_assoc, List.cons_append, List.nil_append]

/-! ## What the shell and Python read -/

/-- A text of digits has nothing in it that either of them would take for something else. -/
theorem plain_hexEncode (s : ByteString) :
    Shell.Plain (hexEncode s) ∧ Python.Plain 39 (hexEncode s) := by
  have hdigits : ∀ c ∈ Hex.digits, (c ≠ 34 ∧ Shell.isSpecial c = false) ∧
      c ≠ 39 ∧ c ≠ 92 ∧ c ≠ 10 := by decide +kernel
  exact ⟨fun c hc ↦ (hdigits c (Hex.mem_digits_of_mem_encode hc)).1,
    fun c hc ↦ (hdigits c (Hex.mem_digits_of_mem_encode hc)).2⟩

/-- The words of a command next to its program. -/
def frame : List Shell.Token :=
  [.word (ofString "python3"), .word (ofString "-c"), .ioNumber (ofString "2"), .operator 62,
    .word (ofString "/dev/null")]

/-- The words of a command next to its program, and the tokens of the program. -/
def commandTokens (command : ByteString) : Option (List Shell.Token × List Python.Token) :=
  match Shell.tokens command with
  | some (first :: second :: .word script :: rest) =>
    (Python.tokens script).map fun ts ↦ (first :: second :: rest, ts)
  | _ => none

/-- The shell hands a program over as it is. -/
theorem commandTokens_commandLine {script : ByteString} (hplain : Shell.Plain script) :
    commandTokens (commandLine script) = (Python.tokens script).map fun ts ↦ (frame, ts) := by
  have hopen : (ofString "python3 -c \"").foldl Shell.step {} =
      ⟨[.word (ofString "python3"), .word (ofString "-c")], .doubleQuoted []⟩ := by
    decide +kernel
  have hclose : ofString "\" 2>/dev/null" =
      34 :: 32 :: (ofString "2" ++ 62 :: ofString "/dev/null") := by decide +kernel
  have htokens : Shell.tokens (commandLine script) = some [.word (ofString "python3"),
      .word (ofString "-c"), .word script, .ioNumber (ofString "2"), .operator 62,
      .word (ofString "/dev/null")] := by
    rw [Shell.tokens, commandLine, List.foldl_append, hopen, List.foldl_append,
      Shell.foldl_doubleQuoted _ _ hplain, List.nil_append, hclose]
    rfl
  rw [commandTokens, htokens]
  rfl

/-- The tokens of the program that makes a hash. -/
def hashTokens (pwHex : ByteString) : List Python.Token :=
  (Python.lex opening).tokens ++ .string pwHex :: (Python.lex hashEnding).tokens

/-- The tokens of the one that checks a hash. -/
def verifyTokens (pwHex hashHex : ByteString) : List Python.Token :=
  (Python.lex opening).tokens ++ .string pwHex :: ((Python.lex verifyMiddle).tokens ++
    .string hashHex :: (Python.lex verifyEnding).tokens)

theorem mode_opening : (Python.lex opening).mode = .between := by decide +kernel

theorem tokens_hashScript {pwHex : ByteString} (hpw : Python.Plain 39 pwHex) :
    Python.tokens (hashScript pwHex) = some (hashTokens pwHex) := by
  have hending : (Python.lex hashEnding).mode = .between := by decide +kernel
  have hlex : Python.lex (hashScript pwHex) = ⟨hashTokens pwHex, .between⟩ := by
    rw [hashScript, Python.lex_literal (c := 41) mode_opening hpw rfl (by decide), hending]
    rfl
  rw [Python.tokens_of_between (by rw [hlex]), hlex]

theorem tokens_verifyScript {pwHex hashHex : ByteString} (hpw : Python.Plain 39 pwHex)
    (hhash : Python.Plain 39 hashHex) :
    Python.tokens (verifyScript pwHex hashHex) = some (verifyTokens pwHex hashHex) := by
  have hmiddle : (Python.lex verifyMiddle).mode = .between := by decide +kernel
  have hending : (Python.lex verifyEnding).mode = .between := by decide +kernel
  have hlex : Python.lex (verifyScript pwHex hashHex) =
      ⟨verifyTokens pwHex hashHex, .between⟩ := by
    rw [verifyScript, Python.lex_literal (c := 41) mode_opening hpw rfl (by decide),
      Python.lex_literal (c := 41) hmiddle hhash rfl (by decide), hending]
    rfl
  rw [Python.tokens_of_between (by rw [hlex]), hlex]

/-! ## No injection -/

/-- The text that stands for some bytes in a command. -/
structure HexText (s : ByteString) : Prop where
  /-- It is what the stream writes. -/
  written : (s.foldl Hex.NumberStream.putHex {}).text = hexEncode s
  digits : ∀ c ∈ hexEncode s, c ∈ Hex.digits
  even : Even (hexEncode s).length
  decode : Hex.decode (hexEncode s) = some s

theorem hexText (s : ByteString) : HexText s where
  written := Hex.NumberStream.text_foldl_putHex {} s
  digits _ hc := Hex.mem_digits_of_mem_encode hc
  even := by
    rw [show hexEncode s = Hex.encode s from rfl, Hex.length_encode]
    exact even_two_mul _
  decode := Hex.decode_encode s

/-- Nothing in a command ends it early. -/
theorem zero_not_mem_commands (password hashStr : ByteString) :
    0 ∉ bcryptHashCommand password ∧ 0 ∉ bcryptVerifyCommand password hashStr := by
  have hzero : 0 ∉ Hex.digits := by decide +kernel
  have hhex : ∀ s, 0 ∉ hexEncode s := fun s hmem ↦ hzero (Hex.mem_digits_of_mem_encode hmem)
  simp only [bcryptHashCommand, bcryptVerifyCommand, List.mem_append, not_or]
  refine ⟨⟨⟨⟨?_, hhex _⟩, ?_⟩, ?_⟩, ⟨⟨⟨⟨?_, hhex _⟩, ?_⟩, hhex _⟩, ?_⟩, ?_⟩
  all_goals decide +kernel

/-- What a command is made of, but for the contents of the literals in its program. -/
def commandShape (command : ByteString) : Option (List Shell.Token × List Python.Token) :=
  (commandTokens command).map fun t ↦ (t.1, t.2.map Python.Token.shape)

/-- The commands for a password and a stored hash. -/
structure Inert (password hashStr : ByteString) : Prop where
  passwordText : HexText password
  hashText : HexText hashStr
  hashCommand : bcryptHashCommand password = commandLine (hashScript (hexEncode password))
  verifyCommand : bcryptVerifyCommand password hashStr =
    commandLine (verifyScript (hexEncode password) (hexEncode hashStr))
  whole : 0 ∉ bcryptHashCommand password ∧ 0 ∉ bcryptVerifyCommand password hashStr
  hashCommandTokens : commandTokens (bcryptHashCommand password) =
    some (frame, hashTokens (hexEncode password))
  verifyCommandTokens : commandTokens (bcryptVerifyCommand password hashStr) =
    some (frame, verifyTokens (hexEncode password) (hexEncode hashStr))
  sameHashShape : ∀ other, commandShape (bcryptHashCommand other) =
    commandShape (bcryptHashCommand password)
  sameVerifyShape : ∀ other otherHash, commandShape (bcryptVerifyCommand other otherHash) =
    commandShape (bcryptVerifyCommand password hashStr)

theorem commandTokens_hash (password : ByteString) :
    commandTokens (bcryptHashCommand password) =
      some (frame, hashTokens (hexEncode password)) := by
  obtain ⟨hshell, hpython⟩ := plain_hexEncode password
  have hopening : Shell.Plain opening := by decide +kernel
  have hending : Shell.Plain (39 :: hashEnding) := by decide +kernel
  have hquote : Shell.Plain [39] := by decide
  rw [bcryptHashCommand_eq, commandTokens_commandLine, tokens_hashScript hpython]
  · rfl
  · exact hopening.append (hquote.append (hshell.append hending))

theorem commandTokens_verify (password hashStr : ByteString) :
    commandTokens (bcryptVerifyCommand password hashStr) =
      some (frame, verifyTokens (hexEncode password) (hexEncode hashStr)) := by
  obtain ⟨hshell, hpython⟩ := plain_hexEncode password
  obtain ⟨hshell', hpython'⟩ := plain_hexEncode hashStr
  have hopening : Shell.Plain opening := by decide +kernel
  have hmiddle : Shell.Plain (39 :: (verifyMiddle ++ [39])) := by decide +kernel
  have hending : Shell.Plain (39 :: verifyEnding) := by decide +kernel
  have hquote : Shell.Plain [39] := by decide
  rw [bcryptVerifyCommand_eq, commandTokens_commandLine, tokens_verifyScript hpython hpython']
  · rfl
  · have hrest := hmiddle.append (hshell'.append hending)
    rw [List.cons_append, List.append_assoc] at hrest
    exact hopening.append (hquote.append (hshell.append hrest))

/-- **No injection**: the bytes of a password and of a stored hash show in the literals only. -/
theorem commands_inert (password hashStr : ByteString) : Inert password hashStr where
  passwordText := hexText password
  hashText := hexText hashStr
  hashCommand := bcryptHashCommand_eq password
  verifyCommand := bcryptVerifyCommand_eq password hashStr
  whole := zero_not_mem_commands password hashStr
  hashCommandTokens := commandTokens_hash password
  verifyCommandTokens := commandTokens_verify password hashStr
  sameHashShape other := by
    rw [commandShape, commandShape, commandTokens_hash, commandTokens_hash, Option.map_some,
      Option.map_some]
    simp only [hashTokens, List.map_append, List.map_cons, Python.Token.shape]
  sameVerifyShape other otherHash := by
    rw [commandShape, commandShape, commandTokens_verify, commandTokens_verify, Option.map_some,
      Option.map_some]
    simp only [verifyTokens, List.map_append, List.map_cons, Python.Token.shape]

end PasswordHasher

end LanProxyGateway
