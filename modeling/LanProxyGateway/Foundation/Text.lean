import LanProxyGateway.Foundation.Bytes
import Mathlib.Computability.DFA
import Mathlib.Data.List.TakeWhile

/-!
# Text inside byte strings: decimal numerals, `std::stoi`, UTF-8

`std::to_string` and `std::stoi` on byte strings, and well-formedness as UTF-8.

UTF-8 is recognised by the automaton that JSON serialisers run over a string before they write it,
here as a `DFA` over bytes. The two facts used about it are `utf8_append_iff`, which splits a text
in front of an ASCII byte, and `utf8_ascii_append_iff`, which drops a leading ASCII part: a message
glued together from fixed ASCII parts and variable parts is well formed exactly when every variable
part is.
-/

namespace Foundation

/-! ## Exceptions of the standard library and of the libraries next to it -/

/-- The exceptions a byte-string program can meet: the two of `std::stoi`, the cast of an IPv6
address to IPv4, the serialisation of a string that is not UTF-8, and a failed system call. -/
inductive CxxException
  | invalidArgument
  | outOfRange
  | badAddressCast
  | typeError
  | systemError
  deriving DecidableEq, Repr

namespace ByteString

/-! ## Numerals -/

/-- `std::to_string` of an unsigned number. -/
def toDecimal (n : ℕ) : ByteString := (Nat.toDigits 10 n).map fun c ↦ c.toNat.toUInt8

/-- `std::to_string` of a signed number. -/
def intToDecimal (n : Int) : ByteString :=
  if n < 0 then 45 :: toDecimal n.natAbs else toDecimal n.natAbs

/-- One lower-case hexadecimal digit. -/
def hexDigit (n : ℕ) : UInt8 := if n % 16 < 10 then (48 + n % 16).toUInt8 else (87 + n % 16).toUInt8

/-- `%08x`: the eight hexadecimal digits of a 32-bit number. -/
def hex8 (n : UInt32) : ByteString :=
  [28, 24, 20, 16, 12, 8, 4, 0].map fun k ↦ hexDigit (n.toNat >>> k)

/-- `isspace` in the C locale. -/
def isSpace (c : UInt8) : Bool := c == 32 || (9 ≤ c && c ≤ 13)

/-- `isdigit`. -/
def isDigit (c : UInt8) : Bool := 48 ≤ c && c ≤ 57

/-- The value of a string of digits. -/
def digitsValue (s : ByteString) : ℕ := s.foldl (fun n c ↦ 10 * n + (c.toNat - 48)) 0

/-- The numeral `strtol` reads: blanks, an optional sign, then as many digits as there are. -/
def numeral (s : ByteString) : Bool × ByteString :=
  match s.dropWhile isSpace with
  | 45 :: r => (true, r.takeWhile isDigit)
  | 43 :: r => (false, r.takeWhile isDigit)
  | r => (false, r.takeWhile isDigit)

/-- `std::stoi`: an `int`, or an exception when there is no numeral or its value is no `int`. -/
def stoi (s : ByteString) : Except CxxException Int :=
  let (negative, digits) := numeral s
  let value : Int := if negative then -(digitsValue digits : Int) else digitsValue digits
  if digits.isEmpty then .error .invalidArgument
  else if value < -2 ^ 31 ∨ 2 ^ 31 ≤ value then .error .outOfRange
  else .ok value

/-- What `std::stoi` gives is an `int`. -/
theorem bounds_of_stoi {s : ByteString} {n : Int} (h : stoi s = .ok n) :
    -2147483648 ≤ n ∧ n ≤ 2147483647 := by
  rw [stoi] at h
  simp only at h
  split_ifs at h with hempty hneg hout hout
  · have hn := Except.ok.inj h
    omega
  · have hn := Except.ok.inj h
    omega

/-- The text begins with a numeral, after white space and a sign, whose value is an `int`. -/
def BeginsWithInt (s : ByteString) : Prop :=
  (numeral s).2 ≠ [] ∧
    digitsValue (numeral s).2 < if (numeral s).1 then 2 ^ 31 + 1 else 2 ^ 31

theorem stoi_isOk_iff (s : ByteString) : (∃ n, stoi s = .ok n) ↔ BeginsWithInt s := by
  rw [stoi, BeginsWithInt]
  rcases numeral s with ⟨negative, _ | ⟨d, digits⟩⟩
  · refine ⟨fun h ↦ ?_, fun h ↦ absurd rfl h.1⟩
    obtain ⟨_, h⟩ := h
    cases h
  simp only [List.isEmpty_cons, Bool.false_eq_true, if_false]
  set value := digitsValue (d :: digits)
  have hfits : ∀ v : Int, (∃ n, (if v < -2 ^ 31 ∨ 2 ^ 31 ≤ v then
      .error .outOfRange else .ok v : Except CxxException Int) = .ok n) ↔
      ¬(v < -2 ^ 31 ∨ 2 ^ 31 ≤ v) := by
    intro v
    split
    · rename_i hv
      refine ⟨fun h ↦ ?_, fun h ↦ absurd hv h⟩
      obtain ⟨_, h⟩ := h
      cases h
    · rename_i hv
      exact ⟨fun _ ↦ hv, fun _ ↦ ⟨v, rfl⟩⟩
  rw [hfits]
  rcases negative with _ | _
  · simp only [Bool.false_eq_true, if_false, ne_eq, reduceCtorEq, not_false_eq_true, true_and]
    omega
  · simp only [if_true, ne_eq, reduceCtorEq, not_false_eq_true, true_and]
    omega

/-! ## UTF-8 -/

/-- Where the recogniser stands: between characters, inside one, or past an error. -/
inductive Utf8State
  | accept
  | reject
  /-- One, two or three continuation bytes are due. -/
  | tail1 | tail2 | tail3
  /-- After `E0`, `ED`, `F0`, `F4`, whose next byte has a narrower range. -/
  | afterE0 | afterED | afterF0 | afterF4
  deriving DecidableEq, Repr

/-- The state after the first byte of a character. -/
def utf8First (b : UInt8) : Utf8State :=
  if b < 0x80 then .accept
  else if b < 0xC2 then .reject
  else if b < 0xE0 then .tail1
  else if b = 0xE0 then .afterE0
  else if b = 0xED then .afterED
  else if b < 0xF0 then .tail2
  else if b = 0xF0 then .afterF0
  else if b < 0xF4 then .tail3
  else if b = 0xF4 then .afterF4
  else .reject

/-- A byte that has to lie in `[lo, hi]`. -/
def utf8Within (lo hi b : UInt8) (next : Utf8State) : Utf8State :=
  if lo ≤ b ∧ b ≤ hi then next else .reject

/-- One byte. -/
def utf8Step : Utf8State → UInt8 → Utf8State
  | .accept, b => utf8First b
  | .reject, _ => .reject
  | .tail1, b => utf8Within 0x80 0xBF b .accept
  | .tail2, b => utf8Within 0x80 0xBF b .tail1
  | .tail3, b => utf8Within 0x80 0xBF b .tail2
  | .afterE0, b => utf8Within 0xA0 0xBF b .tail1
  | .afterED, b => utf8Within 0x80 0x9F b .tail1
  | .afterF0, b => utf8Within 0x90 0xBF b .tail2
  | .afterF4, b => utf8Within 0x80 0x8F b .tail2

/-- The recogniser of well-formed UTF-8. -/
def utf8DFA : DFA UInt8 Utf8State where
  step := utf8Step
  start := .accept
  accept := {.accept}

/-- Well-formed UTF-8. -/
def Utf8 (s : ByteString) : Prop := utf8DFA.eval s = .accept

instance (s : ByteString) : Decidable (Utf8 s) :=
  inferInstanceAs (Decidable (utf8DFA.eval s = .accept))

/-- All bytes below `0x80`. -/
def Ascii (s : ByteString) : Prop := ∀ b ∈ s, b < 0x80

-- not by way of all 256 bytes
instance (s : ByteString) : Decidable (Ascii s) :=
  List.decidableBAll (fun b ↦ b < 0x80) s

@[simp] theorem utf8_nil : Utf8 [] := rfl

theorem ascii_nil : Ascii [] := fun _ hb ↦ absurd hb List.not_mem_nil

/-- An ASCII byte ends a character: read anywhere else it is an error. -/
theorem utf8Step_ascii {b : UInt8} (hb : b < 0x80) (q : Utf8State) :
    utf8Step q b = if q = .accept then .accept else .reject := by
  have h80 : ¬0x80 ≤ b := by rwa [UInt8.not_le]
  have hA0 : ¬0xA0 ≤ b := fun h ↦ h80 (UInt8.le_trans (by decide) h)
  have h90 : ¬0x90 ≤ b := fun h ↦ h80 (UInt8.le_trans (by decide) h)
  cases q <;> simp [utf8Step, utf8First, utf8Within, hb, h80, hA0, h90]

theorem utf8_evalFrom_reject (s : ByteString) : utf8DFA.evalFrom .reject s = .reject := by
  induction s with
  | nil => rfl
  | cons b s ih => rwa [DFA.evalFrom_cons]

/-- In front of an ASCII byte a text splits. -/
theorem utf8_append_cons_iff {s t : ByteString} {b : UInt8} (hb : b < 0x80) :
    Utf8 (s ++ b :: t) ↔ Utf8 s ∧ Utf8 t := by
  have hstep : ∀ q, utf8DFA.evalFrom q (b :: t)
      = if q = .accept then utf8DFA.eval t else .reject := by
    intro q
    rw [DFA.evalFrom_cons]
    show utf8DFA.evalFrom (utf8Step q b) t = _
    rw [utf8Step_ascii hb]
    by_cases hq : q = .accept
    · rw [if_pos hq, if_pos hq]; rfl
    · rw [if_neg hq, if_neg hq, utf8_evalFrom_reject]
  rw [Utf8, DFA.eval, DFA.evalFrom_of_append, hstep]
  by_cases hs : utf8DFA.evalFrom utf8DFA.start s = .accept
  · rw [if_pos hs]
    exact ⟨fun h ↦ ⟨hs, h⟩, fun h ↦ h.2⟩
  · rw [if_neg hs]
    exact ⟨fun h ↦ absurd h (by decide), fun h ↦ absurd h.1 hs⟩

/-- A leading ASCII part does not matter. -/
theorem utf8_ascii_append_iff {s t : ByteString} (hs : Ascii s) : Utf8 (s ++ t) ↔ Utf8 t := by
  induction s with
  | nil => rfl
  | cons b s ih =>
    rw [List.cons_append, ← List.nil_append (b :: (s ++ t)),
      utf8_append_cons_iff (hs b List.mem_cons_self), ih fun c hc ↦
        hs c (List.mem_cons_of_mem b hc)]
    exact ⟨fun h ↦ h.2, fun h ↦ ⟨utf8_nil, h⟩⟩

theorem utf8_of_ascii {s : ByteString} (hs : Ascii s) : Utf8 s := by
  rw [← List.append_nil s, utf8_ascii_append_iff hs]
  exact utf8_nil

/-- In front of a non-empty ASCII part a text splits. -/
theorem utf8_append_iff {s a t : ByteString} (ha : Ascii a) (hne : a ≠ []) :
    Utf8 (s ++ (a ++ t)) ↔ Utf8 s ∧ Utf8 t := by
  cases a with
  | nil => exact absurd rfl hne
  | cons b a =>
    rw [List.cons_append, utf8_append_cons_iff (ha b List.mem_cons_self),
      utf8_ascii_append_iff fun c hc ↦ ha c (List.mem_cons_of_mem b hc)]

/-- Two texts make a text. -/
theorem Utf8.append {s t : ByteString} (hs : Utf8 s) (ht : Utf8 t) : Utf8 (s ++ t) := by
  rw [Utf8, DFA.eval] at hs
  rw [Utf8, DFA.eval, DFA.evalFrom_of_append, hs]
  exact ht

/-- Around an ASCII part in the middle a text splits. -/
theorem utf8_between_iff {s a t : ByteString} (ha : Ascii a) (hne : a ≠ []) :
    Utf8 (s ++ a ++ t) ↔ Utf8 s ∧ Utf8 t := by
  rw [List.append_assoc, utf8_append_iff ha hne]

theorem Ascii.append {s t : ByteString} (hs : Ascii s) (ht : Ascii t) : Ascii (s ++ t) := by
  intro b hb
  rcases List.mem_append.mp hb with h | h
  · exact hs b h
  · exact ht b h

/-- The character of a digit as a byte. -/
theorem toNat_toUInt8_of_isDigit {c : Char} (h : c.isDigit) :
    c.toNat.toUInt8.toNat = c.toNat ∧ 48 ≤ c.toNat ∧ c.toNat ≤ 57 := by
  rw [Char.isDigit, Bool.and_eq_true, decide_eq_true_iff, decide_eq_true_iff] at h
  have hlo : 48 ≤ c.toNat := UInt32.le_iff_toNat_le.mp h.1
  have hhi : c.toNat ≤ 57 := UInt32.le_iff_toNat_le.mp h.2
  refine ⟨?_, hlo, hhi⟩
  show (UInt8.ofNat c.toNat).toNat = c.toNat
  rw [UInt8.toNat_ofNat', Nat.mod_eq_of_lt (by omega)]

theorem isDigit_of_mem_toDigits {n : ℕ} {c : Char} (h : c ∈ Nat.toDigits 10 n) : c.isDigit :=
  Nat.isDigit_of_mem_toDigits (by decide) (by decide) h

/-- A numeral consists of digits. -/
theorem bounds_of_mem_toDecimal {n : ℕ} {b : UInt8} (h : b ∈ toDecimal n) :
    48 ≤ b.toNat ∧ b.toNat ≤ 57 := by
  obtain ⟨c, hc, rfl⟩ := List.mem_map.mp h
  obtain ⟨hbyte, hbounds⟩ := toNat_toUInt8_of_isDigit (isDigit_of_mem_toDigits hc)
  rw [hbyte]
  exact hbounds

/-- A numeral is ASCII. -/
theorem ascii_toDecimal (n : ℕ) : Ascii (toDecimal n) := by
  intro b hb
  obtain ⟨-, hhi⟩ := bounds_of_mem_toDecimal hb
  rw [UInt8.lt_iff_toNat_lt]
  exact Nat.lt_of_le_of_lt hhi (by decide)

theorem toDecimal_ne_nil (n : ℕ) : toDecimal n ≠ [] := by
  rw [toDecimal, Ne, List.map_eq_nil_iff]
  exact Nat.toDigits_ne_nil

/-- A numeral has the value that it was written for. -/
theorem digitsValue_toDecimal (n : ℕ) : digitsValue (toDecimal n) = n := by
  have key : ∀ (cs : List Char) (m : ℕ), (∀ c ∈ cs, c.isDigit) →
      (cs.map fun c ↦ c.toNat.toUInt8).foldl (fun n c ↦ 10 * n + (c.toNat - 48)) m
        = Nat.ofDigitChars 10 cs m := by
    intro cs
    induction cs with
    | nil => exact fun _ _ ↦ rfl
    | cons c cs ih =>
      intro m h
      rw [List.forall_mem_cons] at h
      rw [List.map_cons, List.foldl_cons, Nat.ofDigitChars_cons, ih _ h.2,
        (toNat_toUInt8_of_isDigit h.1).1]
      rfl
  rw [digitsValue, toDecimal, key _ _ fun c hc ↦ isDigit_of_mem_toDigits hc,
    Nat.ofDigitChars_ten_toDigits]

theorem toDecimal_inj {m n : ℕ} : toDecimal m = toDecimal n ↔ m = n := by
  constructor
  · intro h
    rw [← digitsValue_toDecimal m, h, digitsValue_toDecimal]
  · rintro rfl
    rfl

/-- The text is digits and nothing else. -/
def IsDecimal (s : ByteString) : Prop := s ≠ [] ∧ ∀ c ∈ s, isDigit c

instance (s : ByteString) : Decidable (IsDecimal s) :=
  haveI := List.decidableBAll (fun c ↦ isDigit c) s
  inferInstanceAs (Decidable (s ≠ [] ∧ ∀ c ∈ s, isDigit c))

theorem bounds_of_isDigit {c : UInt8} (h : isDigit c) : 48 ≤ c.toNat ∧ c.toNat ≤ 57 := by
  rw [isDigit, Bool.and_eq_true, decide_eq_true_iff, decide_eq_true_iff] at h
  exact ⟨UInt8.le_iff_toNat_le.mp h.1, UInt8.le_iff_toNat_le.mp h.2⟩

/-- In front of digits there is no white space and no sign to skip. -/
theorem numeral_of_digits {s : ByteString} (h : ∀ c ∈ s, isDigit c) : numeral s = (false, s) := by
  have htake := List.takeWhile_eq_self_iff.mpr h
  rcases s with _ | ⟨b, s⟩
  · rfl
  have hb := bounds_of_isDigit (h b List.mem_cons_self)
  have hspace : ¬isSpace b := by
    rw [isSpace, Bool.or_eq_true, beq_iff_eq, Bool.and_eq_true, decide_eq_true_iff,
      decide_eq_true_iff, UInt8.le_iff_toNat_le, UInt8.le_iff_toNat_le]
    rintro (rfl | ⟨-, h13⟩)
    · exact absurd hb (by decide)
    · have h13' : b.toNat ≤ 13 := h13
      omega
  rw [numeral, List.dropWhile_cons_of_neg hspace]
  split
  · rename_i heq
    rw [(List.cons.inj heq).1] at hb
    exact absurd hb (by decide)
  · rename_i heq
    rw [(List.cons.inj heq).1] at hb
    exact absurd hb (by decide)
  · rw [htake]

/-- Digits are read as their value, as long as it fits into an `int`. -/
theorem stoi_of_isDecimal {s : ByteString} (h : IsDecimal s) (hfits : digitsValue s < 2 ^ 31) :
    stoi s = .ok (digitsValue s) := by
  rw [stoi, numeral_of_digits h.2]
  simp only [Bool.false_eq_true, if_false, List.isEmpty_iff, h.1]
  rw [if_neg (by omega)]

theorem isDecimal_toDecimal (n : ℕ) : IsDecimal (toDecimal n) := by
  refine ⟨toDecimal_ne_nil n, fun b hb ↦ ?_⟩
  obtain ⟨hlo, hhi⟩ := bounds_of_mem_toDecimal hb
  rw [isDigit, Bool.and_eq_true, decide_eq_true_iff, decide_eq_true_iff]
  exact ⟨UInt8.le_iff_toNat_le.mpr hlo, UInt8.le_iff_toNat_le.mpr hhi⟩

/-- A numeral that fits into an `int` is read back. -/
theorem stoi_toDecimal {n : ℕ} (h : n < 2 ^ 31) : stoi (toDecimal n) = .ok n := by
  have hvalue := digitsValue_toDecimal n
  rw [stoi_of_isDecimal (isDecimal_toDecimal n) (by rwa [hvalue]), hvalue]

/-! ### Ports -/

/-- The text writes a port: digits, of a value in 1..65535. -/
structure WritesPort (s : ByteString) : Prop where
  decimal : IsDecimal s
  pos : 1 ≤ digitsValue s
  le : digitsValue s ≤ 65535

instance (s : ByteString) : Decidable (WritesPort s) :=
  decidable_of_iff (IsDecimal s ∧ 1 ≤ digitsValue s ∧ digitsValue s ≤ 65535)
    ⟨fun h ↦ ⟨h.1, h.2.1, h.2.2⟩, fun h ↦ ⟨h.1, h.2, h.3⟩⟩

/-- The cast of an `int` to sixteen bits keeps it modulo 65536. -/
theorem toNat_uInt16_ofInt (z : Int) : ((UInt16.ofInt z).toNat : Int) = z % 65536 := by
  have hpos : 0 ≤ z % 65536 := Int.emod_nonneg z (by decide)
  have hlt : z % 65536 < 65536 := Int.emod_lt_of_pos z (by decide)
  have hofNat : (UInt16.ofInt z).toNat = (z % 2 ^ 16).toNat % 2 ^ 16 := UInt16.toNat_ofNat'
  rw [hofNat]
  omega

theorem toNat_uInt16_ofInt_natCast {n : ℕ} (h : n ≤ 65535) :
    (UInt16.ofInt (n : Int)).toNat = n := by
  have hcast := toNat_uInt16_ofInt n
  omega

theorem WritesPort.stoi {s : ByteString} (h : WritesPort s) : stoi s = .ok (digitsValue s) := by
  have hle := h.le
  exact stoi_of_isDecimal h.decimal (by omega)

theorem intToDecimal_natCast (n : ℕ) : intToDecimal n = toDecimal n := by
  rw [intToDecimal, if_neg (by omega), Int.natAbs_natCast]

/-- The numeral of a signed number is ASCII, too. -/
theorem ascii_intToDecimal (n : Int) : Ascii (intToDecimal n) := by
  rw [intToDecimal]
  split
  · intro b hb
    rcases List.mem_cons.mp hb with rfl | hb
    · decide
    · exact ascii_toDecimal _ b hb
  · exact ascii_toDecimal _

theorem hex8_ne_nil (n : UInt32) : hex8 n ≠ [] := List.cons_ne_nil _ _

/-! ## String literals -/

theorem utf8Within_ofNat {lo hi : UInt8} {n : ℕ} (hlo : lo.toNat ≤ n) (hhi : n ≤ hi.toNat)
    (next : Utf8State) : utf8Within lo hi (UInt8.ofNat n) next = next := by
  have hn : (UInt8.ofNat n).toNat = n := by
    rw [UInt8.toNat_ofNat', Nat.mod_eq_of_lt (hhi.trans_lt hi.toNat_lt)]
  rw [utf8Within, if_pos]
  rw [UInt8.le_iff_toNat_le, UInt8.le_iff_toNat_le, hn]
  exact ⟨hlo, hhi⟩

theorem utf8Within_sextet (n : ℕ) (next : Utf8State) :
    utf8Within 0x80 0xBF (UInt8.ofNat (n % 0x40 + 0x80)) next = next := by
  apply utf8Within_ofNat
  · exact Nat.le_add_left _ _
  · show n % 0x40 + 0x80 ≤ 0xBF
    omega

theorem utf8First_ofNat {n : ℕ} (hn : n < 0x100) : utf8First (UInt8.ofNat n) =
    if n < 0x80 then .accept
    else if n < 0xC2 then .reject
    else if n < 0xE0 then .tail1
    else if n = 0xE0 then .afterE0
    else if n = 0xED then .afterED
    else if n < 0xF0 then .tail2
    else if n = 0xF0 then .afterF0
    else if n < 0xF4 then .tail3
    else if n = 0xF4 then .afterF4
    else .reject := by
  have hval : (UInt8.ofNat n).toNat = n := by rw [UInt8.toNat_ofNat', Nat.mod_eq_of_lt hn]
  simp only [utf8First, UInt8.lt_iff_toNat_lt, ← UInt8.toNat_inj, hval]
  rfl

/-- The encoding of a character is well formed. -/
theorem utf8_encodeChar (c : Char) : Utf8 (String.utf8EncodeChar c) := by
  have hv : c.val.toNat < 0xD800 ∨ 0xDFFF < c.val.toNat ∧ c.val.toNat < 0x110000 := c.valid
  rw [String.utf8EncodeChar]
  generalize c.val.toNat = n at hv
  have hstep : ∀ q b s, utf8DFA.evalFrom q (b :: s) = utf8DFA.evalFrom (utf8Step q b) s :=
    fun _ _ _ ↦ rfl
  rw [Utf8, DFA.eval]
  split
  · rw [hstep, DFA.evalFrom_nil]
    show utf8First _ = _
    rw [utf8First_ofNat (by omega), if_pos (by omega)]
  split
  · rw [hstep, hstep, DFA.evalFrom_nil]
    show utf8Step (utf8First _) _ = _
    rw [utf8First_ofNat (by omega), if_neg (by omega), if_neg (by omega), if_pos (by omega)]
    exact utf8Within_sextet n _
  split
  · rw [hstep, hstep, hstep, DFA.evalFrom_nil]
    show utf8Step (utf8Step (utf8First _) _) _ = _
    rw [utf8First_ofNat (by omega), if_neg (by omega), if_neg (by omega), if_neg (by omega)]
    -- the ranges after `E0` and `ED` leave out the overlong forms and the surrogates
    have hsecond : utf8Step (if n / 4096 % 0x10 + 0xE0 = 0xE0 then Utf8State.afterE0
        else if n / 4096 % 0x10 + 0xE0 = 0xED then .afterED
        else .tail2) (UInt8.ofNat (n / 64 % 0x40 + 0x80)) = .tail1 := by
      split
      · exact utf8Within_ofNat (show 0xA0 ≤ _ by omega) (show _ ≤ 0xBF by omega) _
      split
      · exact utf8Within_ofNat (show 0x80 ≤ _ by omega) (show _ ≤ 0x9F by omega) _
      · exact utf8Within_sextet (n / 64) _
    rw [if_pos (show n / 4096 % 0x10 + 0xE0 < 0xF0 by omega), hsecond]
    exact utf8Within_sextet n _
  · rw [hstep, hstep, hstep, hstep, DFA.evalFrom_nil]
    show utf8Step (utf8Step (utf8Step (utf8First _) _) _) _ = _
    rw [utf8First_ofNat (by omega), if_neg (by omega), if_neg (by omega), if_neg (by omega),
      if_neg (by omega), if_neg (by omega), if_neg (by omega)]
    -- nothing is longer than it has to be or past the last character
    have hsecond : utf8Step (if n / 262144 % 0x08 + 0xF0 = 0xF0 then Utf8State.afterF0
        else if n / 262144 % 0x08 + 0xF0 < 0xF4 then .tail3
        else if n / 262144 % 0x08 + 0xF0 = 0xF4 then .afterF4
        else .reject) (UInt8.ofNat (n / 4096 % 0x40 + 0x80)) = .tail2 := by
      split
      · exact utf8Within_ofNat (show 0x90 ≤ _ by omega) (show _ ≤ 0xBF by omega) _
      split
      · exact utf8Within_sextet (n / 4096) _
      · rw [if_pos (by omega)]
        exact utf8Within_ofNat (show 0x80 ≤ _ by omega) (show _ ≤ 0x8F by omega) _
    rw [hsecond]
    show utf8Step (utf8Within _ _ _ _) _ = _
    rw [utf8Within_sextet]
    exact utf8Within_sextet n _

/-- A Lean string is a text. -/
theorem utf8_ofString (s : String) : Utf8 (ofString s) := by
  obtain ⟨cs, hcs⟩ := s.isValidUTF8
  have hbytes : ofString s = cs.flatMap String.utf8EncodeChar := by
    rw [ofString, String.toUTF8_eq_toByteArray, hcs, List.utf8Encode, List.data_toByteArray]
  rw [hbytes]
  clear hbytes hcs
  induction cs with
  | nil => exact utf8_nil
  | cons c cs ih =>
    rw [List.flatMap_cons]
    exact (utf8_encodeChar c).append ih

end ByteString

/-- A string that came out of a JSON parser, which refuses what is not UTF-8. -/
structure Text where
  /-- The bytes. -/
  bytes : ByteString
  /-- They are UTF-8. -/
  utf8 : ByteString.Utf8 bytes
  deriving DecidableEq

/-- The text of a string literal. -/
def Text.lit (s : String) : Text := ⟨ByteString.ofString s, ByteString.utf8_ofString s⟩

instance : Inhabited Text := ⟨⟨[], ByteString.utf8_nil⟩⟩

/-- A string of ASCII characters: hexadecimal digits, addresses and ports in text form. -/
structure AsciiText where
  /-- The bytes. -/
  bytes : ByteString
  /-- They are ASCII. -/
  ascii : ByteString.Ascii bytes
  deriving DecidableEq

namespace AsciiText

/-- The text of a string literal. -/
def lit (s : String) (h : ByteString.Ascii (ByteString.ofString s) := by decide) : AsciiText :=
  ⟨ByteString.ofString s, h⟩

instance : Append AsciiText := ⟨fun s t ↦ ⟨s.bytes ++ t.bytes, s.ascii.append t.ascii⟩⟩

theorem utf8 (t : AsciiText) : ByteString.Utf8 t.bytes := ByteString.utf8_of_ascii t.ascii

instance : Inhabited AsciiText := ⟨⟨[], ByteString.ascii_nil⟩⟩

end AsciiText

end Foundation
