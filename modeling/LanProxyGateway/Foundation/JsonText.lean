import LanProxyGateway.Foundation.Json
import Mathlib.Algebra.Order.Ring.Rat

/-!
# The text of a JSON value

The grammar of JSON texts as a relation between bytes and the value they are read as: what a parser
accepts, and what it makes of it. White space, escapes, numbers and the order of members are as free
as the grammar has them; of two members with the same key the later one counts. A text is UTF-8.
Numbers are not rounded.

`Value` is inductive over the texts of the elements and members; the lists of these are relations
of their own, over any relation `P` for what stands in them, so that facts about one level need no
induction over the value.

Programs that write JSON without a printer put a string between two quotes as it is. That is read
back as the same string exactly when nothing in it would have to be escaped (`parses_spliced_iff`).
One direction is a derivation. In the other the lengths decide: an escape is longer than what it
stands for, so a text that is no longer than its own content has none.
-/

namespace Foundation

namespace JsonText

open ByteString

/-! ## Strings -/

/-- A byte that stands for itself in a string: no control character, quote or backslash. -/
def IsPlain (c : UInt8) : Prop := 0x20 ≤ c ∧ c ≠ 34 ∧ c ≠ 92

instance : DecidablePred IsPlain := fun c ↦ inferInstanceAs (Decidable (0x20 ≤ c ∧ c ≠ 34 ∧ c ≠ 92))

/-- A text in which nothing has to be escaped. -/
structure Plain (s : ByteString) : Prop where
  utf8 : Utf8 s
  bytes : ∀ c ∈ s, IsPlain c

instance : DecidablePred Plain := fun s ↦
  haveI := List.decidableBAll IsPlain s
  decidable_of_iff (Utf8 s ∧ ∀ c ∈ s, IsPlain c) ⟨fun h ↦ ⟨h.1, h.2⟩, fun h ↦ ⟨h.1, h.2⟩⟩

/-- The escapes of one letter, and what they stand for. -/
def escapes : List (UInt8 × UInt8) :=
  [(34, 34), (92, 92), (47, 47), (98, 8), (102, 12), (110, 10), (114, 13), (116, 9)]

/-- The value of a hexadecimal digit. -/
def hexValue (c : UInt8) : Option ℕ :=
  if isDigit c then some (c.toNat - 48)
  else if 65 ≤ c ∧ c ≤ 70 then some (c.toNat - 55)
  else if 97 ≤ c ∧ c ≤ 102 then some (c.toNat - 87)
  else none

/-- The number that four hexadecimal digits give. -/
def codeUnit (a b c d : UInt8) : Option ℕ := do
  let a ← hexValue a
  let b ← hexValue b
  let c ← hexValue c
  let d ← hexValue d
  some (((a * 16 + b) * 16 + c) * 16 + d)

/-- What stands between the quotes of a string, and the string. -/
inductive Chars : ByteString → ByteString → Prop
  | nil : Chars [] []
  | plain {t s : ByteString} {c : UInt8} (hc : IsPlain c) (h : Chars t s) : Chars (c :: t) (c :: s)
  | escape {t s : ByteString} {e c : UInt8} (he : (e, c) ∈ escapes) (h : Chars t s) :
    Chars (92 :: e :: t) (c :: s)
  /-- A character by its number, which is not that of a surrogate. -/
  | unicode {t s : ByteString} {a b c d : UInt8} {char : Char}
    (hchar : codeUnit a b c d = some char.toNat) (h : Chars t s) :
    Chars (92 :: 117 :: a :: b :: c :: d :: t) (String.utf8EncodeChar char ++ s)
  /-- A character by its two surrogates. -/
  | surrogates {t s : ByteString} {a b c d a' b' c' d' : UInt8} {hi lo : ℕ} {char : Char}
    (hhi : codeUnit a b c d = some hi) (hlo : codeUnit a' b' c' d' = some lo)
    (hhi' : 0xD800 ≤ hi ∧ hi < 0xDC00) (hlo' : 0xDC00 ≤ lo ∧ lo < 0xE000)
    (hchar : char.toNat = 0x10000 + (hi - 0xD800) * 0x400 + (lo - 0xDC00)) (h : Chars t s) :
    Chars (92 :: 117 :: a :: b :: c :: d :: 92 :: 117 :: a' :: b' :: c' :: d' :: t)
      (String.utf8EncodeChar char ++ s)

/-- A text between quotes. -/
def quote (t : ByteString) : ByteString := 34 :: (t ++ [34])

/-! ## Numbers -/

/-- Digits without a needless zero in front. -/
def Whole (ds : ByteString) : Prop := IsDecimal ds ∧ (ds.head? = some 48 → ds = [48])

/-- The sign of a number, and its factor. -/
inductive Sign : ByteString → Int → Prop
  | none : Sign [] 1
  | minus : Sign [45] (-1)

/-- The digits behind a decimal point, if there is one. -/
inductive Fraction : ByteString → ByteString → Prop
  | none : Fraction [] []
  | digits {ds : ByteString} (h : IsDecimal ds) : Fraction (46 :: ds) ds

/-- The power of ten that a number is multiplied by. -/
inductive Exponent : ByteString → Int → Prop
  | none : Exponent [] 0
  | digits {e : UInt8} {sign ds : ByteString} {z : Int} (he : e = 101 ∨ e = 69)
    (hsign : Sign sign z ∨ sign = [43] ∧ z = 1) (h : IsDecimal ds) :
    Exponent (e :: (sign ++ ds)) (z * digitsValue ds)

inductive Number : ByteString → Json → Prop
  | integer {sign ds : ByteString} {z : Int} (hsign : Sign sign z) (h : Whole ds) :
    Number (sign ++ ds) (.integer (z * digitsValue ds))
  /-- With a fraction or an exponent. -/
  | float {sign ds fs frac es : ByteString} {z e : Int} (hsign : Sign sign z) (h : Whole ds)
    (hfrac : Fraction frac fs) (hexp : Exponent es e) (hne : frac ++ es ≠ []) :
    Number (sign ++ ds ++ frac ++ es)
      (.float (z * digitsValue (ds ++ fs) * (10 : ℚ) ^ (e - fs.length)))

/-! ## Values -/

/-- White space. -/
def Blank (s : ByteString) : Prop := ∀ c ∈ s, c ∈ ([32, 9, 10, 13] : List UInt8)

theorem blank_nil : Blank [] := List.forall_mem_nil _

section

variable (P : ByteString → Json → Prop)

/-- A value with white space around it. -/
inductive Element : ByteString → Json → Prop
  | mk {pre t post : ByteString} {j : Json} (hpre : Blank pre) (h : P t j) (hpost : Blank post) :
    Element (pre ++ t ++ post) j

/-- A key, a colon and a value. -/
inductive Member : ByteString → ByteString × Json → Prop
  | mk {pre key post t k : ByteString} {j : Json} (hpre : Blank pre) (hkey : Chars key k)
    (hpost : Blank post) (h : Element P t j) : Member (pre ++ quote key ++ post ++ 58 :: t) (k, j)

/-- One element after another, with commas between them. -/
inductive Elements : ByteString → List Json → Prop
  | one {t : ByteString} {j : Json} (h : Element P t j) : Elements t [j]
  | cons {t ts : ByteString} {j : Json} {js : List Json} (h : Element P t j)
    (hs : Elements ts js) : Elements (t ++ 44 :: ts) (j :: js)

/-- One member after another, with commas between them. -/
inductive Members : ByteString → List (ByteString × Json) → Prop
  | one {t : ByteString} {m : ByteString × Json} (h : Member P t m) : Members t [m]
  | cons {t ts : ByteString} {m : ByteString × Json} {ms : List (ByteString × Json)}
    (h : Member P t m) (hs : Members ts ms) : Members (t ++ 44 :: ts) (m :: ms)

end

/-- The object with the members, the later of two with the same key. -/
def objectOf (ms : List (ByteString × Json)) : Json :=
  .object (ms.foldl (fun m e ↦ OrderedMap.set e.1 e.2 m) [])

/-- The text of a value. -/
inductive Value : ByteString → Json → Prop
  | null : Value (ofString "null") .null
  | true : Value (ofString "true") (.boolean true)
  | false : Value (ofString "false") (.boolean false)
  | number {t : ByteString} {j : Json} (h : Number t j) : Value t j
  | string {t s : ByteString} (h : Chars t s) : Value (quote t) (.string s)
  | emptyArray {t : ByteString} (h : Blank t) : Value (91 :: (t ++ [93])) (.array [])
  | array {t : ByteString} {js : List Json} (h : Elements Value t js) :
    Value (91 :: (t ++ [93])) (.array js)
  | emptyObject {t : ByteString} (h : Blank t) : Value (123 :: (t ++ [125])) (.object [])
  | object {t : ByteString} {ms : List (ByteString × Json)} (h : Members Value t ms) :
    Value (123 :: (t ++ [125])) (objectOf ms)

/-- The text is JSON, and this is its value. -/
structure Parses (t : ByteString) (j : Json) : Prop where
  utf8 : Utf8 t
  element : Element Value t j

/-! ## Plain texts -/

variable {t s k : ByteString} {j : Json}

theorem plain_nil : Plain [] := ⟨utf8_nil, List.forall_mem_nil _⟩

/-- Behind a text in which nothing has to be escaped. -/
theorem plain_append_iff (h : Plain s) : Plain (s ++ t) ↔ Plain t := by
  have hutf8 : Utf8 (s ++ t) ↔ Utf8 t := by
    have heval : utf8DFA.evalFrom utf8DFA.start s = .accept := h.utf8
    rw [Utf8, DFA.eval, DFA.evalFrom_of_append, heval]
    rfl
  constructor
  · intro hst
    exact ⟨hutf8.mp hst.utf8, fun c hc ↦ hst.bytes c (List.mem_append_right s hc)⟩
  · intro ht
    exact ⟨hutf8.mpr ht.utf8, List.forall_mem_append.mpr ⟨h.bytes, ht.bytes⟩⟩

/-- Such a text is what stands between the quotes. -/
theorem Plain.chars (h : Plain s) : Chars s s := by
  have hbytes := h.bytes
  clear h
  induction s with
  | nil => exact .nil
  | cons c s ih =>
    rw [List.forall_mem_cons] at hbytes
    exact .plain hbytes.1 (ih hbytes.2)

/-! ## How long a text is -/

theorem length_utf8EncodeChar_le (char : Char) : (String.utf8EncodeChar char).length ≤ 4 := by
  rw [String.length_utf8EncodeChar]
  exact char.utf8Size_le_four

/-- A string is no longer than its text. -/
theorem Chars.length_le (h : Chars t s) : s.length ≤ t.length := by
  induction h with
  | nil => exact Nat.le_refl _
  | plain hc h ih => exact Nat.succ_le_succ ih
  | escape he h ih =>
    simp only [List.length_cons]
    omega
  | @unicode t s a b c d char hchar h ih =>
    have hchar := length_utf8EncodeChar_le char
    simp only [List.length_cons, List.length_append]
    omega
  | @surrogates t s a b c d a' b' c' d' hi lo char hhi hlo hhi' hlo' hchar h ih =>
    have hchar := length_utf8EncodeChar_le char
    simp only [List.length_cons, List.length_append]
    omega

/-- A text that is no longer than its string has no escapes. -/
theorem Chars.eq_of_length_le (h : Chars t s) (hle : t.length ≤ s.length) :
    t = s ∧ ∀ c ∈ s, IsPlain c := by
  induction h with
  | nil => exact ⟨rfl, List.forall_mem_nil _⟩
  | plain hc h ih =>
    obtain ⟨rfl, hbytes⟩ := ih (Nat.le_of_succ_le_succ hle)
    exact ⟨rfl, List.forall_mem_cons.mpr ⟨hc, hbytes⟩⟩
  | escape he h ih =>
    have hlength := h.length_le
    simp only [List.length_cons] at hle
    omega
  | @unicode t s a b c d char hchar h ih =>
    have hchar := length_utf8EncodeChar_le char
    have hlength := h.length_le
    simp only [List.length_cons, List.length_append] at hle
    omega
  | @surrogates t s a b c d a' b' c' d' hi lo char hhi hlo hhi' hlo' hchar h ih =>
    have hchar := length_utf8EncodeChar_le char
    have hlength := h.length_le
    simp only [List.length_cons, List.length_append] at hle
    omega

section

variable {P : ByteString → Json → Prop}

/-- A member has room for its key and its value. -/
theorem Member.length_le (h : Member P t (k, j)) :
    ∃ t', Element P t' j ∧ k.length + t'.length + 3 ≤ t.length := by
  cases h with
  | @mk pre key post t _ _ hpre hkey hpost h =>
    refine ⟨t, h, ?_⟩
    have hlength := hkey.length_le
    simp only [quote, List.length_append, List.length_cons, List.length_nil]
    omega

/-- Every member stands in the text. -/
theorem Members.exists_member {ms : List (ByteString × Json)} {m : ByteString × Json}
    (h : Members P t ms) (hm : m ∈ ms) : ∃ t', Member P t' m ∧ t'.length ≤ t.length := by
  induction h with
  | one h =>
    obtain rfl := List.mem_singleton.mp hm
    exact ⟨_, h, Nat.le_refl _⟩
  | @cons t ts m' ms h hs ih =>
    simp only [List.length_append, List.length_cons]
    obtain rfl | hm := List.mem_cons.mp hm
    · exact ⟨t, h, by omega⟩
    · obtain ⟨t', hmember, hle⟩ := ih hm
      exact ⟨t', hmember, by omega⟩

theorem Element.length_le (h : Element P t j) : ∃ t', P t' j ∧ t'.length ≤ t.length := by
  cases h with
  | @mk pre t post _ hpre h hpost =>
    refine ⟨t, h, ?_⟩
    simp only [List.length_append]
    omega

end

/-- A member that is read is one of those that were written. -/
theorem mem_of_get?_foldl {ms m : List (ByteString × Json)} {v : Json}
    (h : OrderedMap.get? k (ms.foldl (fun m e ↦ OrderedMap.set e.1 e.2 m) m) = some v) :
    (k, v) ∈ ms ∨ OrderedMap.get? k m = some v := by
  induction ms generalizing m with
  | nil => exact .inr h
  | cons e ms ih =>
    obtain hmem | hget := ih h
    · exact .inl (List.mem_cons_of_mem e hmem)
    · rw [OrderedMap.get?_set] at hget
      split at hget
      · rename_i hkey
        rw [← hkey, ← Option.some.inj hget]
        exact .inl List.mem_cons_self
      · exact .inr hget

/-- The text of an object has room for each of its members. -/
theorem Value.length_of_member? {v : Json} (h : Value t j) (hv : j.member? k = some v) :
    ∃ t', Element Value t' v ∧ k.length + t'.length + 5 ≤ t.length := by
  cases h with
  | @object t ms h =>
    obtain hmem | hnone := mem_of_get?_foldl hv
    · obtain ⟨t₁, hmember, hle₁⟩ := h.exists_member hmem
      obtain ⟨t₂, hvalue, hle₂⟩ := hmember.length_le
      refine ⟨t₂, hvalue, ?_⟩
      simp only [List.length_cons, List.length_append, List.length_nil]
      omega
    · cases hnone
  | number h => cases h <;> cases hv
  | _ => cases hv

/-- The text of a string. -/
theorem Value.chars (h : Value t (.string s)) : ∃ t', Chars t' s ∧ t'.length + 2 = t.length := by
  cases h with
  | @string t _ h => exact ⟨t, h, by simp [quote]⟩
  | number h => cases h

/-! ## Texts put together by hand -/

/-- An object with one string under a key, both between quotes as they are. -/
def spliced (key s : ByteString) : ByteString := 123 :: (quote key ++ 58 :: quote s ++ [125])

theorem spliced_eq (key s : ByteString) :
    spliced key s = [123, 34] ++ (key ++ ([34, 58, 34] ++ (s ++ ([34, 125] ++ [])))) := by
  simp [spliced, quote]

theorem utf8_spliced_iff {key : ByteString} : Utf8 (spliced key s) ↔ Utf8 key ∧ Utf8 s := by
  rw [spliced_eq, utf8_ascii_append_iff (by decide), utf8_append_iff (by decide) (by decide),
    utf8_append_iff (by decide) (by decide)]
  exact ⟨fun h ↦ ⟨h.1, h.2.1⟩, fun h ↦ ⟨h.1, h.2, utf8_nil⟩⟩

theorem element_of_value (h : Value t j) : Element Value t j := by
  have helement := Element.mk blank_nil h blank_nil
  rwa [List.nil_append, List.append_nil] at helement

/-- Where nothing has to be escaped, the text is the object that it was meant to be. -/
theorem parses_spliced {key : ByteString} (hkey : Plain key) (hs : Plain s) :
    Parses (spliced key s) (.object [(key, .string s)]) := by
  refine ⟨utf8_spliced_iff.mpr ⟨hkey.utf8, hs.utf8⟩, element_of_value ?_⟩
  have hmember := Member.mk blank_nil hkey.chars blank_nil (element_of_value (.string hs.chars))
  rw [List.nil_append, List.append_nil] at hmember
  exact .object (.one hmember)

/-- **The text is read back exactly when nothing in the string has to be escaped.** -/
theorem parses_spliced_iff {key : ByteString} (hkey : Plain key) :
    (∃ j, Parses (spliced key s) j ∧ j.member? key = some (.string s)) ↔ Plain s := by
  constructor
  · rintro ⟨j, hj, hmember⟩
    obtain ⟨t, hobject, hlength⟩ := hj.element.length_le
    obtain ⟨t₁, helement, hlength₁⟩ := hobject.length_of_member? hmember
    obtain ⟨t₂, hvalue, hlength₂⟩ := helement.length_le
    obtain ⟨t₃, hchars, hlength₃⟩ := hvalue.chars
    -- the key and the braces leave no more room than the string itself needs
    have hle : t₃.length ≤ s.length := by
      simp only [spliced, quote, List.length_append, List.length_cons, List.length_nil] at hlength
      omega
    exact ⟨(utf8_spliced_iff.mp hj.utf8).2, (hchars.eq_of_length_le hle).2⟩
  · intro hs
    refine ⟨_, parses_spliced hkey hs, ?_⟩
    rw [Json.member?_object, OrderedMap.get?_cons, if_pos rfl]

end JsonText

end Foundation
