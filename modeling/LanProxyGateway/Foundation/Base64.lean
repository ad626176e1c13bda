import LanProxyGateway.Foundation.Bytes
import Mathlib.Data.BitVec
import Mathlib.Data.List.DropRight

/-!
# Base64

The alphabet, an encoder that pads, and the decoding loop over an `int` accumulator that is shifted
left by six for every digit and never cut back: `Bits` is its pair of variables, with the
accumulator taken as a 32-bit two's complement number.

What a decoder does with a character outside the alphabet differs from decoder to decoder, so the
loop here runs over digits.
-/

namespace Foundation

namespace ByteString

theorem rdropWhile_append_replicate {s : ByteString} {c : UInt8} (h : s.rdropWhile (· == c) = s)
    (n : ℕ) : (s ++ List.replicate n c).rdropWhile (· == c) = s := by
  induction n with
  | zero => rwa [List.replicate_zero, List.append_nil]
  | succ n ih =>
    rw [List.replicate_succ', ← List.append_assoc, List.rdropWhile_concat_pos _ _ _ (by simp), ih]

theorem rdropWhile_of_not_mem {s : ByteString} {c : UInt8} (h : c ∉ s) :
    s.rdropWhile (· == c) = s := by
  rw [List.rdropWhile_eq_self_iff]
  intro hne hlast
  rw [beq_iff_eq] at hlast
  exact h (hlast ▸ List.getLast_mem hne)

end ByteString

namespace Base64

open ByteString

/-- The standard alphabet. -/
def alphabet : ByteString :=
  ofString "ABCDEFGHIJKLMNOPQRSTUVWXYZabcdefghijklmnopqrstuvwxyz0123456789+/"

/-- The value of a character of the standard alphabet. -/
def digit? (c : UInt8) : Option ℕ := alphabet.idxOf? c

/-- The character at index `(n >> shift) & 0x3F` of the alphabet. -/
def letter (n shift : ℕ) : UInt8 := alphabet.getD ((n >>> shift) % 64) 0

/-- The encoding of a string, with `=` for the digits a last incomplete group lacks. -/
def encode : ByteString → ByteString
  | [] => []
  | [a] =>
    let n := a.toNat <<< 16
    [letter n 18, letter n 12, 61, 61]
  | [a, b] =>
    let n := a.toNat <<< 16 ||| b.toNat <<< 8
    [letter n 18, letter n 12, letter n 6, 61]
  | a :: b :: c :: s =>
    let n := a.toNat <<< 16 ||| b.toNat <<< 8 ||| c.toNat
    letter n 18 :: letter n 12 :: letter n 6 :: letter n 0 :: encode s

/-- The padding and the characters of the other alphabet are not in this one. -/
theorem not_mem_alphabet : 0 ∉ alphabet ∧ 45 ∉ alphabet ∧ 61 ∉ alphabet ∧ 95 ∉ alphabet := by
  decide +kernel

/-- The alphabet is its own table. -/
theorem digit?_getD : ∀ i < 64, digit? (alphabet.getD i 0) = some i := by
  decide +kernel

theorem digit?_lt {c : UInt8} {d : ℕ} (h : digit? c = some d) : d < 64 := by
  obtain ⟨hlt, -⟩ := List.idxOf?_eq_some_iff.mp h
  exact hlt

theorem isSome_digit? {c : UInt8} (h : c ∈ alphabet) : (digit? c).isSome := by
  rwa [digit?, List.isSome_idxOf?]

theorem letter_mem_alphabet (n shift : ℕ) : letter n shift ∈ alphabet := by
  have hlt : (n >>> shift) % 64 < alphabet.length := Nat.mod_lt _ (by decide)
  rw [letter, List.getD_eq_getElem?_getD, List.getElem?_eq_getElem hlt]
  exact List.getElem_mem hlt

/-- An encoding consists of letters, and of as many `=` as make its length a multiple of four. -/
theorem exists_encode_eq (s : ByteString) : ∃ core k, encode s = core ++ List.replicate k 61 ∧
    (∀ c ∈ core, c ∈ alphabet) ∧ (core.length + k) % 4 = 0 ∧ k < 4 := by
  induction s using encode.induct with
  | case1 => exact ⟨[], 0, rfl, fun _ hc ↦ absurd hc List.not_mem_nil, rfl, by decide⟩
  | case2 a =>
    refine ⟨[letter (a.toNat <<< 16) 18, letter (a.toNat <<< 16) 12], 2, rfl,
      ?_, by simp, by decide⟩
    simp only [List.forall_mem_cons, letter_mem_alphabet, true_and]
    exact fun _ hc ↦ absurd hc List.not_mem_nil
  | case3 a b =>
    refine ⟨[letter (a.toNat <<< 16 ||| b.toNat <<< 8) 18,
      letter (a.toNat <<< 16 ||| b.toNat <<< 8) 12,
      letter (a.toNat <<< 16 ||| b.toNat <<< 8) 6], 1, rfl, ?_, by simp, by decide⟩
    simp only [List.forall_mem_cons, letter_mem_alphabet, true_and]
    exact fun _ hc ↦ absurd hc List.not_mem_nil
  | case4 a b c s ih =>
    obtain ⟨core, k, hencode, hcore, hlength, hk⟩ := ih
    set n := a.toNat <<< 16 ||| b.toNat <<< 8 ||| c.toNat with hn
    refine ⟨letter n 18 :: letter n 12 :: letter n 6 :: letter n 0 :: core, k, ?_, ?_, ?_, hk⟩
    · rw [encode, hencode, ← hn]
      rfl
    · simp only [List.forall_mem_cons, letter_mem_alphabet, true_and]
      exact hcore
    · simp only [List.length_cons]
      omega

/-- An encoding without its padding. -/
def unpadded (s : ByteString) : ByteString := (encode s).rdropWhile (· == 61)

theorem unpadded_spec (s : ByteString) : (∀ c ∈ unpadded s, c ∈ alphabet) ∧
    ∃ k, encode s = unpadded s ++ List.replicate k 61 ∧ ((unpadded s).length + k) % 4 = 0 ∧
      k < 4 := by
  obtain ⟨core, k, hencode, hcore, hlength, hk⟩ := exists_encode_eq s
  have hequals : (61 : UInt8) ∉ core := fun h ↦ not_mem_alphabet.2.2.1 (hcore 61 h)
  have hunpadded : unpadded s = core := by
    rw [unpadded, hencode, rdropWhile_append_replicate (rdropWhile_of_not_mem hequals)]
  rw [hunpadded]
  exact ⟨hcore, k, hencode, hlength, hk⟩

/-- `int val = 0, valb = -8;`. -/
structure Bits where
  val : BitVec 32 := 0
  valb : Int := -8
  deriving DecidableEq, Repr

/-- `val = (val << 6) + digit; valb += 6;`. -/
def Bits.shiftIn (b : Bits) (digit : ℕ) : Bits :=
  ⟨b.val <<< 6 + BitVec.ofNat 32 digit, b.valb + 6⟩

/-- `(val >> valb) & 0xFF`. -/
def Bits.byte (b : Bits) : UInt8 := UInt8.ofBitVec ((b.val.sshiftRight b.valb.toNat).setWidth 8)

/-- The decoding loop. -/
def decodeDigits : Bits → List ℕ → ByteString
  | _, [] => []
  | b, d :: ds =>
    let b := b.shiftIn d
    if 0 ≤ b.valb then b.byte :: decodeDigits { b with valb := b.valb - 8 } ds
    else decodeDigits b ds

/-! ## Decoding an encoding -/

/-- Below the top of the accumulator a byte is eight bits of it. -/
theorem toNat_byte {val : BitVec 32} {k : ℕ} (hle : k ≤ 24) :
    (Bits.byte ⟨val, k⟩).toNat = val.toNat / 2 ^ k % 256 := by
  have hbyte : (val.sshiftRight k).setWidth 8 = val.extractLsb' k 8 := by
    apply BitVec.eq_of_getLsbD_eq
    intro i hi
    have hlt : k + i < 32 := by omega
    simp only [BitVec.getLsbD_setWidth, BitVec.getLsbD_sshiftRight, BitVec.getLsbD_extractLsb', hi,
      hlt, decide_true, Bool.true_and, if_true]
    simp
    omega
  rw [Bits.byte, Int.toNat_natCast, hbyte, UInt8.toNat_ofBitVec, BitVec.extractLsb'_toNat,
    Nat.shiftRight_eq_div_pow]

theorem toNat_shifted (val : BitVec 32) (d : ℕ) :
    (val <<< 6 + BitVec.ofNat 32 d).toNat = (val.toNat * 64 + d) % 4294967296 := by
  rw [BitVec.toNat_add, BitVec.toNat_shiftLeft, Nat.shiftLeft_eq, BitVec.toNat_ofNat]
  omega

/-- The first digit of a group is only shifted in. -/
theorem decodeDigits_enter (val : BitVec 32) {d : ℕ} (hd : d < 64) (ds : List ℕ) :
    ∃ val', val'.toNat % 64 = d ∧ decodeDigits ⟨val, -8⟩ (d :: ds) =
      decodeDigits ⟨val', -2⟩ ds := by
  refine ⟨val <<< 6 + BitVec.ofNat 32 d, ?_, rfl⟩
  rw [toNat_shifted]
  omega

/-- Any other digit completes a byte with the digit before it. -/
theorem decodeDigits_emit {val : BitVec 32} {d k : ℕ} (next : ℕ) (hval : val.toNat % 64 = d)
    (hnext : next < 64) (hk : k = 4 ∨ k = 2 ∨ k = 0) (ds : List ℕ) : ∃ val',
    val'.toNat % 64 = next ∧ decodeDigits ⟨val, k - 6⟩ (next :: ds) =
      UInt8.ofNat ((d * 64 + next) / 2 ^ k % 256) :: decodeDigits ⟨val', k - 8⟩ ds := by
  have hbyte : Bits.byte ⟨val <<< 6 + BitVec.ofNat 32 next, k⟩ =
      UInt8.ofNat ((d * 64 + next) / 2 ^ k % 256) := by
    rw [← UInt8.toNat_inj, toNat_byte (by omega), toNat_shifted, UInt8.toNat_ofNat']
    rcases hk with rfl | rfl | rfl <;> omega
  refine ⟨val <<< 6 + BitVec.ofNat 32 next, ?_, ?_⟩
  · rw [toNat_shifted]
    omega
  · rw [decodeDigits, Bits.shiftIn, Int.sub_add_cancel]
    exact (if_pos (Int.natCast_nonneg k)).trans (congrArg (· :: _) hbyte)

/-- The digits that the letters of an encoding stand for. -/
def digits : ByteString → List ℕ
  | [] => []
  | [a] => [a.toNat / 4, a.toNat % 4 * 16]
  | [a, b] => [a.toNat / 4, a.toNat % 4 * 16 + b.toNat / 16, b.toNat % 16 * 4]
  | a :: b :: c :: s => a.toNat / 4 :: (a.toNat % 4 * 16 + b.toNat / 16) ::
      (b.toNat % 16 * 4 + c.toNat / 64) :: c.toNat % 64 :: digits s

/-- What is left in the accumulator of the next byte is zero. -/
def Bits.RestZero (b : Bits) : Prop :=
  ∃ k : ℕ, (k = 0 ∨ k = 2 ∨ k = 4 ∨ k = 6) ∧ b.valb = k - 8 ∧ b.val.toNat % 2 ^ k = 0

/-- **The digits decode to the bytes**, whatever has been shifted in before, and leave only zeros
to what comes behind. -/
theorem decodeDigits_digits_append (s : ByteString) (val : BitVec 32) (ds : List ℕ) :
    ∃ b : Bits, b.RestZero ∧ decodeDigits ⟨val, -8⟩ (digits s ++ ds) = s ++ decodeDigits b ds := by
  have hofNat : ∀ {a : UInt8} {n : ℕ}, n = a.toNat → UInt8.ofNat n = a := by
    rintro a n rfl
    exact UInt8.ofNat_toNat
  induction s using digits.induct generalizing val with
  | case1 => exact ⟨⟨val, -8⟩, ⟨0, .inl rfl, rfl, Nat.mod_one _⟩, rfl⟩
  | case2 a =>
    have ha := a.toNat_lt
    obtain ⟨val₀, h₀, heq₀⟩ := decodeDigits_enter val (d := a.toNat / 4) (by omega) _
    obtain ⟨val₁, h₁, heq₁⟩ := decodeDigits_emit (a.toNat % 4 * 16) h₀ (by omega) (.inl rfl) ds
    refine ⟨⟨val₁, -4⟩, ⟨4, .inr (.inr (.inl rfl)), rfl, ?_⟩, ?_⟩
    · dsimp only
      omega
    · refine (heq₀.trans heq₁).trans ?_
      rw [hofNat (a := a) (by omega)]
      rfl
  | case3 a b =>
    have ha := a.toNat_lt
    have hb := b.toNat_lt
    obtain ⟨val₀, h₀, heq₀⟩ := decodeDigits_enter val (d := a.toNat / 4) (by omega) _
    obtain ⟨val₁, h₁, heq₁⟩ := decodeDigits_emit (a.toNat % 4 * 16 + b.toNat / 16) h₀ (by omega)
      (.inl rfl) (b.toNat % 16 * 4 :: ds)
    obtain ⟨val₂, h₂, heq₂⟩ := decodeDigits_emit (b.toNat % 16 * 4) h₁ (by omega)
      (.inr (.inl rfl)) ds
    refine ⟨⟨val₂, -6⟩, ⟨2, .inr (.inl rfl), rfl, ?_⟩, ?_⟩
    · dsimp only
      omega
    · refine (heq₀.trans heq₁).trans ?_
      rw [hofNat (a := a) (by omega), List.cons_append, List.cons_inj_right]
      refine heq₂.trans ?_
      rw [hofNat (a := b) (by omega)]
      rfl
  | case4 a b c s ih =>
    have ha := a.toNat_lt
    have hb := b.toNat_lt
    have hc := c.toNat_lt
    obtain ⟨val₀, h₀, heq₀⟩ := decodeDigits_enter val (d := a.toNat / 4) (by omega) _
    obtain ⟨val₁, h₁, heq₁⟩ := decodeDigits_emit (a.toNat % 4 * 16 + b.toNat / 16) h₀ (by omega)
      (.inl rfl) ((b.toNat % 16 * 4 + c.toNat / 64) :: c.toNat % 64 :: (digits s ++ ds))
    obtain ⟨val₂, h₂, heq₂⟩ := decodeDigits_emit (b.toNat % 16 * 4 + c.toNat / 64) h₁ (by omega)
      (.inr (.inl rfl)) (c.toNat % 64 :: (digits s ++ ds))
    obtain ⟨val₃, -, heq₃⟩ := decodeDigits_emit (c.toNat % 64) h₂ (by omega)
      (.inr (.inr rfl)) (digits s ++ ds)
    obtain ⟨rest, hrest, heq⟩ := ih val₃
    refine ⟨rest, hrest, (heq₀.trans heq₁).trans ?_⟩
    rw [hofNat (a := a) (by omega), List.cons_append, List.cons_inj_right]
    refine heq₂.trans ?_
    rw [hofNat (a := b) (by omega), List.cons_append, List.cons_inj_right]
    refine heq₃.trans ?_
    rw [hofNat (a := c) (by omega), List.cons_append, List.cons_inj_right]
    exact heq

theorem decodeDigits_digits (s : ByteString) (val : BitVec 32) :
    decodeDigits ⟨val, -8⟩ (digits s) = s := by
  obtain ⟨b, -, heq⟩ := decodeDigits_digits_append s val []
  rwa [List.append_nil, decodeDigits, List.append_nil] at heq

theorem Bits.RestZero.exists_step {b : Bits} (h : b.RestZero) (ds : List ℕ) :
    ∃ b' : Bits, b'.RestZero ∧ (decodeDigits b (0 :: ds) = decodeDigits b' ds ∨
      decodeDigits b (0 :: ds) = 0 :: decodeDigits b' ds) := by
  obtain ⟨val, valb⟩ := b
  obtain ⟨k, hk, hvalb, hval⟩ := h
  dsimp only at hvalb hval
  subst hvalb
  have hshift := toNat_shifted val 0
  rcases hk with rfl | hk
  · refine ⟨⟨val <<< 6 + BitVec.ofNat 32 0, -2⟩, ⟨6, by decide, rfl, ?_⟩, .inl rfl⟩
    dsimp only
    omega
  · obtain ⟨j, rfl⟩ : ∃ j, k = j + 2 := ⟨k - 2, by omega⟩
    have hj : j = 0 ∨ j = 2 ∨ j = 4 := by omega
    have hbyte : Bits.byte ⟨val <<< 6 + BitVec.ofNat 32 0, j⟩ = 0 := by
      rw [← UInt8.toNat_inj, toNat_byte (by omega), hshift, UInt8.toNat_zero]
      rcases hj with rfl | rfl | rfl <;> omega
    have hnext : ((j + 2 : ℕ) : Int) - 8 + 6 = j := by omega
    refine ⟨⟨val <<< 6 + BitVec.ofNat 32 0, j - 8⟩, ⟨j, by omega, rfl, ?_⟩, .inr ?_⟩
    · dsimp only
      rcases hj with rfl | rfl | rfl <;> omega
    · rw [decodeDigits, Bits.shiftIn, hnext]
      exact (if_pos (Int.natCast_nonneg j)).trans (congrArg (· :: _) hbyte)

/-- Zeros behind it decode to zeros. -/
theorem Bits.RestZero.decodeDigits_replicate {b : Bits} (h : b.RestZero) (m : ℕ) :
    ∃ n, decodeDigits b (List.replicate m 0) = List.replicate n 0 := by
  induction m generalizing b with
  | zero => exact ⟨0, rfl⟩
  | succ m ih =>
    obtain ⟨b', hb', heq | heq⟩ := h.exists_step (List.replicate m 0)
    · obtain ⟨n, hn⟩ := ih hb'
      exact ⟨n, heq.trans hn⟩
    · obtain ⟨n, hn⟩ := ih hb'
      refine ⟨n + 1, heq.trans ?_⟩
      rw [hn, List.replicate_succ]

/-- A table that knows the letters reads the digits out of an encoding, and skips the padding. -/
theorem filterMap_encode {table : UInt8 → Option ℕ}
    (htable : ∀ i < 64, table (alphabet.getD i 0) = some i) (hpad : table 61 = none)
    (s : ByteString) : (encode s).filterMap table = digits s := by
  have hletter : ∀ n shift, table (letter n shift) = some (n / 2 ^ shift % 64) := by
    intro n shift
    rw [letter, Nat.shiftRight_eq_div_pow]
    exact htable _ (Nat.mod_lt _ (by decide))
  have hor : ∀ a b : UInt8, a.toNat <<< 16 ||| b.toNat <<< 8 = a.toNat * 65536 + b.toNat * 256 := by
    intro a b
    have hb := b.toNat_lt
    rw [← Nat.shiftLeft_add_eq_or_of_lt (by rw [Nat.shiftLeft_eq]; omega), Nat.shiftLeft_eq,
      Nat.shiftLeft_eq]
  induction s using encode.induct with
  | case1 => rfl
  | case2 a =>
    have ha := a.toNat_lt
    simp only [encode, digits, List.filterMap_cons, hletter, hpad, List.filterMap_nil,
      Nat.shiftLeft_eq, List.cons.injEq, and_true]
    omega
  | case3 a b =>
    have ha := a.toNat_lt
    have hb := b.toNat_lt
    simp only [encode, digits, List.filterMap_cons, hletter, hpad, List.filterMap_nil, hor,
      List.cons.injEq, and_true]
    omega
  | case4 a b c s ih =>
    have ha := a.toNat_lt
    have hb := b.toNat_lt
    have hc := c.toNat_lt
    have hor' : a.toNat <<< 16 ||| b.toNat <<< 8 ||| c.toNat =
        a.toNat * 65536 + b.toNat * 256 + c.toNat := by
      have h256 : a.toNat * 65536 + b.toNat * 256 = (a.toNat * 256 + b.toNat) <<< 8 := by
        rw [Nat.shiftLeft_eq]
        omega
      rw [hor, h256, ← Nat.shiftLeft_add_eq_or_of_lt hc]
    simp only [encode, digits, List.filterMap_cons, hletter, ih, hor', List.cons.injEq, and_true]
    omega

/-- So it does without the padding. -/
theorem filterMap_unpadded {table : UInt8 → Option ℕ}
    (htable : ∀ i < 64, table (alphabet.getD i 0) = some i) (hpad : table 61 = none)
    (s : ByteString) : (unpadded s).filterMap table = digits s := by
  obtain ⟨-, k, hencode, -⟩ := unpadded_spec s
  have hskip : (List.replicate k 61).filterMap table = [] := by
    rw [List.filterMap_eq_nil_iff]
    intro c hc
    rw [List.eq_of_mem_replicate hc, hpad]
  rw [← filterMap_encode htable hpad s, hencode, List.filterMap_append, hskip, List.append_nil]

/-- A decoder that takes the padding for zeros has up to two bytes too many. -/
theorem exists_decodeDigits_encode (s : ByteString) :
    ∃ n, decodeDigits {} ((encode s).map fun c ↦ (digit? c).getD 0) = s ++ List.replicate n 0 := by
  have hpad : digit? 61 = none := by decide +kernel
  obtain ⟨hletters, k, hencode, -⟩ := unpadded_spec s
  have hmap : (unpadded s).filterMap digit? = (unpadded s).map fun c ↦ (digit? c).getD 0 := by
    rw [List.filterMap_eq_map_iff_forall_eq_some]
    intro c hc
    obtain ⟨d, hd⟩ := Option.isSome_iff_exists.mp (isSome_digit? (hletters c hc))
    rw [hd, Option.getD_some]
  obtain ⟨b, hb, heq⟩ := decodeDigits_digits_append s 0 (List.replicate k 0)
  obtain ⟨n, hn⟩ := hb.decodeDigits_replicate k
  refine ⟨n, ?_⟩
  rw [hencode, List.map_append, ← hmap, filterMap_unpadded digit?_getD hpad, List.map_replicate,
    hpad, Option.getD_none, ← hn, ← heq]

/-- Three bytes make four digits, and those four digits make the three bytes again. -/
example : decodeDigits {} ((encode [77, 97, 110]).filterMap digit?) = [77, 97, 110] := by decide

end Base64

end Foundation
