import LanProxyGateway.Foundation.Base64
import LanProxyGateway.Foundation.CInt

/-!
# The accumulator of a base64 decoder as an `int`

`Base64.decodeDigits` lets the accumulator wrap around. In C++ it is an `int`, and shifting it out
of its range is undefined. `decodeInt` is the loop with each operation checked; where it has a
result, `decodeDigits` has the same one (`decodeDigits_of_decodeInt`).

The accumulator is the number that all digits so far write to the base 64, since no bits are taken
off again. So it stays in range as long as that number does (`staysInRange_iff`): leading zeros
apart, for five digits, and for a sixth when the first of them is one. The bit counter is always
between -8 and -1 from one digit to the next, and below 8 where it is a shift.
-/

namespace Foundation

namespace Base64

/-- `int val = 0, valb = -8;`. -/
structure IntBits where
  val : CInt := .ofInt 0
  valb : CInt := .ofInt (-8)
  deriving DecidableEq

/-- The loop body for a digit: the byte it puts out, if any, and the variables after it. -/
def IntBits.step? (b : IntBits) (digit : ℕ) : Option (Option UInt8 × IntBits) := do
  let shifted ← b.val.shiftLeft? 6
  let val ← shifted.add? (.ofInt digit)
  let valb ← b.valb.add? (.ofInt 6)
  if 0 ≤ valb.val then
    let byte ← val.shiftRight? valb
    let rest ← valb.sub? (.ofInt 8)
    some (some (UInt8.ofInt byte.val), ⟨val, rest⟩)
  else some (none, ⟨val, valb⟩)

/-- The decoding loop: what it puts out and the variables at its end, or nothing where an operation
is undefined. -/
def decodeInt : IntBits → List ℕ → Option (ByteString × IntBits)
  | b, [] => some ([], b)
  | b, d :: ds => do
    let (out, b) ← b.step? d
    let (rest, b) ← decodeInt b ds
    some (out.toList ++ rest, b)

/-- The digits decode without an undefined operation, and at each of them the shifted accumulator
plus the digit is an `int` and a shift to the right is one by less than eight bits. -/
structure StaysInRange (ds : List ℕ) : Prop where
  defined : decodeInt {} ds ≠ none
  val : ∀ (pre : List ℕ) (d : ℕ) post, ds = pre ++ d :: post → ∀ out b,
    decodeInt {} pre = some (out, b) → b.val.val * 64 + d ≤ 2147483647
  valb : ∀ (pre : List ℕ) (d : ℕ) post, ds = pre ++ d :: post → ∀ out b,
    decodeInt {} pre = some (out, b) → 0 ≤ b.valb.val + 6 → b.valb.val + 6 < 8

/-- The number that digits write to the base 64, after those that wrote `v`. -/
def number (v : ℕ) (ds : List ℕ) : ℕ := ds.foldl (fun v d ↦ v * 64 + d) v

@[simp] theorem number_nil (v : ℕ) : number v [] = v := rfl

@[simp] theorem number_cons (v d : ℕ) (ds : List ℕ) :
    number v (d :: ds) = number (v * 64 + d) ds := rfl

theorem number_append (v : ℕ) (ds ds' : List ℕ) :
    number v (ds ++ ds') = number (number v ds) ds' := List.foldl_append

theorem le_number (v : ℕ) (ds : List ℕ) : v ≤ number v ds := by
  induction ds generalizing v with
  | nil => exact le_rfl
  | cons d ds ih =>
    rw [number_cons]
    have := ih (v * 64 + d)
    omega

/-! ## Running in range -/

/-- From one digit to the next the accumulator is the number so far, and the counter negative. -/
structure IntBits.Holds (b : IntBits) (v : ℕ) : Prop where
  val : b.val.val = v
  lo : -8 ≤ b.valb.val
  neg : b.valb.val < 0

theorem holds_start : IntBits.Holds {} 0 := ⟨by decide, by decide, by decide⟩

variable {b : IntBits} {v d : ℕ} {ds : List ℕ}

/-- In range a step is defined. -/
theorem IntBits.Holds.step (h : b.Holds v) (hrange : v * 64 + d ≤ 2147483647) :
    ∃ out b', b.step? d = some (out, b') ∧ b'.Holds (v * 64 + d) := by
  obtain ⟨hval, hlo, hneg⟩ := h
  have hdigit : (CInt.ofInt d).val = d := CInt.val_ofInt ⟨by omega, by omega⟩
  have h6 : (CInt.ofInt 6).val = 6 := CInt.val_ofInt (by decide)
  have h8 : (CInt.ofInt 8).val = 8 := CInt.val_ofInt (by decide)
  obtain ⟨shifted, hshifted, hshift⟩ :=
    CInt.exists_shiftLeft? (a := b.val) (k := 6) (by omega) (by omega)
  obtain ⟨val, hadded, hadd⟩ := CInt.exists_add? (a := shifted) (b := .ofInt d)
    ⟨by omega, by omega⟩
  obtain ⟨valb, hcounted, hcount⟩ := CInt.exists_add? (a := b.valb) (b := .ofInt 6)
    ⟨by omega, by omega⟩
  have hexact : val.val = (v * 64 + d : ℕ) := by omega
  simp only [IntBits.step?, hshift, hadd, hcount, Option.bind_eq_bind, Option.bind_some]
  split
  · obtain ⟨byte, hbyte⟩ := CInt.exists_shiftRight? (a := val) (b := valb) (by omega) (by omega)
    obtain ⟨rest, hrest, hsub⟩ := CInt.exists_sub? (a := valb) (b := .ofInt 8) ⟨by omega, by omega⟩
    have hlo' : -8 ≤ rest.val := by omega
    have hneg' : rest.val < 0 := by omega
    simp only [hbyte, hsub, Option.bind_some]
    exact ⟨_, _, rfl, hexact, hlo', hneg'⟩
  · have hlo' : -8 ≤ valb.val := by omega
    have hneg' : valb.val < 0 := by omega
    exact ⟨_, _, rfl, hexact, hlo', hneg'⟩

/-- So is the loop, as long as the number stays in range. -/
theorem IntBits.Holds.decodeInt (h : b.Holds v) (hrange : number v ds ≤ 2147483647) :
    ∃ out b', decodeInt b ds = some (out, b') ∧ b'.Holds (number v ds) := by
  induction ds generalizing b v with
  | nil => exact ⟨[], b, rfl, h⟩
  | cons d ds ih =>
    rw [number_cons] at hrange
    obtain ⟨out, b₁, hstep, h₁⟩ := h.step ((le_number _ ds).trans hrange)
    obtain ⟨rest, b₂, hrest, h₂⟩ := ih h₁ hrange
    refine ⟨out.toList ++ rest, b₂, ?_, h₂⟩
    simp only [Base64.decodeInt, hstep, hrest, Option.bind_eq_bind, Option.bind_some]

/-- **The accumulator stays in range** exactly when the number that the digits write does. -/
theorem staysInRange_iff_number (ds : List ℕ) : StaysInRange ds ↔ number 0 ds ≤ 2147483647 := by
  constructor
  · rintro ⟨-, hval, -⟩
    induction ds using List.reverseRecOn with
    | nil => decide
    | append_singleton ds d ih =>
      have hbefore : number 0 ds ≤ 2147483647 := ih fun pre d' post hds ↦
        hval pre d' (post ++ [d]) (by rw [hds, List.append_assoc, List.cons_append])
      obtain ⟨out, b, hrun, hholds⟩ := holds_start.decodeInt hbefore
      have hlast := hval ds d [] rfl out b hrun
      rw [hholds.val] at hlast
      rw [number_append, number_cons, number_nil]
      omega
  · intro hrange
    have hholds : ∀ (pre : List ℕ) (d : ℕ) post, ds = pre ++ d :: post → ∀ out b,
        Base64.decodeInt {} pre = some (out, b) → b.Holds (number 0 pre) := by
      rintro pre d post rfl out b hrun
      rw [number_append] at hrange
      obtain ⟨out', b', hrun', h⟩ := holds_start.decodeInt ((le_number _ _).trans hrange)
      rw [hrun] at hrun'
      obtain ⟨-, rfl⟩ := Prod.mk.inj (Option.some.inj hrun')
      exact h
    refine ⟨?_, ?_, ?_⟩
    · obtain ⟨out, b, hrun, -⟩ := holds_start.decodeInt hrange
      rw [hrun]
      exact Option.some_ne_none _
    · intro pre d post hds out b hrun
      rw [(hholds pre d post hds out b hrun).val]
      rw [hds, number_append, number_cons] at hrange
      have := (le_number (number 0 pre * 64 + d) post).trans hrange
      omega
    · intro pre d post hds out b hrun _
      have := (hholds pre d post hds out b hrun).neg
      omega

/-! ## How many digits that are -/

/-- The digits without the zeros they begin with. -/
def significant (ds : List ℕ) : List ℕ := ds.dropWhile (· = 0)

/-- Leading zeros do not count. -/
theorem number_significant (ds : List ℕ) : number 0 (significant ds) = number 0 ds := by
  induction ds with
  | nil => rfl
  | cons d ds ih =>
    rw [significant, List.dropWhile_cons]
    split
    · rename_i hd
      rw [← significant, ih, number_cons, of_decide_eq_true hd]
    · rfl

theorem mem_of_mem_significant (h : d ∈ significant ds) : d ∈ ds :=
  (List.dropWhile_suffix _).subset h

theorem ne_zero_of_significant {rest : List ℕ} (h : significant ds = d :: rest) : d ≠ 0 := by
  rintro rfl
  have hhead := List.head?_dropWhile_not (· = 0) ds
  rw [← significant, h] at hhead
  cases hhead

/-- A number lies between multiples of a power of the base. -/
theorem number_bounds (hds : ∀ d ∈ ds, d < 64) (v : ℕ) :
    v * 64 ^ ds.length ≤ number v ds ∧ number v ds < (v + 1) * 64 ^ ds.length := by
  induction ds generalizing v with
  | nil => exact ⟨by simp, by simp⟩
  | cons d ds ih =>
    obtain ⟨hd, hds⟩ := List.forall_mem_cons.mp hds
    obtain ⟨hlo, hhi⟩ := ih hds (v * 64 + d)
    rw [number_cons, List.length_cons, pow_succ', ← Nat.mul_assoc, ← Nat.mul_assoc]
    constructor
    · exact (Nat.mul_le_mul_right _ (by omega)).trans hlo
    · exact hhi.trans_le (Nat.mul_le_mul_right _ (by omega))

/-- Five digits after the leading zeros, or six of which the first is one. -/
def Short (ds : List ℕ) : Prop := (significant ds).length ≤ 5 ∨
  (significant ds).length = 6 ∧ (significant ds).head? = some 1

theorem number_le_iff (hds : ∀ d ∈ ds, d < 64) : number 0 ds ≤ 2147483647 ↔ Short ds := by
  have hlt : ∀ d ∈ significant ds, d < 64 := fun d hd ↦ hds d (mem_of_mem_significant hd)
  rw [← number_significant, Short]
  rcases hsignificant : significant ds with _ | ⟨d, rest⟩
  · exact ⟨fun _ ↦ .inl (by decide), fun _ ↦ by decide⟩
  have hd := ne_zero_of_significant hsignificant
  rw [hsignificant] at hlt
  obtain ⟨hd64, hrest⟩ := List.forall_mem_cons.mp hlt
  obtain ⟨hlo, hhi⟩ := number_bounds hrest d
  rw [number_cons, Nat.zero_mul, Nat.zero_add, List.length_cons, List.head?_cons, Option.some_inj]
  rcases Nat.lt_trichotomy rest.length 5 with hlen | hlen | hlen
  · have hpow : 64 ^ rest.length ≤ 64 ^ 4 := Nat.pow_le_pow_right (by decide) (by omega)
    have : (d + 1) * 64 ^ rest.length ≤ 64 * 64 ^ 4 := Nat.mul_le_mul (by omega) hpow
    exact ⟨fun _ ↦ .inl hlen, fun _ ↦ by omega⟩
  · rw [hlen] at hlo hhi
    omega
  · have hpow : 64 ^ 6 ≤ 64 ^ rest.length := Nat.pow_le_pow_right (by decide) hlen
    have : 1 * 64 ^ 6 ≤ d * 64 ^ rest.length := Nat.mul_le_mul (by omega) hpow
    omega

/-- **The accumulator stays in range** for five digits, and for a sixth after a one. -/
theorem staysInRange_iff (hds : ∀ d ∈ ds, d < 64) : StaysInRange ds ↔ Short ds :=
  (staysInRange_iff_number ds).trans (number_le_iff hds)

/-- The digits of four bytes, of which the first has one of its upper five bits, are too many. -/
theorem not_short_digits {a b c e : UInt8} (s : ByteString) (ha : 8 ≤ a.toNat) :
    ¬Short (digits (a :: b :: c :: e :: s)) := by
  have htail : 2 ≤ (digits (e :: s)).length := by
    rcases s with _ | ⟨f, _ | ⟨g, s⟩⟩
    · exact le_rfl
    · exact Nat.le_succ 2
    · exact Nat.le_add_left 2 _
  have hne : ¬a.toNat / 4 = 0 := by omega
  have hsignificant : significant (digits (a :: b :: c :: e :: s)) =
      digits (a :: b :: c :: e :: s) := by
    rw [digits, significant, List.dropWhile_cons_of_neg (by simpa using hne)]
  rw [Short, hsignificant, digits]
  simp only [List.length_cons, List.head?_cons, Option.some.injEq]
  omega

/-! ## Against the loop that wraps around -/

/-- The variables as `decodeDigits` has them. -/
def IntBits.toBits (b : IntBits) : Bits := ⟨BitVec.ofInt 32 b.val.val, b.valb.val⟩

theorem ofInt_ofInt (n : Int) : BitVec.ofInt 32 (CInt.ofInt n).val = BitVec.ofInt 32 n := by
  apply BitVec.eq_of_toInt_eq
  rw [BitVec.toInt_ofInt, BitVec.toInt_ofInt]
  exact Int.bmod_bmod

theorem ofInt_shiftIn (n : Int) (d : ℕ) :
    BitVec.ofInt 32 (n * 2 ^ 6 + d) = BitVec.ofInt 32 n <<< 6 + BitVec.ofNat 32 d := by
  have hpow : BitVec.ofInt 32 (2 ^ 6) = BitVec.twoPow 32 6 := by decide
  rw [BitVec.ofInt_add, BitVec.ofInt_mul, hpow, BitVec.shiftLeft_eq_mul_twoPow,
    BitVec.ofInt_natCast]

theorem uint8_ofInt (n : Int) :
    UInt8.ofInt n = UInt8.ofBitVec ((BitVec.ofInt 32 n).setWidth 8) := by
  rw [← UInt8.toNat_inj, UInt8.ofInt, UInt8.toNat_ofNat', UInt8.toNat_ofBitVec,
    BitVec.toNat_setWidth, BitVec.toNat_ofInt]
  omega

theorem byte_of_shiftRight? {a k byte : CInt} (h : a.shiftRight? k = some byte) :
    UInt8.ofInt byte.val = Bits.byte ⟨BitVec.ofInt 32 a.val, k.val⟩ := by
  rw [CInt.shiftRight?] at h
  split at h
  · cases h
    have htoInt : (BitVec.ofInt 32 a.val).toInt = a.val := by
      rw [BitVec.toInt_ofInt]
      exact CInt.val_ofInt a.fits_val
    rw [uint8_ofInt, ofInt_ofInt, Bits.byte, BitVec.sshiftRight, htoInt]
  · cases h

/-- A step that is defined does what a step of the loop that wraps around does. -/
theorem decodeDigits_of_step? {out : Option UInt8} {b' : IntBits} (h : b.step? d = some (out, b')) :
    decodeDigits b.toBits (d :: ds) = out.toList ++ decodeDigits b'.toBits ds := by
  simp only [IntBits.step?, Option.bind_eq_bind, Option.bind_eq_some_iff] at h
  obtain ⟨shifted, hshift, val, hadd, valb, hcount, h⟩ := h
  have hshifted : BitVec.ofInt 32 shifted.val = BitVec.ofInt 32 (b.val.val * 2 ^ 6) := by
    rw [CInt.shiftLeft?] at hshift
    split at hshift
    · cases hshift
      exact ofInt_ofInt _
    · cases hshift
  have hval : BitVec.ofInt 32 val.val = b.toBits.val <<< 6 + BitVec.ofNat 32 d := by
    rw [CInt.checked_eq_some_iff.mp hadd, BitVec.ofInt_add, hshifted, ofInt_ofInt,
      ← BitVec.ofInt_add, ofInt_shiftIn]
    rfl
  have hvalb : valb.val = b.toBits.valb + 6 := by
    rw [CInt.checked_eq_some_iff.mp hcount, CInt.val_ofInt (by decide)]
    rfl
  have hshiftIn : b.toBits.shiftIn d = ⟨BitVec.ofInt 32 val.val, valb.val⟩ := by
    rw [Bits.shiftIn, hval, hvalb]
  simp only [decodeDigits, hshiftIn]
  split at h
  · rename_i hpos
    simp only [Option.bind_eq_some_iff] at h
    obtain ⟨byte, hbyte, rest, hsub, h⟩ := h
    cases h
    have hrest : rest.val = valb.val - 8 := by
      rw [CInt.checked_eq_some_iff.mp hsub, CInt.val_ofInt (by decide)]
    rw [if_pos hpos, Option.toList_some, byte_of_shiftRight? hbyte, IntBits.toBits, hrest]
    rfl
  · rename_i hneg
    cases h
    rw [if_neg hneg]
    rfl

/-- **Where the loop is defined, it decodes** as the loop that wraps around does. -/
theorem decodeDigits_of_decodeInt {out : ByteString} {b' : IntBits}
    (h : decodeInt b ds = some (out, b')) : decodeDigits b.toBits ds = out := by
  induction ds generalizing b out with
  | nil =>
    cases h
    rfl
  | cons d ds ih =>
    simp only [decodeInt, Option.bind_eq_bind, Option.bind_eq_some_iff] at h
    obtain ⟨⟨byte, b₁⟩, hstep, ⟨rest, b₂⟩, hrest, h⟩ := h
    cases h
    rw [decodeDigits_of_step? hstep, ih hrest]

end Base64

end Foundation
