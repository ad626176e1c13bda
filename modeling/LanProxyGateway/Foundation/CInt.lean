import Mathlib.Algebra.Group.Nat.Defs
import Mathlib.Algebra.Ring.Int.Defs
import Mathlib.Data.Option.Basic
import Mathlib.Tactic.Common

/-!
# Signed arithmetic that is undefined when it overflows

`int` of 32 bits. A conversion to it wraps around; an operation whose exact result is no `int` has
no result at all, which is `none`. So a program that is `some` has kept to the range at each of its
steps, and what it computes is what it would compute over the integers (`checked_eq_some_iff`).
-/

namespace Foundation

/-- A value of `int`. -/
@[ext]
structure CInt where
  val : Int
  lo : -2147483648 ≤ val
  hi : val ≤ 2147483647
  deriving DecidableEq

namespace CInt

/-- There is an `int` of this value. -/
def Fits (n : Int) : Prop := -2147483648 ≤ n ∧ n ≤ 2147483647

instance : DecidablePred Fits := fun n ↦
  inferInstanceAs (Decidable (-2147483648 ≤ n ∧ n ≤ 2147483647))

theorem fits_val (a : CInt) : Fits a.val := ⟨a.lo, a.hi⟩

theorem fits_bmod (n : Int) : Fits (n.bmod (2 ^ 32)) := by
  have hlo := Int.le_bmod (x := n) (m := 2 ^ 32) (by decide)
  have hhi := Int.bmod_lt (x := n) (m := 2 ^ 32) (by decide)
  constructor <;> omega

/-- `(int)n`. -/
def ofInt (n : Int) : CInt := ⟨n.bmod (2 ^ 32), (fits_bmod n).1, (fits_bmod n).2⟩

theorem val_ofInt {n : Int} (h : Fits n) : (ofInt n).val = n := by
  obtain ⟨hlo, hhi⟩ := h
  exact Int.bmod_eq_of_le (by omega) (by omega)

/-- A size cast to `int` does not grow. -/
theorem val_ofInt_natCast_le (n : ℕ) : (ofInt n).val ≤ n := by
  simp only [ofInt, Int.bmod]
  split <;> omega

/-- The result of an operation whose exact result is `n`. -/
def checked (n : Int) : Option CInt := if Fits n then some (ofInt n) else none

theorem checked_eq_some_iff {n : Int} {a : CInt} : checked n = some a ↔ a.val = n := by
  rw [checked]
  split
  · rename_i h
    rw [Option.some_inj, CInt.ext_iff, val_ofInt h, eq_comm]
  · rename_i h
    refine ⟨nofun, ?_⟩
    rintro rfl
    exact absurd a.fits_val h

theorem checked_of_fits {n : Int} (h : Fits n) : ∃ a : CInt, a.val = n ∧ checked n = some a :=
  ⟨ofInt n, val_ofInt h, if_pos h⟩

/-! ## Operations -/

/-- `a + b`. -/
def add? (a b : CInt) : Option CInt := checked (a.val + b.val)

/-- `a - b`. -/
def sub? (a b : CInt) : Option CInt := checked (a.val - b.val)

/-- `a * b`. -/
def mul? (a b : CInt) : Option CInt := checked (a.val * b.val)

/-- `a << k`: undefined for a negative number, and where the product is no `unsigned int`. -/
def shiftLeft? (a : CInt) (k : ℕ) : Option CInt :=
  if 0 ≤ a.val ∧ a.val * 2 ^ k ≤ 4294967295 then some (ofInt (a.val * 2 ^ k)) else none

/-- `a >> k`: undefined unless the number of bits is one of 0..31. -/
def shiftRight? (a k : CInt) : Option CInt :=
  if 0 ≤ k.val ∧ k.val < 32 then some (ofInt (a.val >>> k.val.toNat)) else none

variable {a b : CInt}

theorem exists_add? (h : Fits (a.val + b.val)) :
    ∃ c : CInt, c.val = a.val + b.val ∧ a.add? b = some c := checked_of_fits h

theorem exists_sub? (h : Fits (a.val - b.val)) :
    ∃ c : CInt, c.val = a.val - b.val ∧ a.sub? b = some c := checked_of_fits h

theorem exists_shiftLeft? {k : ℕ} (hlo : 0 ≤ a.val) (hhi : a.val * 2 ^ k ≤ 2147483647) :
    ∃ c : CInt, c.val = a.val * 2 ^ k ∧ a.shiftLeft? k = some c := by
  have hpos : 0 ≤ a.val * 2 ^ k := Int.mul_nonneg hlo (Int.le_of_lt (Int.pow_pos (by decide)))
  exact ⟨_, val_ofInt ⟨by omega, hhi⟩, if_pos ⟨hlo, by omega⟩⟩

theorem exists_shiftRight? (hlo : 0 ≤ b.val) (hhi : b.val < 32) : ∃ c, a.shiftRight? b = some c :=
  ⟨_, if_pos ⟨hlo, hhi⟩⟩

end CInt

end Foundation
