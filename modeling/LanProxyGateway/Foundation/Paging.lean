import LanProxyGateway.Foundation.CInt
import Mathlib.Algebra.Order.Group.Nat
import Mathlib.Data.List.Basic

/-!
# Paging through a list with `int`s

A pager takes a page number, from one on, and a page size, and computes where the page starts and
ends. In exact numbers page `k + 1` is `page s k l`. With `int`s the end of the last page has to be
one. `IsPager` collects what pagers that differ elsewhere have in common, and
`IsPager.concatPages_eq_some_iff` says when the pages make up the list.
-/

namespace Foundation

namespace Paging

variable {α : Type} {l : List α}

/-- Page `k`, counted from zero, of pages of size `s`. -/
def page (s k : ℕ) (l : List α) : List α := (l.drop (k * s)).take s

/-- How many pages have an entry. -/
def pageCount (n s : ℕ) : ℕ := (n + s - 1) / s

theorem le_pageCount_mul (n : ℕ) {s : ℕ} (hs : 1 ≤ s) : n ≤ pageCount n s * s := by
  have := Nat.div_add_mod (n + s - 1) s
  have := Nat.mod_lt (n + s - 1) hs
  rw [pageCount, Nat.mul_comm]
  omega

/-- The last page with an entry starts before the end. -/
theorem pred_pageCount_mul_lt {n s : ℕ} (hs : 1 ≤ s) (hpos : pageCount n s ≠ 0) :
    (pageCount n s - 1) * s < n := by
  have := Nat.div_mul_le_self (n + s - 1) s
  rw [← pageCount] at this
  rw [Nat.sub_one_mul]
  have : 1 * s ≤ pageCount n s * s := Nat.mul_le_mul_right s (Nat.one_le_iff_ne_zero.mpr hpos)
  omega

/-- The pages up to number `k`, one after the other; nothing if one of them is undefined. -/
def concatPages (paginate : CInt → CInt → Option (List α)) (size : CInt) : ℕ → Option (List α)
  | 0 => some []
  | k + 1 => do
    let before ← concatPages paginate size k
    let number ← CInt.checked ((k + 1 : ℕ) : Int)
    let entries ← paginate number size
    some (before ++ entries)

/-- A pager whose pages are no longer than they should be, that has entries on a page only if its
end is an `int`, and then those that belong there. -/
structure IsPager (l : List α) (paginate : CInt → CInt → Option (List α)) : Prop where
  length_le : ∀ {number size entries}, paginate number size = some entries → 1 ≤ size.val →
    (entries.length : Int) ≤ size.val
  end_le : ∀ {number size entries}, paginate number size = some entries → entries ≠ [] →
    number.val * size.val ≤ 2147483647
  eq_page : ∀ {number size : CInt} {k s : ℕ}, number.val = (k + 1 : ℕ) → size.val = s → 1 ≤ s →
    (k + 1) * s ≤ 2147483647 → l.length ≤ 2147483647 → paginate number size = some (page s k l)

section IsPager

variable {paginate : CInt → CInt → Option (List α)} {size : CInt} {s : ℕ}

theorem IsPager.concatPages_eq (h : IsPager l paginate) (hsize : size.val = s) (hs : 1 ≤ s)
    (hlength : l.length ≤ 2147483647) {k : ℕ} (hk : k * s ≤ 2147483647) :
    concatPages paginate size k = some (l.take (k * s)) := by
  induction k with
  | zero => simp [concatPages]
  | succ k ih =>
    have hks : k * s ≤ (k + 1) * s := Nat.mul_le_mul_right s (Nat.le_succ k)
    have hnumber : (k + 1) * 1 ≤ (k + 1) * s := Nat.mul_le_mul_left _ hs
    obtain ⟨number, hval, hchecked⟩ := CInt.checked_of_fits (n := (k + 1 : ℕ))
      ⟨by omega, by omega⟩
    rw [concatPages, ih (hks.trans hk), hchecked]
    simp only [Option.bind_eq_bind, Option.bind_some, h.eq_page hval hsize hs hk hlength]
    rw [Nat.succ_mul, List.take_add, page]

theorem IsPager.length_concatPages_le (h : IsPager l paginate) (hsize : size.val = s) (hs : 1 ≤ s)
    {k : ℕ} {entries : List α} (hconcat : concatPages paginate size k = some entries) :
    entries.length ≤ k * s := by
  induction k generalizing entries with
  | zero =>
    cases hconcat
    simp
  | succ k ih =>
    simp only [concatPages, Option.bind_eq_bind, Option.bind_eq_some_iff] at hconcat
    obtain ⟨before, hbefore, number, -, last, hlast, heq⟩ := hconcat
    cases heq
    have := ih hbefore
    have := h.length_le hlast (by omega)
    rw [List.length_append, Nat.succ_mul]
    omega

/-- **The pages make up the list** exactly when the end of the last of them is an `int`. -/
theorem IsPager.concatPages_eq_some_iff (h : IsPager l paginate) (hsize : size.val = s)
    (hs : 1 ≤ s) : concatPages paginate size (pageCount l.length s) = some l ↔
      pageCount l.length s * s ≤ 2147483647 := by
  have hcover := le_pageCount_mul l.length hs
  constructor
  · intro hconcat
    rcases hcount : pageCount l.length s with _ | k
    · rw [Nat.zero_mul]
      exact Nat.zero_le _
    have hbefore_end := pred_pageCount_mul_lt hs (by omega : pageCount l.length s ≠ 0)
    rw [hcount] at hconcat hbefore_end
    rw [Nat.add_sub_cancel] at hbefore_end
    simp only [concatPages, Option.bind_eq_bind, Option.bind_eq_some_iff] at hconcat
    obtain ⟨before, hbefore, number, hnumber, last, hlast, heq⟩ := hconcat
    have hlength := congrArg List.length (Option.some.inj heq)
    have := h.length_concatPages_le hsize hs hbefore
    -- The pages before are too short, so that something is on the last one.
    have hne : last ≠ [] := by
      rintro rfl
      rw [List.append_nil] at hlength
      omega
    have := h.end_le hlast hne
    rw [CInt.checked_eq_some_iff.mp hnumber, hsize, ← Int.natCast_mul] at this
    exact Int.ofNat_le.mp this
  · intro hle
    rw [h.concatPages_eq hsize hs (hcover.trans hle) hle, List.take_of_length_le hcover]

end IsPager

end Paging

end Foundation
