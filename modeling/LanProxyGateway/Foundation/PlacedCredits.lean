import Mathlib.Algebra.Order.BigOperators.Group.Finset
import Mathlib.Algebra.Order.Ring.Int
import Mathlib.Tactic.Linarith
import Mathlib.Tactic.Ring

/-!
# Credits that belong to places

The weighted rotation in which a credit belongs to a place in the list of candidates, not to a
candidate. Lists of different lengths follow each other: places that a shorter list does not have
are given up, and places that are taken up again begin with nothing. Then the credits need not sum
to zero any more, but they stay within bounds that depend on the number `N` of places alone.

Write `2h` for the most that is paid in a turn. No set of places has more than `2h(N - 1)` together:
as long as the picked place pays less than it has, nobody gains, and when it pays more, all others
have less than that. And no set of `k` places owes more than `hk(2N - k)`, where the bound for all
places at once is the one that a turn cannot get below, and the difference to the bound for fewer of
them is just enough for the one place that pays.
-/

namespace Foundation

namespace PlacedCredits

open Finset

/-- The places from the `n`-th on are given up. -/
def keep (n : ℕ) (credit : ℕ → ℤ) : ℕ → ℤ := fun i ↦ if i < n then credit i else 0

/-- The first `n` places earn their weights. -/
def earn (n : ℕ) (weight credit : ℕ → ℤ) : ℕ → ℤ :=
  fun i ↦ if i < n then credit i + weight i else 0

/-- A place has been picked and pays for all. -/
def settle (n b : ℕ) (weight credit : ℕ → ℤ) : ℕ → ℤ :=
  Function.update (earn n weight credit) b
    (earn n weight credit b - ∑ i ∈ range n, weight i)

/-- The most that so many places can owe together. -/
def debt (N : ℕ) (h : ℤ) (k : ℕ) : ℤ := h * (k * (2 * N - k))

/-- The bounds on the first `N` places. -/
structure Within (N : ℕ) (h : ℤ) (credit : ℕ → ℤ) : Prop where
  lower : ∀ A ⊆ range N, -debt N h #A ≤ ∑ i ∈ A, credit i
  upper : ∀ A ⊆ range N, ∑ i ∈ A, credit i ≤ 2 * h * (N - 1)

variable {N n b k : ℕ} {h : ℤ} {weight credit : ℕ → ℤ} {A : Finset ℕ}

/-! ## Fewer places -/

theorem debt_mono {l : ℕ} (hh : 0 ≤ h) (hkl : k ≤ l) (hl : l ≤ N) : debt N h k ≤ debt N h l := by
  have hfirst : (0 : ℤ) ≤ l - k := by omega
  have hsecond : (0 : ℤ) ≤ 2 * N - k - l := by omega
  have hdiff : debt N h l - debt N h k = h * ((l - k) * (2 * N - k - l)) := by
    rw [debt, debt]
    ring
  have hnonneg : 0 ≤ h * ((l - k) * (2 * (N : ℤ) - k - l)) :=
    mul_nonneg hh (mul_nonneg hfirst hsecond)
  linarith

theorem within_zero (hh : 0 ≤ h) (hN : 0 ≤ h * (N - 1)) : Within N h 0 where
  lower A hA := by
    have hcard : #A ≤ N := (card_le_card hA).trans_eq (card_range N)
    have hzero : debt N h 0 = 0 := by rw [debt]; ring
    have hmono := debt_mono hh (Nat.zero_le #A) hcard
    simp only [Pi.zero_apply, sum_const_zero]
    omega
  upper A _ := by
    simp only [Pi.zero_apply, sum_const_zero]
    linarith

/-- Credits that are zero from the `n`-th place on are within the bounds if those before are. -/
theorem within_of_below (hh : 0 ≤ h) (hzero : ∀ i, n ≤ i → credit i = 0)
    (hlower : ∀ A ⊆ range N, A ⊆ range n → -debt N h #A ≤ ∑ i ∈ A, credit i)
    (hupper : ∀ A ⊆ range N, A ⊆ range n → ∑ i ∈ A, credit i ≤ 2 * h * (N - 1)) :
    Within N h credit := by
  have hsum : ∀ A : Finset ℕ, ∑ i ∈ A ∩ range n, credit i = ∑ i ∈ A, credit i := by
    intro A
    refine sum_subset inter_subset_left fun i hi hnot ↦ hzero i ?_
    by_contra hlt
    exact hnot (mem_inter.mpr ⟨hi, mem_range.mpr (by omega)⟩)
  constructor
  · intro A hA
    have hcard : #A ≤ N := (card_le_card hA).trans_eq (card_range N)
    have hinter : #(A ∩ range n) ≤ #A := card_le_card inter_subset_left
    have hfewer : debt N h #(A ∩ range n) ≤ debt N h #A := debt_mono hh hinter hcard
    rw [← hsum A]
    exact (neg_le_neg hfewer).trans
      (hlower _ (inter_subset_left.trans hA) inter_subset_right)
  · intro A hA
    rw [← hsum A]
    exact hupper _ (inter_subset_left.trans hA) inter_subset_right

theorem Within.keep (hc : Within N h credit) (hh : 0 ≤ h) (n : ℕ) :
    Within N h (keep n credit) := by
  have hsame : ∀ A ⊆ range n, ∑ i ∈ A, PlacedCredits.keep n credit i = ∑ i ∈ A, credit i :=
    fun A hA ↦ sum_congr rfl fun i hi ↦ if_pos (mem_range.mp (hA hi))
  refine within_of_below (n := n) hh (fun i hi ↦ if_neg (not_lt.mpr hi)) (fun A hA hn ↦ ?_)
    fun A hA hn ↦ ?_
  · rw [hsame A hn]
    exact hc.lower A hA
  · rw [hsame A hn]
    exact hc.upper A hA

/-! ## A turn -/

theorem settle_of_ne {i : ℕ} (hi : i ≠ b) :
    settle n b weight credit i = earn n weight credit i := Function.update_of_ne hi _ _

theorem settle_self : settle n b weight credit b =
    earn n weight credit b - ∑ i ∈ range n, weight i := Function.update_self ..

theorem sum_earn (hA : A ⊆ range n) : ∑ i ∈ A, earn n weight credit i =
    ∑ i ∈ A, credit i + ∑ i ∈ A, weight i := by
  rw [← sum_add_distrib]
  exact sum_congr rfl fun i hi ↦ if_pos (mem_range.mp (hA hi))

theorem sum_settle_of_not_mem (hb : b ∉ A) :
    ∑ i ∈ A, settle n b weight credit i = ∑ i ∈ A, earn n weight credit i :=
  sum_congr rfl fun _ hi ↦ settle_of_ne fun heq ↦ hb (heq ▸ hi)

theorem sum_settle_of_mem (hb : b ∈ A) : ∑ i ∈ A, settle n b weight credit i =
    ∑ i ∈ A, earn n weight credit i - ∑ i ∈ range n, weight i := by
  rw [← add_sum_erase A _ hb, ← add_sum_erase A (earn n weight credit) hb,
    sum_settle_of_not_mem (notMem_erase b A), settle_self]
  ring

/-- The picked place is one of the first `n`, and no other of them has more. -/
structure Picks (n b : ℕ) (weight credit : ℕ → ℤ) : Prop where
  lt : b < n
  best : ∀ i < n, earn n weight credit i ≤ earn n weight credit b

/-- What the turn asks of the weights. -/
structure Weights (n : ℕ) (h : ℤ) (weight : ℕ → ℤ) : Prop where
  nonneg : ∀ i < n, 0 ≤ weight i
  total : ∑ i ∈ range n, weight i ≤ 2 * h

theorem Weights.sum_nonneg (hw : Weights n h weight) (hA : A ⊆ range n) :
    0 ≤ ∑ i ∈ A, weight i :=
  Finset.sum_nonneg fun i hi ↦ hw.nonneg i (mem_range.mp (hA hi))

theorem Weights.sum_le (hw : Weights n h weight) (hA : A ⊆ range n) :
    ∑ i ∈ A, weight i ≤ ∑ i ∈ range n, weight i :=
  sum_le_sum_of_subset_of_nonneg hA fun i hi _ ↦ hw.nonneg i (mem_range.mp hi)

/-- No set of places gains more than the bound. -/
theorem Within.settle_upper (hc : Within N h credit) (hn : n ≤ N) (hw : Weights n h weight)
    (hb : Picks n b weight credit) (hA : A ⊆ range n) :
    ∑ i ∈ A, settle n b weight credit i ≤ 2 * h * (N - 1) := by
  have hN : range n ⊆ range N := range_subset_range.mpr hn
  -- a set with the picked place does not gain
  have hwith : ∀ B ⊆ range n, b ∈ B →
      ∑ i ∈ B, settle n b weight credit i ≤ 2 * h * (N - 1) := by
    intro B hB hmem
    rw [sum_settle_of_mem hmem, sum_earn hB]
    linarith [hc.upper B (hB.trans hN), hw.sum_le hB]
  by_cases hmem : b ∈ A
  · exact hwith A hA hmem
  rw [sum_settle_of_not_mem hmem]
  have hinsert : insert b A ⊆ range n := insert_subset (mem_range.mpr hb.lt) hA
  by_cases hrich : ∑ i ∈ range n, weight i ≤ earn n weight credit b
  · have htogether := hwith (insert b A) hinsert (mem_insert_self b A)
    rw [sum_settle_of_mem (mem_insert_self b A), sum_insert hmem] at htogether
    linarith
  · -- nobody has as much as is paid
    have hcard : #A + 1 ≤ N := by
      rw [← card_insert_of_notMem hmem]
      exact ((card_le_card hinsert).trans_eq (card_range n)).trans hn
    have heach : ∑ i ∈ A, earn n weight credit i ≤ #A • ∑ i ∈ range n, weight i := by
      refine sum_le_card_nsmul A _ _ fun i hi ↦ ?_
      exact (hb.best i (mem_range.mp (hA hi))).trans (not_le.mp hrich).le
    have htotal : 0 ≤ ∑ i ∈ range n, weight i := hw.sum_nonneg Subset.rfl
    rw [nsmul_eq_mul] at heach
    have hcast : (#A : ℤ) ≤ N - 1 := by omega
    calc ∑ i ∈ A, earn n weight credit i ≤ #A * ∑ i ∈ range n, weight i := heach
      _ ≤ (N - 1) * ∑ i ∈ range n, weight i := mul_le_mul_of_nonneg_right hcast htotal
      _ ≤ (N - 1) * (2 * h) := mul_le_mul_of_nonneg_left hw.total (by omega)
      _ = 2 * h * (N - 1) := by ring

/-- The bound for one more place has room for what the picked place pays, if that place has at least
the average of those that are not among the `k` others. -/
theorem debt_step {m : ℕ} {others whole best total : ℤ} (hh : 0 ≤ h) (hkm : k + 1 + m = n)
    (hothers : -debt N h k ≤ others) (hwhole : -debt N h n ≤ whole) (htotal : total ≤ 2 * h)
    (hbest : whole + total - others ≤ (m + 1) * best) :
    -debt N h (k + 1) ≤ others + (best - total) := by
  have hm : (0 : ℤ) ≤ m := Int.natCast_nonneg m
  have hroom : (m + 1) * debt N h (k + 1) - m * (debt N h k + 2 * h) - debt N h n =
      h * (m * (m - 1)) := by
    subst hkm
    rw [debt, debt, debt]
    push_cast
    ring
  have hpairs : (0 : ℤ) ≤ m * (m - 1) := by
    cases m with
    | zero => simp
    | succ m =>
      push_cast
      exact mul_nonneg (by omega) (by omega)
  have hnonneg : 0 ≤ h * (m * ((m : ℤ) - 1)) := mul_nonneg hh hpairs
  have hspent : m * (others - total) + whole ≤ (m + 1) * (others + (best - total)) := by
    have hsplit : (m + 1) * (others + (best - total)) =
        m * (others - total) + (others - total) + (m + 1) * best := by ring
    linarith
  have hleast : m * (-debt N h k - 2 * h) ≤ m * (others - total) :=
    mul_le_mul_of_nonneg_left (by linarith) hm
  have hall : 0 ≤ (m + 1) * (others + (best - total) + debt N h (k + 1)) := by
    have hsplit : (m + 1) * (others + (best - total) + debt N h (k + 1)) =
        (m + 1) * (others + (best - total)) + (m + 1) * debt N h (k + 1) := by ring
    have hpart : m * (-debt N h k - 2 * h) = -(m * (debt N h k + 2 * h)) := by ring
    linarith
  have hpos : (0 : ℤ) < m + 1 := by omega
  linarith [nonneg_of_mul_nonneg_right hall hpos]

/-- No set of places falls below the bound. -/
theorem Within.settle_lower (hc : Within N h credit) (hh : 0 ≤ h) (hn : n ≤ N)
    (hw : Weights n h weight) (hb : Picks n b weight credit) (hA : A ⊆ range n) :
    -debt N h #A ≤ ∑ i ∈ A, settle n b weight credit i := by
  have hN : range n ⊆ range N := range_subset_range.mpr hn
  -- those that do not pay have earned
  have hothers : ∀ B ⊆ range n, -debt N h #B ≤ ∑ i ∈ B, earn n weight credit i := by
    intro B hB
    rw [sum_earn hB]
    linarith [hc.lower B (hB.trans hN), hw.sum_nonneg hB]
  by_cases hmem : b ∈ A
  · have hpaid : ∑ i ∈ A, settle n b weight credit i = ∑ i ∈ A.erase b, earn n weight credit i +
        (earn n weight credit b - ∑ i ∈ range n, weight i) := by
      rw [← sum_erase_add A _ hmem, sum_settle_of_not_mem (notMem_erase b A), settle_self]
    rw [hpaid, ← card_erase_add_one hmem]
    have herase : A.erase b ⊆ range n := (erase_subset b A).trans hA
    have hrest : #(range n \ A.erase b) = n - #(A.erase b) := by
      rw [card_sdiff_of_subset herase, card_range]
    have hcard : #(A.erase b) + 1 ≤ n := by
      rw [card_erase_add_one hmem]
      exact (card_le_card hA).trans_eq (card_range n)
    have hsum : ∑ i ∈ range n \ A.erase b, earn n weight credit i +
        ∑ i ∈ A.erase b, earn n weight credit i =
        ∑ i ∈ range n, credit i + ∑ i ∈ range n, weight i := by
      rw [sum_sdiff herase, sum_earn Subset.rfl]
    have hbest : ∑ i ∈ range n \ A.erase b, earn n weight credit i ≤
        #(range n \ A.erase b) • earn n weight credit b :=
      sum_le_card_nsmul _ _ _ fun i hi ↦ hb.best i (mem_range.mp (sdiff_subset hi))
    rw [hrest, nsmul_eq_mul] at hbest
    have hwhole : -debt N h n ≤ ∑ i ∈ range n, credit i := by
      have hall := hc.lower _ hN
      rwa [card_range] at hall
    refine debt_step (m := n - #(A.erase b) - 1) hh (by omega) (hothers _ herase) hwhole
      hw.total ?_
    have hcast : ((n - #(A.erase b) - 1 : ℕ) : ℤ) + 1 = ((n - #(A.erase b) : ℕ) : ℤ) := by omega
    rw [hcast]
    linarith
  · rw [sum_settle_of_not_mem hmem]
    exact hothers A hA

/-- **A turn keeps the credits within the bounds**, with lists of any lengths up to `N`. -/
theorem Within.settle (hc : Within N h credit) (hh : 0 ≤ h) (hn : n ≤ N)
    (hw : Weights n h weight) (hb : Picks n b weight credit) :
    Within N h (settle n b weight credit) := by
  refine within_of_below (n := n) hh (fun i hi ↦ ?_) (fun A _ hA ↦ hc.settle_lower hh hn hw hb hA)
    fun A _ hA ↦ hc.settle_upper hn hw hb hA
  have hib : i ≠ b := by
    rintro rfl
    exact absurd hb.lt (by omega)
  rw [settle_of_ne hib]
  exact if_neg (by omega)

/-! ## One place -/

theorem Within.le {i : ℕ} (hc : Within N h credit) (hi : i < N) :
    credit i ≤ 2 * h * (N - 1) := by
  have hsum := hc.upper {i} (singleton_subset_iff.mpr (mem_range.mpr hi))
  rwa [sum_singleton] at hsum

theorem Within.ge {i : ℕ} (hc : Within N h credit) (hi : i < N) :
    -(h * (2 * N - 1)) ≤ credit i := by
  have hsum := hc.lower {i} (singleton_subset_iff.mpr (mem_range.mpr hi))
  rw [sum_singleton, card_singleton, debt, Nat.cast_one, one_mul] at hsum
  exact hsum

end PlacedCredits

end Foundation
