import LanProxyGateway.Foundation.Extremes
import Mathlib.Algebra.Order.BigOperators.Group.List
import Mathlib.Algebra.Order.Ring.Int
import Mathlib.Data.List.Nodup
import Mathlib.Data.Nat.Count
import Mathlib.Tactic.Linarith
import Mathlib.Tactic.Ring

/-!
# Smooth weighted rotation

Candidates with weights take turns. Each has a *credit*: with every turn it earns its weight, and
the candidate with the largest credit, the first of several, is picked and pays the sum of all
weights.

So the credits of the candidates always sum to zero, and none of them owes as much as it pays. After
as many turns as the weights sum to, every credit is a multiple of that sum and hence zero: each
candidate has been picked exactly as often as its weight says, and it begins anew (`after_total`,
`count_picks`).
-/

namespace Foundation

namespace SmoothRotation

variable {κ : Type} [DecidableEq κ] (keys : List κ) (weight : κ → ℤ)

/-- What the one that is picked pays. -/
def total : ℤ := (keys.map weight).sum

/-- Every candidate earns its weight. -/
def raise (credit : κ → ℤ) : κ → ℤ := fun k ↦ if k ∈ keys then credit k + weight k else credit k

/-- A turn: the candidate that is picked, and the credits afterwards. -/
def turn (credit : κ → ℤ) : Option κ × (κ → ℤ) :=
  let raised := raise keys weight credit
  match firstMax raised keys with
  | none => (none, credit)
  | some k => (some k, Function.update raised k (raised k - total keys weight))

variable {keys weight} {credit : κ → ℤ} {k : κ}

theorem raise_of_mem (h : k ∈ keys) : raise keys weight credit k = credit k + weight k := if_pos h

theorem turn_of_firstMax (h : firstMax (raise keys weight credit) keys = some k) :
    (turn keys weight credit).1 = some k ∧ (turn keys weight credit).2 =
      Function.update (raise keys weight credit) k
        (raise keys weight credit k - total keys weight) := by
  simp only [turn, h, true_and]

/-- Somebody is picked, and nobody has more. -/
theorem exists_turn_eq (hne : keys ≠ []) (credit : κ → ℤ) : ∃ k ∈ keys,
    (∀ k' ∈ keys, raise keys weight credit k' ≤ raise keys weight credit k) ∧
      (turn keys weight credit).1 = some k ∧ (turn keys weight credit).2 =
        Function.update (raise keys weight credit) k
          (raise keys weight credit k - total keys weight) := by
  have hsome : firstMax (raise keys weight credit) keys ≠ none :=
    fun hnone ↦ hne (firstMax_eq_none.mp hnone)
  obtain ⟨k, hk⟩ := Option.ne_none_iff_exists'.mp hsome
  exact ⟨k, mem_of_firstMax hk, fun _ ↦ le_of_firstMax hk, turn_of_firstMax hk⟩

/-- The credit of a candidate changes by its own weight, and by the total if it is picked. -/
theorem turn_of_mem (h : k ∈ keys) : (turn keys weight credit).2 k = credit k + weight k -
    if (turn keys weight credit).1 = some k then total keys weight else 0 := by
  obtain ⟨picked, -, -, hpick, hturn⟩ := exists_turn_eq (List.ne_nil_of_mem h) credit
  rw [hpick, hturn]
  by_cases hk : picked = k
  · subst hk
    rw [if_pos rfl, Function.update_self, raise_of_mem h]
  · rw [if_neg fun heq ↦ hk (Option.some.inj heq), Function.update_of_ne (Ne.symm hk),
      raise_of_mem h, sub_zero]

/-- Nobody else's credit changes. -/
theorem turn_of_not_mem (h : k ∉ keys) : (turn keys weight credit).2 k = credit k := by
  rcases hkeys : firstMax (raise keys weight credit) keys with _ | picked
  · simp only [turn, hkeys]
  · have hne : k ≠ picked := fun heq ↦ h (heq ▸ mem_of_firstMax hkeys)
    rw [(turn_of_firstMax hkeys).2, Function.update_of_ne hne, raise, if_neg h]

/-! ## The balance -/

/-- The credits of the candidates sum to zero, and each is more than what the picked one pays below
it. -/
structure Balanced (keys : List κ) (weight credit : κ → ℤ) : Prop where
  sum : (keys.map credit).sum = 0
  bound : ∀ k ∈ keys, -total keys weight < credit k

theorem sum_raise : (keys.map (raise keys weight credit)).sum =
    (keys.map credit).sum + total keys weight := by
  rw [total, ← List.sum_map_add]
  exact congrArg List.sum (List.map_congr_left fun k hk ↦ raise_of_mem hk)

theorem sum_update {f : κ → ℤ} {x : ℤ} (hnodup : keys.Nodup) (h : k ∈ keys) :
    (keys.map (Function.update f k x)).sum = (keys.map f).sum - f k + x := by
  induction keys with
  | nil => exact absurd h List.not_mem_nil
  | cons k' keys ih =>
    obtain ⟨hnot, hnodup⟩ := List.nodup_cons.mp hnodup
    rw [List.map_cons, List.sum_cons, List.map_cons, List.sum_cons]
    rcases List.mem_cons.mp h with rfl | h
    · have hsame : keys.map (Function.update f k x) = keys.map f := by
        refine List.map_congr_left fun a ha ↦ Function.update_of_ne ?_ x f
        rintro rfl
        exact hnot ha
      rw [hsame, Function.update_self]
      ring
    · have hne : k' ≠ k := fun heq ↦ hnot (heq ▸ h)
      rw [ih hnodup h, Function.update_of_ne hne]
      ring

/-- **A turn keeps the balance.** -/
theorem Balanced.turn (h : Balanced keys weight credit) (hnodup : keys.Nodup)
    (hweight : ∀ k ∈ keys, 0 ≤ weight k) (htotal : 0 < total keys weight) :
    Balanced keys weight (turn keys weight credit).2 := by
  have hne : keys ≠ [] := by
    rintro rfl
    exact absurd htotal (lt_irrefl 0)
  obtain ⟨picked, hmem, hmax, -, hturn⟩ := exists_turn_eq hne credit
  rw [hturn]
  have hsum : (keys.map (raise keys weight credit)).sum = total keys weight := by
    rw [sum_raise, h.sum, zero_add]
  -- the largest of numbers with a positive sum is positive
  have hpos : 0 < raise keys weight credit picked := by
    by_contra hle
    have hnonpos : (keys.map (raise keys weight credit)).sum ≤ (keys.map fun _ ↦ 0).sum :=
      List.sum_le_sum fun k hk ↦ (hmax k hk).trans (not_lt.mp hle)
    rw [List.sum_map_zero] at hnonpos
    exact absurd (htotal.trans_le (hsum.symm.trans_le hnonpos)) (lt_irrefl 0)
  refine ⟨?_, fun k hk ↦ ?_⟩
  · rw [sum_update hnodup hmem, hsum]
    ring
  · by_cases heq : k = picked
    · subst heq
      rw [Function.update_self]
      omega
    · rw [Function.update_of_ne heq, raise_of_mem hk]
      have hbound := h.bound k hk
      have hle := hweight k hk
      omega

/-! ## Turn after turn -/

section Turns

variable (keys weight)

/-- The credits after some turns, from none. -/
def after (n : ℕ) : κ → ℤ := (fun credit ↦ (turn keys weight credit).2)^[n] 0

/-- Who is picked in a turn. -/
def pick (n : ℕ) : Option κ := (turn keys weight (after keys weight n)).1

/-- As many turns as the weights sum to. -/
def cycle : ℕ := (total keys weight).toNat

end Turns

theorem after_succ (n : ℕ) :
    after keys weight (n + 1) = (turn keys weight (after keys weight n)).2 :=
  Function.iterate_succ_apply' _ _ _

/-- What a candidate has earned and paid. -/
theorem after_of_mem (h : k ∈ keys) (n : ℕ) : after keys weight n k =
    n * weight k - total keys weight * Nat.count (fun m ↦ pick keys weight m = some k) n := by
  induction n with
  | zero => simp [after]
  | succ n ih =>
    rw [after_succ, turn_of_mem h, ih, Nat.count_succ, pick]
    push_cast
    split <;> ring

theorem after_of_not_mem (h : k ∉ keys) (n : ℕ) : after keys weight n k = 0 := by
  induction n with
  | zero => rfl
  | succ n ih => rw [after_succ, turn_of_not_mem h, ih]

section Proportion

variable (hnodup : keys.Nodup) (hweight : ∀ k ∈ keys, 0 ≤ weight k)
  (htotal : 0 < total keys weight)

include hnodup hweight htotal

theorem balanced_after (n : ℕ) : Balanced keys weight (after keys weight n) := by
  induction n with
  | zero =>
    refine ⟨?_, fun k _ ↦ Int.neg_neg_of_pos htotal⟩
    exact List.sum_eq_zero fun x hx ↦ by
      obtain ⟨k, -, rfl⟩ := List.mem_map.mp hx
      rfl
  | succ n ih =>
    rw [after_succ]
    exact ih.turn hnodup hweight htotal

/-- **After one cycle nobody has credit or debts.** -/
theorem after_total : after keys weight (cycle keys weight) = 0 := by
  have hbalanced := balanced_after hnodup hweight htotal (cycle keys weight)
  have hcycle : ((cycle keys weight : ℕ) : ℤ) = total keys weight := Int.toNat_of_nonneg htotal.le
  -- what is left is a multiple of the total, and no debt as large as that
  have hnonneg : ∀ k ∈ keys, 0 ≤ after keys weight (cycle keys weight) k := by
    intro k hk
    have hbound := hbalanced.bound k hk
    rw [after_of_mem hk, hcycle] at hbound ⊢
    rw [← mul_sub] at hbound ⊢
    have hlt : -1 < weight k -
        (Nat.count (fun m ↦ pick keys weight m = some k) (cycle keys weight) : ℤ) := by
      by_contra hle
      have hmul := mul_le_mul_of_nonneg_left (not_lt.mp hle) htotal.le
      rw [mul_neg_one] at hmul
      exact absurd (hbound.trans_le hmul) (lt_irrefl _)
    exact mul_nonneg htotal.le (by omega)
  funext k
  by_cases hk : k ∈ keys
  · refine le_antisymm ?_ (hnonneg k hk)
    rw [Pi.zero_apply, ← hbalanced.sum]
    refine List.single_le_sum (fun x hx ↦ ?_) _ (List.mem_map_of_mem hk)
    obtain ⟨k', hk', rfl⟩ := List.mem_map.mp hx
    exact hnonneg k' hk'
  · exact after_of_not_mem hk _

/-- A cycle later everything is as it was. -/
theorem after_add_cycle (n : ℕ) :
    after keys weight (n + cycle keys weight) = after keys weight n := by
  rw [after, Function.iterate_add_apply]
  exact congrArg (fun credit ↦ (fun credit ↦ (turn keys weight credit).2)^[n] credit)
    (after_total hnodup hweight htotal)

/-- **In any cycle a candidate is picked as often as its weight says.** -/
theorem count_picks (h : k ∈ keys) (n : ℕ) :
    (Nat.count (fun m ↦ pick keys weight (n + m) = some k) (cycle keys weight) : ℤ) =
      weight k := by
  have hcycle : ((cycle keys weight : ℕ) : ℤ) = total keys weight := Int.toNat_of_nonneg htotal.le
  have heq := congrFun (after_add_cycle hnodup hweight htotal n) k
  rw [after_of_mem h, after_of_mem h, Nat.count_add] at heq
  push_cast at heq
  rw [hcycle] at heq
  refine mul_left_cancel₀ htotal.ne' ?_
  linarith

end Proportion

end SmoothRotation

end Foundation
