import Mathlib.Data.List.Nodup
import Mathlib.Data.List.Perm.Subperm
import Mathlib.Data.Nat.Find

/-!
# Lists that are searched by a key

A search takes the first entry with a key. Where no two entries have the same key, it is the only
one.

A list holds at most as many keys as it has entries, so that among one more keys there is one that
it does not hold (`exists_least_not_mem`).
-/

namespace Foundation

variable {α κ : Type} [DecidableEq κ] {key : α → κ} {l : List α} {a : α} {k : κ}

theorem key_eq_of_find? (h : l.find? (key · = k) = some a) : key a = k :=
  of_decide_eq_true (List.find?_some h :)

/-- Nothing is found where nothing has the key. -/
theorem find?_key_eq_none_iff : l.find? (key · = k) = none ↔ ¬∃ a ∈ l, key a = k := by
  rw [List.find?_eq_none, not_exists]
  refine forall_congr' fun a ↦ ?_
  rw [decide_eq_true_eq, not_and]

/-- Where something has the key, something with it is found. -/
theorem exists_find?_key (h : ∃ a ∈ l, key a = k) :
    ∃ a ∈ l, key a = k ∧ l.find? (key · = k) = some a := by
  have hfound : l.find? (key · = k) ≠ none := fun hnone ↦ find?_key_eq_none_iff.mp hnone h
  obtain ⟨a, ha⟩ := Option.ne_none_iff_exists'.mp hfound
  exact ⟨a, List.mem_of_find?_eq_some ha, key_eq_of_find? ha, ha⟩

theorem find?_key_eq_some_iff (hdistinct : (l.map key).Nodup) :
    l.find? (key · = k) = some a ↔ a ∈ l ∧ key a = k := by
  constructor
  · exact fun h ↦ ⟨List.mem_of_find?_eq_some h, key_eq_of_find? h⟩
  · rintro ⟨ha, rfl⟩
    have hexists : ∃ b ∈ l, key b = key a := ⟨a, ha, rfl⟩
    obtain ⟨b, hb, hkey, hfound⟩ := exists_find?_key hexists
    rw [hfound, List.inj_on_of_nodup_map hdistinct hb ha hkey]

/-- The first of infinitely many keys that a list of keys does not hold. -/
theorem exists_least_not_mem {f : ℕ → κ} (hf : Function.Injective f) (keys : List κ) :
    ∃ k ≤ keys.length, f k ∉ keys ∧ ∀ j < k, f j ∈ keys := by
  have hfree : ∃ k ≤ keys.length, f k ∉ keys := by
    by_contra hall
    push Not at hall
    have hnodup := (List.nodup_range (n := keys.length + 1)).map hf
    have hsub : (List.range (keys.length + 1)).map f ⊆ keys := by
      intro key hkey
      obtain ⟨k, hk, rfl⟩ := List.mem_map.mp hkey
      exact hall k (Nat.le_of_lt_succ (List.mem_range.mp hk))
    have hlength := (List.subperm_of_subset hnodup hsub).length_le
    rw [List.length_map, List.length_range] at hlength
    omega
  obtain ⟨bound, hbound, hbound_free⟩ := hfree
  have hexists : ∃ k, f k ∉ keys := ⟨bound, hbound_free⟩
  refine ⟨Nat.find hexists, ?_, Nat.find_spec hexists, fun j hj ↦ ?_⟩
  · exact Nat.le_trans (Nat.find_min' hexists hbound_free) hbound
  · exact not_not.mp (Nat.find_min hexists hj)

end Foundation
