import LanProxyGateway.Foundation.Keys

/-!
# Recency lists

A list of entries with keys, the latest first and of each key at most one, that never holds more
than a number of entries. To *touch* an entry is to put it in front, instead of the one with its key
and, if there is no room, instead of the last.
-/

namespace Foundation

namespace Recency

variable {α κ : Type} [DecidableEq κ] (key : α → κ)

/-- The entries without the one of a key. -/
def forget (k : κ) (entries : List α) : List α := entries.filter (key · ≠ k)

def touch (capacity : ℕ) (entry : α) (entries : List α) : List α :=
  (entry :: forget key (key entry) entries).take capacity

/-- The entry of a key. -/
def find? (k : κ) (entries : List α) : Option α := entries.find? (key · = k)

variable {key} {entries : List α} {k : κ} {capacity : ℕ}

theorem forget_of_not_mem (h : k ∉ entries.map key) : forget key k entries = entries := by
  refine List.filter_eq_self.mpr fun a ha ↦ decide_eq_true fun hkey ↦ ?_
  exact h (hkey ▸ List.mem_map_of_mem ha)

/-- An entry takes the place of the one with its key. -/
theorem touch_of_mem (entry : α) (h : key entry ∈ entries.map key)
    (hfits : entries.length ≤ capacity) :
    touch key capacity entry entries = entry :: forget key (key entry) entries := by
  obtain ⟨old, hold, hkey⟩ := List.mem_map.mp h
  have hlt : (forget key (key entry) entries).length < entries.length :=
    List.length_filter_lt_length_iff_exists.mpr ⟨old, hold, by simp [hkey]⟩
  exact List.take_of_length_le (Nat.succ_le_of_lt (Nat.lt_of_lt_of_le hlt hfits))

/-- An entry with a new key pushes out the last one of a full list. -/
theorem touch_of_not_mem (entry : α) (h : key entry ∉ entries.map key) (hpos : 0 < capacity) :
    touch key capacity entry entries = entry :: entries.take (capacity - 1) := by
  obtain ⟨n, rfl⟩ := Nat.exists_eq_succ_of_ne_zero (Nat.ne_of_gt hpos)
  rw [touch, forget_of_not_mem h]
  rfl

theorem find?_eq_none (h : k ∉ entries.map key) : find? key k entries = none :=
  find?_key_eq_none_iff.mpr (List.mem_map.not.mp h)

/-- With one entry for a key, that one is found. -/
theorem find?_eq_some {entry : α} (hnodup : (entries.map key).Nodup) (h : entry ∈ entries) :
    find? key (key entry) entries = some entry := (find?_key_eq_some_iff hnodup).mpr ⟨h, rfl⟩

end Recency

end Foundation
