import Mathlib.Data.List.Lex
import Mathlib.Data.Option.Basic
import Mathlib.Order.Lattice

/-!
# Ordered maps

A `std::map` as the list of its entries. `set` is one pass over the list: it replaces the entry of
the key where it meets it, and otherwise puts a new one in front of the first greater key. A map
that was built by `set` is therefore sorted, but none of the laws below needs to know: they hold of
every list of entries.

Two maps that hold the same entries are the same list, so equations between maps can be proved by
rewriting: `set_set` for one key twice, `set_comm` for two different keys. `fill` is the idiom of a
default: a value for the key where the map has none that passes a test.
-/

namespace Foundation

/-- The entries of a map. -/
abbrev OrderedMap (κ ν : Type) := List (κ × ν)

namespace OrderedMap

variable {κ ν : Type} [LinearOrder κ] {k l : κ} {v w : ν} {m : OrderedMap κ ν}

/-- The value of a key. -/
def get? (k : κ) (m : OrderedMap κ ν) : Option ν := (m.find? fun e ↦ e.1 == k).map Prod.snd

/-- `m[k] = v`. -/
def set (k : κ) (v : ν) : OrderedMap κ ν → OrderedMap κ ν
  | [] => [(k, v)]
  | e :: m => if e.1 = k then (k, v) :: m else if k < e.1 then (k, v) :: e :: m else e :: set k v m

/-- `if (!m.contains(k) || !ok(m[k])) m[k] = v`. -/
def fill (k : κ) (ok : ν → Bool) (v : ν) (m : OrderedMap κ ν) : OrderedMap κ ν :=
  if (get? k m).any ok then m else set k v m

@[simp] theorem get?_nil : get? k ([] : OrderedMap κ ν) = none := rfl

theorem get?_cons (e : κ × ν) : get? k (e :: m) = if e.1 = k then some e.2 else get? k m := by
  rw [get?, List.find?_cons]
  by_cases h : e.1 = k
  · rw [if_pos h, beq_iff_eq.mpr h]
    rfl
  · rw [if_neg h, beq_eq_false_iff_ne.mpr h, get?]

/-! ## Reading what was written -/

@[simp] theorem get?_set_self : get? k (set k v m) = some v := by
  induction m with
  | nil => rw [set, get?_cons, if_pos rfl]
  | cons e m ih =>
    rw [set]
    split
    · rw [get?_cons, if_pos rfl]
    · split
      · rw [get?_cons, if_pos rfl]
      · rename_i h _
        rw [get?_cons, if_neg h, ih]

theorem get?_set_of_ne (h : k ≠ l) : get? l (set k v m) = get? l m := by
  induction m with
  | nil => rw [set, get?_cons, if_neg h]
  | cons e m ih =>
    rw [set]
    split
    · rename_i he
      rw [get?_cons, get?_cons, if_neg h, he, if_neg h]
    · split
      · rw [get?_cons, if_neg h]
      · rw [get?_cons, get?_cons, ih]

theorem get?_set : get? l (set k v m) = if k = l then some v else get? l m := by
  by_cases h : k = l
  · rw [if_pos h, ← h, get?_set_self]
  · rw [if_neg h, get?_set_of_ne h]

/-- A value that is read is the value of an entry. -/
theorem mem_of_get? (h : get? k m = some v) : (k, v) ∈ m := by
  obtain ⟨e, he, rfl⟩ := Option.map_eq_some_iff.mp h
  have hk : e.1 = k := by simpa using List.find?_some he
  rw [← hk]
  exact List.mem_of_find?_eq_some he

/-- The entries after a write. -/
theorem mem_set {e : κ × ν} (h : e ∈ set k v m) : e = (k, v) ∨ e ∈ m := by
  induction m with
  | nil => exact .inl (List.mem_singleton.mp h)
  | cons e' m ih =>
    rw [set] at h
    split at h
    · rcases List.mem_cons.mp h with h | h
      · exact .inl h
      · exact .inr (List.mem_cons_of_mem e' h)
    · split at h
      · rcases List.mem_cons.mp h with h | h
        · exact .inl h
        · exact .inr h
      · rcases List.mem_cons.mp h with h | h
        · exact .inr (h ▸ List.mem_cons_self)
        · exact (ih h).imp_right (List.mem_cons_of_mem e')

section

variable {α : Type} {f : α → κ} {g : α → ν} {l : List α}

/-- Writing other keys, one after the other. -/
theorem get?_foldl_set_of_ne (h : ∀ a ∈ l, f a ≠ k) :
    get? k (l.foldl (fun m a ↦ set (f a) (g a) m) m) = get? k m := by
  induction l generalizing m with
  | nil => rfl
  | cons a l ih =>
    rw [List.forall_mem_cons] at h
    rw [List.foldl_cons, ih h.2, get?_set_of_ne h.1]

/-- Entries written one after the other are read back, if no key comes twice. -/
theorem get?_foldl_set_of_mem (hnodup : (l.map f).Nodup) {a : α} (ha : a ∈ l) :
    get? (f a) (l.foldl (fun m a ↦ set (f a) (g a) m) m) = some (g a) := by
  induction l generalizing m with
  | nil => exact absurd ha List.not_mem_nil
  | cons b l ih =>
    rw [List.map_cons, List.nodup_cons] at hnodup
    rw [List.foldl_cons]
    rcases List.mem_cons.mp ha with rfl | ha
    · rw [get?_foldl_set_of_ne, get?_set_self]
      exact fun b hb heq ↦ hnodup.1 (List.mem_map.mpr ⟨b, hb, heq⟩)
    · exact ih hnodup.2 ha

end

/-! ## Writing twice -/

@[simp] theorem set_set : set k v (set k w m) = set k v m := by
  induction m with
  | nil => simp [set]
  | cons e m ih =>
    simp only [set]
    split
    · simp [set]
    · split
      · simp [set]
      · rename_i h h'
        simp [set, h, h', ih]

theorem set_comm (h : k ≠ l) : set k v (set l w m) = set l w (set k v m) := by
  induction m with
  | nil =>
    rcases lt_or_gt_of_ne h with hlt | hlt
    · simp [set, h, h.symm, hlt, hlt.not_gt]
    · simp [set, h, h.symm, hlt, hlt.not_gt]
  | cons e m ih =>
    by_cases hk : e.1 = k
    · have hl : e.1 ≠ l := hk ▸ h
      rcases lt_or_gt_of_ne h with hlt | hlt
      · simp [set, hk, h, hlt.not_gt]
      · simp [set, hk, h, h.symm, hlt, hlt.not_gt]
    · by_cases hl : e.1 = l
      · rcases lt_or_gt_of_ne h with hlt | hlt
        · simp [set, hl, h, h.symm, hlt, hlt.not_gt]
        · simp [set, hl, h.symm, hlt.not_gt]
      · simp only [set, hk, hl, if_false]
        split <;> split <;> simp only [set, hk, hl, h, h.symm, if_false] <;> grind

/-! ## Defaults -/

theorem fill_eq_self {ok : ν → Bool} (h : (get? k m).any ok) : fill k ok v m = m := if_pos h

/-- A default that passes its own test is filled in once. -/
theorem any_get?_fill {ok : ν → Bool} (h : ok v) : (get? k (fill k ok v m)).any ok := by
  rw [fill]
  split
  · assumption
  · rw [get?_set_self]
    exact h

theorem get?_fill_of_ne {ok : ν → Bool} (h : k ≠ l) : get? l (fill k ok v m) = get? l m := by
  rw [fill]
  split
  · rfl
  · exact get?_set_of_ne h

/-- Filling in one key and setting another. -/
theorem fill_set_comm {ok : ν → Bool} (h : k ≠ l) :
    fill k ok v (set l w m) = set l w (fill k ok v m) := by
  rw [fill, fill, get?_set_of_ne h.symm]
  split
  · rfl
  · exact set_comm h

end OrderedMap

end Foundation
