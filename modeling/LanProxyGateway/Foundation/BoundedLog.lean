import Mathlib.Data.List.DropRight

/-!
# Logs of bounded length

A log that grows at its end and loses its oldest entries beyond a limit is, however it came about,
the last entries of all that have been added (`entries_foldl_push`). Reading it from its newest
entry back until enough entries have been accepted is a filter and a take (`collect_eq`).

Where a predicate that is true of one entry is true of all later ones, as a bound on the time is,
filtering and forgetting commute (`filter_rtake`): nothing that is asked for has been forgotten,
unless more is asked for than fits.
-/

namespace Foundation

variable {α : Type} {limit : ℕ}

/-- The entries of a log, from the oldest on. -/
structure BoundedLog (α : Type) (limit : ℕ) where
  entries : List α := []
  bounded : entries.length ≤ limit := by exact Nat.zero_le _

/-! ## The last entries of a list -/

theorem length_rtake_le (l : List α) (n : ℕ) : (l.rtake n).length ≤ n := by
  rw [List.rtake, List.length_drop]
  omega

theorem rtake_eq_self {l : List α} {n : ℕ} (h : l.length ≤ n) : l.rtake n = l := by
  rw [List.rtake, Nat.sub_eq_zero_of_le h, List.drop_zero]

/-- What has been forgotten makes no difference later on. -/
theorem rtake_rtake_append (l l' : List α) (n : ℕ) :
    (l.rtake n ++ l').rtake n = (l ++ l').rtake n := by
  rw [List.rtake, List.rtake, List.rtake, List.length_append, List.length_append, List.length_drop]
  by_cases h : l.length ≤ n
  · rw [Nat.sub_eq_zero_of_le h, List.drop_zero, Nat.sub_zero]
  · rw [← List.drop_append_of_le_length (by omega), List.drop_drop]
    congr 1
    omega

theorem reverse_rtake (l : List α) (n : ℕ) : (l.rtake n).reverse = l.reverse.take n := by
  rw [List.rtake_eq_reverse_take_reverse, List.reverse_reverse]

theorem rtake_cons_of_le {a : α} {l : List α} {n : ℕ} (h : n ≤ l.length) :
    (a :: l).rtake n = l.rtake n := by
  rw [List.rtake, List.rtake, List.length_cons, Nat.sub_add_comm h, List.drop_succ_cons]

/-- Where `p` stays true once it is, it is all one to filter first or to forget first. -/
theorem filter_rtake {l : List α} {p : α → Bool}
    (h : l.Pairwise fun a b ↦ p a = true → p b = true) (n : ℕ) :
    (l.rtake n).filter p = (l.filter p).rtake n := by
  induction l with
  | nil => rw [List.rtake_nil, List.filter_nil, List.rtake_nil]
  | cons a l ih =>
    obtain ⟨hhead, htail⟩ := List.pairwise_cons.mp h
    rcases Nat.lt_or_ge l.length n with hlt | hge
    · have hfits : ((a :: l).filter p).length ≤ n :=
        (List.length_filter_le _ _).trans (Nat.succ_le_of_lt hlt)
      rw [rtake_eq_self (Nat.succ_le_of_lt hlt), rtake_eq_self hfits]
    · rw [rtake_cons_of_le hge, ih htail]
      by_cases ha : p a = true
      · have hall : l.filter p = l := List.filter_eq_self.mpr fun b hb ↦ hhead b hb ha
        rw [List.filter_cons_of_pos ha, hall, rtake_cons_of_le hge]
      · rw [List.filter_cons_of_neg ha]

/-! ## Reading a log -/

/-- The entries that are accepted, until there are `count` of them. -/
def collect (accept : α → Bool) (count : ℕ) : List α → ℕ → List α
  | [], _ => []
  | a :: l, added =>
    if added < count then
      if accept a then a :: collect accept count l (added + 1) else collect accept count l added
    else []

theorem collect_eq (accept : α → Bool) (count : ℕ) (l : List α) (added : ℕ) :
    collect accept count l added = (l.filter accept).take (count - added) := by
  induction l generalizing added with
  | nil => rw [collect, List.filter_nil, List.take_nil]
  | cons a l ih =>
    rw [collect]
    split
    case isTrue hlt =>
      obtain ⟨d, hd⟩ : ∃ d, count - added = d + 1 := ⟨count - added - 1, by omega⟩
      split
      case isTrue ha =>
        rw [ih, List.filter_cons_of_pos ha, hd, List.take_succ_cons]
        congr 2
        omega
      case isFalse ha => rw [ih, List.filter_cons_of_neg ha]
    case isFalse hge => rw [Nat.sub_eq_zero_of_le (Nat.le_of_not_lt hge), List.take_zero]

namespace BoundedLog

/-- An entry is added, and the oldest entries beyond the limit are erased. -/
def push (b : BoundedLog α limit) (a : α) : BoundedLog α limit :=
  ⟨(b.entries ++ [a]).rtake limit, length_rtake_le _ _⟩

@[simp] theorem entries_push (b : BoundedLog α limit) (a : α) :
    (b.push a).entries = (b.entries ++ [a]).rtake limit := rfl

/-- **The log holds the last entries of all that have been added.** -/
theorem entries_foldl_push (b : BoundedLog α limit) (l : List α) :
    (l.foldl push b).entries = (b.entries ++ l).rtake limit := by
  induction l generalizing b with
  | nil => rw [List.foldl_nil, List.append_nil, rtake_eq_self b.bounded]
  | cons a l ih =>
    rw [List.foldl_cons, ih, entries_push, rtake_rtake_append, List.append_assoc,
      List.singleton_append]

end BoundedLog

end Foundation
