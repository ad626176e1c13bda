import Mathlib.Data.List.MinMax

/-!
# The first extreme of a list

Of the members with the least or the largest value, the first; and the loop that looks for it, which
keeps the best member so far.
-/

namespace Foundation

variable {α β : Type} [LinearOrder β] {f : α → β} {l : List α} {a : α}

/-- The first member with the least value. -/
def firstMin (f : α → β) (l : List α) : Option α := l.argmin f

/-- The first member with the largest value. -/
def firstMax (f : α → β) (l : List α) : Option α := l.argmax f

theorem firstMin_eq_none : firstMin f l = none ↔ l = [] := List.argmin_eq_none

theorem firstMax_eq_none : firstMax f l = none ↔ l = [] := List.argmax_eq_none

theorem firstMin_eq_some_iff [DecidableEq α] : firstMin f l = some a ↔
    a ∈ l ∧ (∀ b ∈ l, f a ≤ f b) ∧ ∀ b ∈ l, f b ≤ f a → l.idxOf a ≤ l.idxOf b :=
  List.argmin_eq_some_iff

theorem mem_of_firstMax (h : firstMax f l = some a) : a ∈ l := List.argmax_mem h

theorem le_of_firstMax (h : firstMax f l = some a) {b : α} (hb : b ∈ l) : f b ≤ f a :=
  List.le_of_mem_argmax hb h

theorem foldl_argAux (r : α → α → Prop) [DecidableRel r] (a : α) (l : List α) :
    l.foldl (List.argAux r) (some a) =
      some (l.foldl (fun best b ↦ if r b best then b else best) a) := by
  induction l generalizing a with
  | nil => rfl
  | cons b l ih =>
    have haux : List.argAux r (some a) b = some (if r b a then b else a) := by
      rw [apply_ite some]
      rfl
    rw [List.foldl_cons, List.foldl_cons, haux, ih]

/-- The loop keeps the best member so far, and takes another only if that is better. -/
theorem firstMin_cons (f : α → β) (a : α) (l : List α) : firstMin f (a :: l) =
    some (l.foldl (fun best b ↦ if f b < f best then b else best) a) := foldl_argAux _ a l

theorem firstMax_cons (f : α → β) (a : α) (l : List α) : firstMax f (a :: l) =
    some (l.foldl (fun best b ↦ if f best < f b then b else best) a) := foldl_argAux _ a l

end Foundation
