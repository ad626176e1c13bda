import Mathlib.Data.List.Induction
import Mathlib.Data.List.Perm.Basic

/-!
# Traces and pools

Two facts about lists that systems with asynchronous operations need again and again.

A *trace* only grows at its end. `Preceded need R l` says that every element of the trace that needs
it has, somewhere before it, an element that answers for it; to keep this when the trace grows only
the new elements have to be looked at.

A *pool* holds the operations under way, in no particular order. When one of them leaves, what was
true of any two of them is true of it and each of the others.
-/

namespace Foundation

variable {α : Type}

/-! ## Traces -/

/-- Every element that needs it has, before it, one that answers for it. -/
def Preceded (need : α → Prop) (R : α → α → Prop) (l : List α) : Prop :=
  ∀ pre a post, l = pre ++ a :: post → need a → ∃ b ∈ pre, R b a

variable {need : α → Prop} {R : α → α → Prop}

theorem preceded_concat_iff {l : List α} {a : α} :
    Preceded need R (l ++ [a]) ↔ Preceded need R l ∧ (need a → ∃ b ∈ l, R b a) := by
  constructor
  · intro h
    refine ⟨fun pre b post hl ↦ h pre b (post ++ [a]) ?_, h l a [] rfl⟩
    rw [hl, List.append_assoc, List.cons_append]
  · rintro ⟨hl, ha⟩ pre b post heq
    rcases List.eq_nil_or_concat post with rfl | ⟨post', c, rfl⟩
    · obtain ⟨rfl, hab⟩ := List.append_inj' heq rfl
      obtain rfl : a = b := (List.cons.inj hab).1
      exact ha
    · rw [List.concat_eq_append, ← List.cons_append, ← List.append_assoc] at heq
      exact hl pre b post' (List.append_inj' heq rfl).1

/-- A trace that grows by elements the old part answers for. -/
theorem Preceded.append {l m : List α} (hl : Preceded need R l)
    (hm : ∀ a ∈ m, need a → ∃ b ∈ l, R b a) : Preceded need R (l ++ m) := by
  induction m using List.reverseRecOn with
  | nil => rwa [List.append_nil]
  | append_singleton m a ih =>
    rw [← List.append_assoc, preceded_concat_iff]
    refine ⟨ih fun b hb ↦ hm b (List.mem_append_left _ hb), fun ha ↦ ?_⟩
    obtain ⟨b, hb, hR⟩ := hm a (List.mem_append_right _ (List.mem_singleton_self a)) ha
    exact ⟨b, List.mem_append_left _ hb, hR⟩

/-! ## Pools -/

/-- The operation that leaves the pool stands to the others as any two of them do. -/
theorem pairwise_eraseIdx {l : List α} {k : ℕ} {a : α} (hsymm : ∀ {x y}, R x y → R y x)
    (h : l.Pairwise R) (hk : l[k]? = some a) :
    (l.eraseIdx k).Pairwise R ∧ ∀ b ∈ l.eraseIdx k, R a b := by
  obtain ⟨hlt, rfl⟩ := List.getElem?_eq_some_iff.mp hk
  have hperm := List.getElem_cons_eraseIdx_perm hlt
  rw [← hperm.pairwise_iff hsymm, List.pairwise_cons] at h
  exact ⟨h.2, h.1⟩

end Foundation
