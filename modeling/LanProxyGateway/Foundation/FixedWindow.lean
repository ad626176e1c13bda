import Mathlib.Algebra.Order.Group.Defs
import Mathlib.Data.List.Infix
import Mathlib.Data.List.TakeWhile

/-!
# Fixed windows

A counter with fixed windows is asked again and again. Some questions open a window, and within a
window only so many are answered with yes. Windows do not slide, so an interval as long as a window
may meet two of them, the end of one and the beginning of the next, but never three: `countP_le`.

Times are elements of an ordered group.
-/

namespace Foundation

/-- A question that a counter was asked. -/
structure Question (τ : Type) where
  time : τ
  /-- It opens a window. -/
  opens : Bool
  allowed : Bool

namespace Question

variable {τ : Type}

/-- No question but the first opens a window. -/
def InOneWindow (qs : List (Question τ)) : Prop := ∀ q ∈ qs.tail, q.opens = false

theorem inOneWindow_of_concat {qs : List (Question τ)} {q : Question τ}
    (h : InOneWindow (qs ++ [q])) : InOneWindow qs := by
  cases qs with
  | nil => exact fun _ h ↦ absurd h List.not_mem_nil
  | cons p qs => exact fun r hr ↦ h r (List.mem_append_left [q] hr)

/-- A question that opens a window is the first of its window. -/
theorem eq_nil_of_inOneWindow_concat {qs : List (Question τ)} {q : Question τ} (hq : q.opens = true)
    (h : InOneWindow (qs ++ [q])) : qs = [] := by
  cases qs with
  | nil => rfl
  | cons p qs =>
    have hnot := h q (List.mem_append_right qs (List.mem_singleton.mpr rfl))
    rw [hq] at hnot
    cases hnot

/-- The questions up to the second that opens a window, and those from there on. -/
theorem exists_split (q : Question τ) (qs : List (Question τ)) :
    ∃ first rest, q :: qs = (q :: first) ++ rest ∧ InOneWindow (q :: first) ∧
      ∀ p ∈ rest.head?, p.opens = true := by
  refine ⟨qs.takeWhile (!·.opens), qs.dropWhile (!·.opens), ?_, fun p hp ↦ ?_, fun p hp ↦ ?_⟩
  · rw [List.cons_append, List.takeWhile_append_dropWhile]
  · simpa using List.mem_takeWhile_imp hp
  · have hnot := List.head?_dropWhile_not (!·.opens) qs
    rw [Option.mem_def.mp hp] at hnot
    simpa using hnot

variable [AddCommGroup τ] [LinearOrder τ]

/-- What was asked of a counter with windows of length `d` that says yes at most `m` times in each,
in the order of the questions. -/
structure Windowed (d : τ) (m : ℕ) (qs : List (Question τ)) : Prop where
  sorted : qs.Pairwise (·.time ≤ ·.time)
  /-- Time has passed when a window is opened. -/
  later : qs.Pairwise fun p q ↦ q.opens = true → p.time < q.time
  spaced : qs.Pairwise fun p q ↦ p.opens = true → q.opens = true → p.time + d ≤ q.time
  bounded : ∀ part, part <:+: qs → InOneWindow part → part.countP (·.allowed) ≤ m

theorem windowed_nil (d : τ) (m : ℕ) : Windowed d m [] where
  sorted := .nil
  later := .nil
  spaced := .nil
  bounded := by
    intro part hpart _
    rw [List.infix_nil.mp hpart]
    exact Nat.zero_le m

theorem Windowed.infix {d : τ} {m : ℕ} {part qs : List (Question τ)} (h : Windowed d m qs)
    (hpart : part <:+: qs) : Windowed d m part where
  sorted := h.sorted.sublist hpart.sublist
  later := h.later.sublist hpart.sublist
  spaced := h.spaced.sublist hpart.sublist
  bounded := fun p hp ↦ h.bounded p (hp.trans hpart)

/-- One more question, which has to fit the window it falls into. -/
theorem Windowed.concat {d : τ} {m : ℕ} {qs : List (Question τ)} {q : Question τ}
    (h : Windowed d m qs) (hsorted : ∀ p ∈ qs, p.time ≤ q.time)
    (hopens : q.opens = true → ∀ p ∈ qs, p.time < q.time ∧ (p.opens = true → p.time + d ≤ q.time))
    (hbounded : ∀ part, part <:+ qs → InOneWindow (part ++ [q]) →
      (part ++ [q]).countP (·.allowed) ≤ m) : Windowed d m (qs ++ [q]) where
  sorted := List.pairwise_append.mpr ⟨h.sorted, List.pairwise_singleton _ _, fun p hp q' hq' ↦
    List.mem_singleton.mp hq' ▸ hsorted p hp⟩
  later := List.pairwise_append.mpr ⟨h.later, List.pairwise_singleton _ _, fun p hp q' hq' ↦
    List.mem_singleton.mp hq' ▸ fun ho ↦ (hopens ho p hp).1⟩
  spaced := List.pairwise_append.mpr ⟨h.spaced, List.pairwise_singleton _ _, fun p hp q' hq' ↦
    List.mem_singleton.mp hq' ▸ fun hpo ho ↦ (hopens ho p hp).2 hpo⟩
  bounded := by
    intro part hpart hone
    rcases List.infix_concat_iff.mp hpart with hsuffix | hinfix
    · rcases List.suffix_concat_iff.mp hsuffix with rfl | ⟨rest, rfl, hrest⟩
      · exact Nat.zero_le m
      · exact hbounded rest hrest hone
    · exact h.bounded part hinfix hone

omit [AddCommGroup τ] in
/-- Questions in the order of their times, from one on that is not too early: those that are not too
late come first. -/
theorem filter_upTo {qs : List (Question τ)} {lo hi : τ}
    (h : qs.Pairwise (·.time ≤ ·.time)) (hlo : ∀ q ∈ qs, lo ≤ q.time) :
    qs.filter (fun q ↦ decide (lo ≤ q.time ∧ q.time ≤ hi)) <+: qs := by
  induction qs with
  | nil => exact List.prefix_rfl
  | cons q qs ih =>
    obtain ⟨hq, hqs⟩ := List.pairwise_cons.mp h
    rw [List.forall_mem_cons] at hlo
    by_cases hhi : q.time ≤ hi
    · rw [List.filter_cons_of_pos (by simpa using ⟨hlo.1, hhi⟩)]
      exact List.cons_prefix_cons.mpr ⟨rfl, ih hqs hlo.2⟩
    · have hlate : ∀ p ∈ q :: qs, ¬p.time ≤ hi := by
        rw [List.forall_mem_cons]
        exact ⟨hhi, fun p hp ↦ not_le.mpr ((not_le.mp hhi).trans_le (hq p hp))⟩
      have hnone : (q :: qs).filter (fun q ↦ decide (lo ≤ q.time ∧ q.time ≤ hi)) = [] :=
        List.filter_eq_nil_iff.mpr fun p hp ↦ by simpa using fun _ ↦ not_le.mp (hlate p hp)
      rw [hnone]
      exact List.nil_prefix

omit [AddCommGroup τ] in
/-- Questions in the order of their times: those of an interval follow each other. -/
theorem filter_window {qs : List (Question τ)} (h : qs.Pairwise (·.time ≤ ·.time)) (lo hi : τ) :
    qs.filter (fun q ↦ decide (lo ≤ q.time ∧ q.time ≤ hi)) <:+: qs := by
  induction qs with
  | nil => exact List.infix_rfl
  | cons q qs ih =>
    obtain ⟨hq, hqs⟩ := List.pairwise_cons.mp h
    by_cases hlo : lo ≤ q.time
    · refine (filter_upTo h ?_).isInfix
      rw [List.forall_mem_cons]
      exact ⟨hlo, fun p hp ↦ hlo.trans (hq p hp)⟩
    · rw [List.filter_cons_of_neg (by simpa using fun h ↦ absurd h hlo)]
      exact (ih hqs).trans (List.suffix_cons q qs).isInfix

variable [IsOrderedAddMonoid τ]

/-- **Two windows.** In an interval that is as long as a window at most two windows say yes. -/
theorem Windowed.countP_le {d : τ} {m : ℕ} {qs : List (Question τ)} (h : Windowed d m qs) (t : τ) :
    qs.countP (fun q ↦ q.allowed && decide (t ≤ q.time ∧ q.time ≤ t + d)) ≤ 2 * m := by
  have hcount : qs.countP (fun q ↦ q.allowed && decide (t ≤ q.time ∧ q.time ≤ t + d)) =
      (qs.filter fun q ↦ decide (t ≤ q.time ∧ q.time ≤ t + d)).countP (·.allowed) := by
    rw [List.countP_filter]
  rw [hcount]
  have hmem : ∀ q ∈ qs.filter fun q ↦ decide (t ≤ q.time ∧ q.time ≤ t + d),
      t ≤ q.time ∧ q.time ≤ t + d := fun q hq ↦ by simpa using (List.mem_filter.mp hq).2
  have hpart := h.infix (filter_window h.sorted t (t + d))
  generalize qs.filter (fun q ↦ decide (t ≤ q.time ∧ q.time ≤ t + d)) = part at hmem hpart
  rcases part with _ | ⟨q, qs⟩
  · exact Nat.zero_le _
  obtain ⟨first, rest, heq, hfirst, hopens⟩ := exists_split q qs
  rw [heq] at hmem hpart ⊢
  rw [List.countP_append, Nat.two_mul]
  refine Nat.add_le_add (hpart.bounded _ (List.prefix_append _ _).isInfix hfirst)
    (hpart.bounded _ (List.suffix_append _ _).isInfix ?_)
  rcases rest with _ | ⟨o, rest⟩
  · exact fun _ h ↦ absurd h List.not_mem_nil
  · -- a third window would begin after the interval
    intro p hp
    by_contra hnot
    rw [Bool.not_eq_false] at hnot
    have ho : o.opens = true := hopens o rfl
    have hqo : q.time < o.time :=
      (List.pairwise_append.mp hpart.later).2.2 q List.mem_cons_self o List.mem_cons_self ho
    have hop : o.time + d ≤ p.time :=
      (List.pairwise_cons.mp (List.pairwise_append.mp hpart.spaced).2.1).1 p hp ho hnot
    have hq := (hmem q (List.mem_append_left _ List.mem_cons_self)).1
    have hlast := (hmem p (List.mem_append_right _ (List.mem_cons_of_mem o hp))).2
    have hlt : t + d < o.time + d := add_lt_add_left (hq.trans_lt hqo) d
    exact absurd (hlt.trans_le (hop.trans hlast)) (lt_irrefl _)

end Question

end Foundation
