import LanProxyGateway.Foundation.Trace
import Mathlib.Data.List.TakeWhile
import Mathlib.Logic.Function.Iterate
import Mathlib.Order.Nat

/-!
# Waiting lines with precedence

Entrants wait in a line, some of them with precedence over the others: who enters with precedence
goes behind the last of its kind, everybody else to the end. Whoever leaves has been served from the
front, or has been dropped, from anywhere in the line.

Each entrant draws a number when it enters. `Line.Orderly` is what is known of such a line in terms
of these numbers: nobody is lost and nobody is there twice, the line is sorted by precedence and
then by number, and whoever is served finds everybody of its kind with a smaller number gone. It is
kept by the three ways in which a line changes.
-/

namespace Foundation

variable {α : Type}

/-- An entrant with its number. -/
structure Ticket (α : Type) where
  number : ℕ
  item : α

/-- How one leaves a line. -/
inductive Departure
  | served
  | dropped
  deriving DecidableEq, Repr

/-- Everybody who has entered a line, in the order of their numbers; those who wait, from the front
to the end; and those who have left, in the order in which they did. -/
structure Line (α : Type) where
  entered : List (Ticket α) := []
  waiting : List (Ticket α) := []
  left : List (Ticket α × Departure) := []

namespace Line

/-! ## How a line changes -/

/-- Somebody enters. -/
def enter (first : α → Bool) (l : Line α) (a : α) : Line α :=
  let t : Ticket α := ⟨l.entered.length, a⟩
  { l with
    entered := l.entered ++ [t]
    waiting :=
      if first a then
        l.waiting.takeWhile (first ·.item) ++ t :: l.waiting.dropWhile (first ·.item)
      else l.waiting ++ [t] }

/-- The one in front is served. -/
def serve (l : Line α) : Line α :=
  match l.waiting with
  | [] => l
  | t :: rest => { l with waiting := rest, left := l.left ++ [(t, .served)] }

/-- Some are dropped. -/
def drop (p : α → Bool) (l : Line α) : Line α :=
  { l with
    waiting := l.waiting.filter (!p ·.item)
    left := l.left ++ (l.waiting.filter (p ·.item)).map (·, .dropped) }

@[simp] theorem entered_serve (l : Line α) : l.serve.entered = l.entered := by
  rw [serve]
  split <;> rfl

@[simp] theorem waiting_serve (l : Line α) : l.serve.waiting = l.waiting.tail := by
  rw [serve]
  split
  · rename_i h
    rw [h, List.tail_nil]
  · rename_i h
    rw [h, List.tail_cons]

theorem waiting_serve_iterate (l : Line α) (n : ℕ) : (serve^[n] l).waiting = l.waiting.drop n := by
  induction n generalizing l with
  | zero => rfl
  | succ n ih => rw [Function.iterate_succ_apply, ih, waiting_serve, List.drop_tail]

/-- The items that wait. -/
def items (l : Line α) : List α := l.waiting.map (·.item)

/-- The items that have left in one of the two ways. -/
def gone (how : Departure) (l : Line α) : List α :=
  (l.left.filter fun x ↦ decide (x.2 = how)).map (·.1.item)

theorem items_enter (first : α → Bool) (l : Line α) (a : α) : (l.enter first a).items =
    if first a then l.items.takeWhile first ++ a :: l.items.dropWhile first
    else l.items ++ [a] := by
  rw [enter, items, items]
  split
  · rw [List.map_append, List.map_cons, List.takeWhile_map, List.dropWhile_map]
    rfl
  · exact List.map_append

theorem items_serve_iterate (l : Line α) (n : ℕ) : (serve^[n] l).items = l.items.drop n := by
  rw [items, waiting_serve_iterate, List.map_drop]
  rfl

theorem items_drop (p : α → Bool) (l : Line α) : (l.drop p).items = l.items.filter (!p ·) := by
  rw [items, drop, items, List.filter_map]
  rfl

theorem gone_of_left {l l' : Line α} {xs : List (Ticket α × Departure)}
    (h : l'.left = l.left ++ xs) (how : Departure) :
    l'.gone how = l.gone how ++ (xs.filter fun x ↦ decide (x.2 = how)).map (·.1.item) := by
  rw [gone, h, List.filter_append, List.map_append]
  rfl

theorem gone_serve_iterate (l : Line α) (n : ℕ) :
    (serve^[n] l).gone .served = l.gone .served ++ l.items.take n ∧
      (serve^[n] l).gone .dropped = l.gone .dropped := by
  induction n generalizing l with
  | zero => exact ⟨(List.append_nil _).symm, rfl⟩
  | succ n ih =>
    rw [Function.iterate_succ_apply, (ih l.serve).1, (ih l.serve).2]
    rcases hwaiting : l.waiting with _ | ⟨t, rest⟩
    · have hserve : l.serve = l := by rw [serve, hwaiting]
      rw [hserve, items, hwaiting, List.map_nil, List.take_nil, List.take_nil]
      exact ⟨rfl, rfl⟩
    · have hserve : l.serve = { l with waiting := rest, left := l.left ++ [(t, .served)] } := by
        rw [serve, hwaiting]
      have hleft : l.serve.left = l.left ++ [(t, .served)] := by rw [hserve]
      have hitems : l.items = t.item :: l.serve.items := by
        rw [items, hwaiting, hserve]
        rfl
      rw [gone_of_left hleft, gone_of_left hleft, hitems, List.take_succ_cons, List.append_assoc]
      exact ⟨rfl, List.append_nil _⟩

theorem gone_drop (p : α → Bool) (l : Line α) :
    (l.drop p).gone .dropped = l.gone .dropped ++ l.items.filter p ∧
      (l.drop p).gone .served = l.gone .served := by
  have hleft : (l.drop p).left =
      l.left ++ (l.waiting.filter (p ·.item)).map (·, .dropped) := rfl
  have hdropped : ((l.waiting.filter (p ·.item)).map (·, Departure.dropped)).filter
      (fun x ↦ decide (x.2 = .dropped)) = (l.waiting.filter (p ·.item)).map (·, .dropped) :=
    List.filter_eq_self.mpr (List.forall_mem_map.mpr fun _ _ ↦ rfl)
  have hserved : ((l.waiting.filter (p ·.item)).map (·, Departure.dropped)).filter
      (fun x ↦ decide (x.2 = .served)) = [] :=
    List.filter_eq_nil_iff.mpr (List.forall_mem_map.mpr fun _ _ ↦ Bool.false_ne_true)
  rw [gone_of_left hleft, gone_of_left hleft, hdropped, hserved, List.map_map, items,
    List.filter_map]
  exact ⟨rfl, List.append_nil _⟩

/-! ## Order -/

variable (first : α → Bool)

/-- `s` may wait in front of `t`. -/
structure Ahead (s t : Ticket α) : Prop where
  precedence : first t.item = true → first s.item = true
  number : first s.item = first t.item → s.number < t.number

/-- Nobody is lost, the line is sorted, and nobody is served before an earlier one of its kind. -/
structure Orderly (l : Line α) : Prop where
  number_lt : ∀ t ∈ l.entered, t.number < l.entered.length
  arrival : l.entered.Pairwise fun s t ↦ s.number < t.number
  conserved : (l.left.map Prod.fst ++ l.waiting).Perm l.entered
  sorted : l.waiting.Pairwise (Ahead first)
  fair : ∀ s ∈ l.entered, Preceded
    (fun x : Ticket α × Departure ↦ x.2 = .served ∧ first x.1.item = first s.item ∧
      s.number < x.1.number)
    (fun y _ ↦ y.1 = s) l.left

variable {first} {l : Line α}

theorem orderly_empty : Orderly first ({} : Line α) where
  number_lt _ ht := absurd ht List.not_mem_nil
  arrival := .nil
  conserved := .refl _
  sorted := .nil
  fair _ hs := absurd hs List.not_mem_nil

theorem Orderly.mem_entered (h : l.Orderly first) {t : Ticket α} (ht : t ∈ l.waiting) :
    t ∈ l.entered := h.conserved.mem_iff.mp (List.mem_append_right _ ht)

theorem Orderly.mem_entered_of_left (h : l.Orderly first) {x : Ticket α × Departure}
    (hx : x ∈ l.left) : x.1 ∈ l.entered :=
  h.conserved.mem_iff.mp (List.mem_append_left _ (List.mem_map_of_mem hx))

/-- Behind the last with precedence there is nobody with precedence. -/
theorem not_first_of_mem_dropWhile {ts : List (Ticket α)} (h : ts.Pairwise (Ahead first))
    {t : Ticket α} (ht : t ∈ ts.dropWhile (first ·.item)) : first t.item = false := by
  induction ts with
  | nil => exact absurd ht List.not_mem_nil
  | cons s ts ih =>
    rw [List.pairwise_cons] at h
    rcases hs : first s.item with _ | _
    · rw [List.dropWhile_cons, if_neg (by rw [hs]; exact Bool.false_ne_true)] at ht
      rcases List.mem_cons.mp ht with rfl | ht
      · exact hs
      · by_contra hfirst
        rw [Bool.not_eq_false] at hfirst
        exact absurd (hs.symm.trans ((h.1 t ht).precedence hfirst)) Bool.false_ne_true
    · rw [List.dropWhile_cons, if_pos hs] at ht
      exact ih h.2 ht

theorem Orderly.enter (h : l.Orderly first) (a : α) : (l.enter first a).Orderly first := by
  have hlt : ∀ t ∈ l.waiting, t.number < l.entered.length :=
    fun t ht ↦ h.number_lt t (h.mem_entered ht)
  refine ⟨?_, ?_, ?_, ?_, ?_⟩
  · intro t ht
    have hlength : (l.enter first a).entered.length = l.entered.length + 1 := List.length_append
    rw [hlength]
    rcases List.mem_append.mp ht with ht | ht
    · exact (h.number_lt t ht).trans (Nat.lt_succ_self _)
    · rw [List.mem_singleton.mp ht]
      exact Nat.lt_succ_self _
  · refine List.pairwise_append.mpr ⟨h.arrival, List.pairwise_singleton _ _, ?_⟩
    intro s hs t ht
    rw [List.mem_singleton.mp ht]
    exact h.number_lt s hs
  · have hwaiting : (l.enter first a).waiting.Perm (l.waiting ++ [⟨l.entered.length, a⟩]) := by
      rw [Line.enter]
      split
      · refine List.perm_middle.trans ?_
        rw [List.takeWhile_append_dropWhile]
        exact (List.perm_append_singleton _ _).symm
      · exact .refl _
    refine (hwaiting.append_left _).trans ?_
    rw [← List.append_assoc]
    exact h.conserved.append_right _
  · rw [Line.enter]
    rcases ha : first a with _ | _
    · rw [if_neg Bool.false_ne_true]
      refine List.pairwise_append.mpr ⟨h.sorted, List.pairwise_singleton _ _, ?_⟩
      intro s hs t ht
      rw [List.mem_singleton.mp ht]
      exact ⟨fun hfirst ↦ absurd (hfirst.symm.trans ha) Bool.true_eq_false.mp, fun _ ↦ hlt s hs⟩
    · rw [if_pos rfl]
      have hparts := h.sorted
      rw [← @List.takeWhile_append_dropWhile _ (first ·.item) l.waiting,
        List.pairwise_append] at hparts
      refine List.pairwise_append.mpr ⟨hparts.1, List.pairwise_cons.mpr ⟨?_, hparts.2.1⟩, ?_⟩
      · intro t ht
        have hnot := not_first_of_mem_dropWhile h.sorted ht
        refine ⟨fun _ ↦ ha, fun hsame ↦ ?_⟩
        rw [ha, hnot] at hsame
        cases hsame
      · intro s hs t ht
        rcases List.mem_cons.mp ht with rfl | ht
        · have hfirst : first s.item = true :=
            List.mem_takeWhile_imp (p := fun t : Ticket α ↦ first t.item) hs
          exact ⟨fun _ ↦ hfirst, fun _ ↦ hlt s ((List.takeWhile_prefix _).mem hs)⟩
        · exact hparts.2.2 s hs t ht
  · intro s hs
    rcases List.mem_append.mp hs with hs | hs
    · exact h.fair s hs
    · -- nobody who has left has a greater number
      obtain rfl := List.mem_singleton.mp hs
      rintro pre x post hl ⟨-, -, hnumber⟩
      have hx : x ∈ l.left := hl ▸ List.mem_append_right _ List.mem_cons_self
      exact absurd hnumber (h.number_lt x.1 (h.mem_entered_of_left hx)).not_gt

theorem Orderly.serve (h : l.Orderly first) : l.serve.Orderly first := by
  rw [Line.serve]
  split
  · exact h
  rename_i t rest hwaiting
  have hsorted := h.sorted
  rw [hwaiting, List.pairwise_cons] at hsorted
  refine ⟨h.number_lt, h.arrival, ?_, hsorted.2, ?_⟩
  · have hconserved := h.conserved
    rw [hwaiting, List.append_cons] at hconserved
    rw [List.map_append]
    exact hconserved
  · intro s hs
    rw [preceded_concat_iff]
    refine ⟨h.fair s hs, ?_⟩
    rintro ⟨-, hsame, hnumber⟩
    -- whoever of the same kind still waits has a greater number
    rcases List.mem_append.mp (h.conserved.mem_iff.mpr hs) with hleft | hstill
    · obtain ⟨y, hy, rfl⟩ := List.mem_map.mp hleft
      exact ⟨y, hy, rfl⟩
    · rw [hwaiting] at hstill
      rcases List.mem_cons.mp hstill with rfl | hrest
      · exact absurd hnumber (lt_irrefl _)
      · exact absurd hnumber ((hsorted.1 s hrest).number hsame).not_gt

theorem Orderly.serve_iterate (h : l.Orderly first) (n : ℕ) : (Line.serve^[n] l).Orderly first := by
  induction n generalizing l with
  | zero => exact h
  | succ n ih => exact ih h.serve

theorem Orderly.drop (h : l.Orderly first) (p : α → Bool) : (l.drop p).Orderly first := by
  refine ⟨h.number_lt, h.arrival, ?_, h.sorted.sublist List.filter_sublist, ?_⟩
  · refine .trans ?_ h.conserved
    rw [Line.drop, List.map_append, List.map_map, List.append_assoc]
    refine List.Perm.append_left _ ?_
    exact (List.map_id _).symm ▸ List.filter_append_perm (p ·.item) l.waiting
  · intro s hs
    refine (h.fair s hs).append fun x hx ↦ ?_
    rintro ⟨hserved, -⟩
    obtain ⟨t, -, rfl⟩ := List.mem_map.mp hx
    cases hserved

/-- The line is those with precedence and then the others, each by their numbers. -/
theorem Orderly.waiting_eq (h : l.Orderly first) :
    l.waiting = l.waiting.filter (first ·.item) ++ l.waiting.filter (!first ·.item) ∧
      (l.waiting.filter (first ·.item)).Pairwise (fun s t ↦ s.number < t.number) ∧
      (l.waiting.filter (!first ·.item)).Pairwise fun s t ↦ s.number < t.number := by
  have hsplit : ∀ ts : List (Ticket α), ts.Pairwise (Ahead first) →
      ts = ts.filter (first ·.item) ++ ts.filter (!first ·.item) := by
    intro ts
    induction ts with
    | nil => exact fun _ ↦ rfl
    | cons t ts ih =>
      intro hts
      rw [List.pairwise_cons] at hts
      rcases ht : first t.item with _ | _
      · -- nobody behind it has precedence
        have hnone : ts.filter (first ·.item) = [] := by
          rw [List.filter_eq_nil_iff]
          intro s hs hfirst
          exact absurd (ht.symm.trans ((hts.1 s hs).precedence hfirst)) Bool.false_ne_true
        have hrest := ih hts.2
        rw [hnone, List.nil_append] at hrest
        rw [List.filter_cons, List.filter_cons, ht, hnone, if_neg Bool.false_ne_true,
          Bool.not_false, if_pos rfl, ← hrest, List.nil_append]
      · rw [List.filter_cons, List.filter_cons, ht, if_pos rfl, Bool.not_true,
          if_neg Bool.false_ne_true, List.cons_append, ← ih hts.2]
  have hsame : ∀ b : Bool, (l.waiting.filter (first ·.item == b)).Pairwise
      fun s t ↦ s.number < t.number := by
    intro b
    refine (h.sorted.sublist List.filter_sublist).imp_of_mem fun hs ht hahead ↦ ?_
    have hsb := beq_iff_eq.mp (List.mem_filter.mp hs).2
    have htb := beq_iff_eq.mp (List.mem_filter.mp ht).2
    exact hahead.number (hsb.trans htb.symm)
  refine ⟨hsplit _ h.sorted, ?_, ?_⟩
  · simpa using hsame true
  · simpa using hsame false

end Line

end Foundation
