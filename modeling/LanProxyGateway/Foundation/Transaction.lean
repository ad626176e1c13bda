import LanProxyGateway.Foundation.Run
import Mathlib.Data.List.Nodup
import Mathlib.Logic.Function.Basic

/-!
# Requests in several critical sections

A request changes a shared state in up to four steps, each of them atomic, but not all of them
together: it *checks* whether it may, *changes* the state, waits for the change to be *saved*, and
takes it *back* where the save failed. Between its steps other requests take theirs.

`execute` is one request alone, `serially` several one after the other, and `concurrently` is the
step function of any interleaving. What an interleaving can do that no order of the requests does
comes from two things: a change is made on the strength of a check that no longer holds, or
something happens while a change is there that will be taken back. `Undisturbed` excludes the two,
and then every interleaving comes out like some order (`exists_serially_of_undisturbed`).

The invariant of the proof names that order: a request has its place in it as soon as what it does
is final, and `base` is the state that the requests placed so far lead to.
-/

namespace Foundation

/-- A request, together with the outcome of its save. -/
structure Transaction (σ α υ ρ : Type) where
  /-- The result of a refusal, or an answer to make the change from. -/
  check : σ → Except ρ α
  /-- The changed state, and what is kept in order to take the change back. -/
  change : α → σ → Except ρ (σ × υ)
  /-- The save fails, and the change is taken back. -/
  fails : Bool
  undo : α → υ → σ → σ
  /-- The result once the change was made. -/
  result : α → ρ

namespace Transaction

variable {σ α υ ρ ι : Type}

/-- How far a request has got. -/
inductive Phase (α υ ρ : Type)
  | waiting
  | checked (a : α)
  | changed (a : α) (u : υ)
  | failed (a : α) (u : υ)
  | done (r : ρ)

/-- The next critical section of a request. -/
def advance (T : Transaction σ α υ ρ) : Phase α υ ρ → σ → Phase α υ ρ × σ
  | .waiting, s =>
    match T.check s with
    | .error r => (.done r, s)
    | .ok a => (.checked a, s)
  | .checked a, s =>
    match T.change a s with
    | .error r => (.done r, s)
    | .ok (s', u) => (.changed a u, s')
  | .changed a u, s => if T.fails then (.failed a u, s) else (.done (T.result a), s)
  | .failed a u, s => (.done (T.result a), T.undo a u s)
  | .done r, s => (.done r, s)

/-- All critical sections of a request, with nothing in between. -/
def execute (T : Transaction σ α υ ρ) (s : σ) : σ × ρ :=
  match T.check s with
  | .error r => (s, r)
  | .ok a =>
    match T.change a s with
    | .error r => (s, r)
    | .ok (s', u) => (if T.fails then T.undo a u s' else s', T.result a)

/-- Requests one after the other: the state at the end, and the results. -/
def serially (T : ι → Transaction σ α υ ρ) : List ι → σ → σ × List (ι × ρ)
  | [], s => (s, [])
  | i :: is, s =>
    let (s', r) := execute (T i) s
    let (t, rs) := serially T is s'
    (t, (i, r) :: rs)

/-- The shared state, and how far each request has got. -/
structure World (ι σ α υ ρ : Type) where
  shared : σ
  phase : ι → Phase α υ ρ

/-- The start of all requests. -/
def World.start (s : σ) : World ι σ α υ ρ := ⟨s, fun _ ↦ .waiting⟩

/-- The request `i` has got to `p` and leaves the shared state behind. -/
def World.move [DecidableEq ι] (w : World ι σ α υ ρ) (i : ι) (step : Phase α υ ρ × σ) :
    World ι σ α υ ρ :=
  ⟨step.2, Function.update w.phase i step.1⟩

/-- The request `i` takes its next step. -/
def concurrently [DecidableEq ι] (T : ι → Transaction σ α υ ρ) (w : World ι σ α υ ρ) (i : ι) :
    Except Empty (World ι σ α υ ρ) :=
  .ok (w.move i ((T i).advance (w.phase i) w.shared))

/-- A change has been made that will be taken back. -/
def Pending (T : Transaction σ α υ ρ) : Phase α υ ρ → Prop
  | .changed _ _ => T.fails
  | .failed _ _ => True
  | _ => False

/-- A request is refused only when no change is pending, and it makes its change only when no other
one is pending and its check would still give the same answer. -/
def Undisturbed (T : ι → Transaction σ α υ ρ) (w : World ι σ α υ ρ) (i : ι) : Prop :=
  match w.phase i with
  | .waiting => (∃ r, (T i).check w.shared = .error r) → ∀ j, ¬Pending (T j) (w.phase j)
  | .checked a => (∀ j, ¬Pending (T j) (w.phase j)) ∧ (T i).check w.shared = .ok a
  | _ => True

theorem along_concurrently_cons_iff [DecidableEq ι] {T : ι → Transaction σ α υ ρ}
    {C : World ι σ α υ ρ → ι → Prop} {w : World ι σ α υ ρ} {i : ι} {is : List ι} :
    Along (concurrently T) C w (i :: is) ↔
      C w i ∧ Along (concurrently T) C (w.move i ((T i).advance (w.phase i) w.shared)) is := by
  rw [along_cons_iff]
  refine and_congr_right fun _ ↦ ⟨fun h ↦ h _ rfl, fun h w' hw' ↦ ?_⟩
  rwa [← Except.ok.inj hw']

/-! ## One request alone -/

theorem execute_of_refused {T : Transaction σ α υ ρ} {s : σ} {r : ρ} (h : T.check s = .error r) :
    execute T s = (s, r) := by
  rw [execute, h]

theorem execute_of_not_changed {T : Transaction σ α υ ρ} {s : σ} {a : α} {r : ρ}
    (hcheck : T.check s = .ok a) (h : T.change a s = .error r) : execute T s = (s, r) := by
  rw [execute, hcheck]
  simp only [h]

theorem execute_of_changed {T : Transaction σ α υ ρ} {s s' : σ} {a : α} {u : υ}
    (hcheck : T.check s = .ok a) (h : T.change a s = .ok (s', u)) :
    execute T s = (if T.fails then T.undo a u s' else s', T.result a) := by
  rw [execute, hcheck]
  simp only [h]

/-- **The invariant rule of a request.** What its change keeps, and taking the change back, holds
after it. -/
theorem execute_induction {T : Transaction σ α υ ρ} {I : σ → Prop} {s : σ} (hs : I s)
    (hchange : ∀ a s' u, T.check s = .ok a → T.change a s = .ok (s', u) → I s' ∧
      I (T.undo a u s')) :
    I (execute T s).1 := by
  rcases hcheck : T.check s with r | a
  · rwa [execute_of_refused hcheck]
  · rcases hc : T.change a s with r | ⟨s', u⟩
    · rwa [execute_of_not_changed hcheck hc]
    · obtain ⟨hkept, hundone⟩ := hchange a s' u hcheck hc
      rw [execute_of_changed hcheck hc]
      split
      · exact hundone
      · exact hkept

/-- What every request keeps, every order of them keeps. -/
theorem serially_induction {T : ι → Transaction σ α υ ρ} {I : σ → Prop}
    (hT : ∀ i s, I s → I (execute (T i) s).1) (is : List ι) {s : σ} (hs : I s) :
    I (serially T is s).1 := by
  induction is generalizing s with
  | nil => exact hs
  | cons i is ih => exact ih (hT i s hs)

theorem serially_concat (T : ι → Transaction σ α υ ρ) (is : List ι) (i : ι) (s : σ) :
    serially T (is ++ [i]) s = ((execute (T i) (serially T is s).1).1,
      (serially T is s).2 ++ [(i, (execute (T i) (serially T is s).1).2)]) := by
  induction is generalizing s with
  | nil => rfl
  | cons j is ih =>
    rw [List.cons_append, serially, serially]
    simp only [ih]
    rfl

/-- Every request has one result. -/
theorem map_fst_serially (T : ι → Transaction σ α υ ρ) (is : List ι) (s : σ) :
    (serially T is s).2.map Prod.fst = is := by
  induction is generalizing s with
  | nil => rfl
  | cons j is ih =>
    rw [serially]
    simp only [List.map_cons, ih]

/-! ## The order behind an interleaving -/

/-- What the request does is final, and its result will be `r`. -/
def Settled (T : Transaction σ α υ ρ) (p : Phase α υ ρ) (r : ρ) : Prop :=
  p = .done r ∨ ∃ a u, p = .changed a u ∧ T.fails = false ∧ r = T.result a

/-- The request has done nothing that stays. -/
def Open (T : Transaction σ α υ ρ) (p : Phase α υ ρ) : Prop :=
  p = .waiting ∨ (∃ a, p = .checked a) ∨ Pending T p

/-- The change that `i` made to the base is pending, and no other one is. -/
structure PendingOn (T : ι → Transaction σ α υ ρ) (w : World ι σ α υ ρ) (base : σ) (i : ι) (a : α)
    (u : υ) : Prop where
  phase : w.phase i = .changed a u ∨ w.phase i = .failed a u
  fails : (T i).fails = true
  check : (T i).check base = .ok a
  change : (T i).change a base = .ok (w.shared, u)
  others : ∀ j, j ≠ i → ¬Pending (T j) (w.phase j)

/-- The shared state is the base, but for a change that is pending. -/
def Behind (T : ι → Transaction σ α υ ρ) (w : World ι σ α υ ρ) (base : σ) : Prop :=
  ((∀ j, ¬Pending (T j) (w.phase j)) ∧ w.shared = base) ∨ ∃ i a u, PendingOn T w base i a u

/-- The requests in `order` are settled, as if they had been executed in this order. -/
structure Linear (T : ι → Transaction σ α υ ρ) (s : σ) (w : World ι σ α υ ρ) (order : List ι) :
    Prop where
  nodup : order.Nodup
  settled : ∀ e ∈ (serially T order s).2, Settled (T e.1) (w.phase e.1) e.2
  notSettled : ∀ i ∉ order, Open (T i) (w.phase i)
  behind : Behind T w (serially T order s).1

variable {T : ι → Transaction σ α υ ρ} {s : σ} {w : World ι σ α υ ρ} {order : List ι}

@[simp] theorem World.move_shared [DecidableEq ι] (i : ι) (step : Phase α υ ρ × σ) :
    (w.move i step).shared = step.2 := rfl

@[simp] theorem World.move_phase_self [DecidableEq ι] (i : ι) (step : Phase α υ ρ × σ) :
    (w.move i step).phase i = step.1 := by
  simp [World.move]

theorem World.move_phase_of_ne [DecidableEq ι] {i j : ι} (h : j ≠ i) (step : Phase α υ ρ × σ) :
    (w.move i step).phase j = w.phase j := by
  simp [World.move, h]

theorem linear_start : Linear T s (World.start s) [] where
  nodup := List.nodup_nil
  settled := fun _ he ↦ absurd he List.not_mem_nil
  notSettled := fun _ _ ↦ .inl rfl
  behind := .inl ⟨fun _ h ↦ h, rfl⟩

theorem PendingOn.pending {base : σ} {i : ι} {a : α} {u : υ} (h : PendingOn T w base i a u) :
    Pending (T i) (w.phase i) := by
  rcases h.phase with hphase | hphase
  · rw [hphase]
    exact h.fails
  · rw [hphase]
    trivial

/-- A request that has its place in the order is settled. -/
theorem Linear.exists_settled (h : Linear T s w order) {i : ι} (hi : i ∈ order) :
    ∃ r, Settled (T i) (w.phase i) r := by
  rw [← map_fst_serially T order s] at hi
  obtain ⟨e, he, rfl⟩ := List.mem_map.mp hi
  exact ⟨e.2, h.settled e he⟩

/-- A request that is open has no place in it yet. -/
theorem Linear.notMem_of_phase (h : Linear T s w order) {i : ι}
    (hi : ∀ r, ¬Settled (T i) (w.phase i) r) : i ∉ order := by
  intro hmem
  obtain ⟨r, hr⟩ := h.exists_settled hmem
  exact hi r hr

theorem Linear.shared_eq (h : Linear T s w order) (hno : ∀ j, ¬Pending (T j) (w.phase j)) :
    w.shared = (serially T order s).1 := by
  rcases h.behind with ⟨-, hshared⟩ | ⟨i, a, u, hon⟩
  · exact hshared
  · exact absurd hon.pending (hno i)

/-- The one change that is pending. -/
theorem Linear.pendingOn (h : Linear T s w order) {i : ι} (hi : Pending (T i) (w.phase i)) :
    ∃ a u, PendingOn T w (serially T order s).1 i a u := by
  rcases h.behind with ⟨hno, -⟩ | ⟨j, a, u, hon⟩
  · exact absurd hi (hno i)
  · by_cases hij : i = j
    · rw [hij]
      exact ⟨a, u, hon⟩
    · exact absurd hi (hon.others i hij)

section

variable [DecidableEq ι] {i : ι} {p : Phase α υ ρ} {s' : σ}

/-- Nothing is pending when `i` has nothing pending and nobody else has. -/
theorem not_pending_move (hp : ¬Pending (T i) p)
    (hothers : ∀ j, j ≠ i → ¬Pending (T j) (w.phase j)) (j : ι) :
    ¬Pending (T j) ((w.move i (p, s')).phase j) := by
  by_cases hj : j = i
  · rw [hj, World.move_phase_self]
    exact hp
  · rw [World.move_phase_of_ne hj]
    exact hothers j hj

/-- The request `i` settles: it takes the next place. -/
theorem Linear.settle (h : Linear T s w order) (hi : i ∉ order) {r : ρ}
    (hexec : execute (T i) (serially T order s).1 = (s', r)) (hp : Settled (T i) p r)
    (hpending : ¬Pending (T i) p) (hothers : ∀ j, j ≠ i → ¬Pending (T j) (w.phase j)) :
    Linear T s (w.move i (p, s')) (order ++ [i]) := by
  constructor
  · rw [List.nodup_append_comm]
    exact List.nodup_cons.mpr ⟨hi, h.nodup⟩
  · intro e he
    rw [serially_concat, hexec, List.mem_append, List.mem_singleton] at he
    rcases he with he | rfl
    · have hne : e.1 ≠ i := by
        rintro rfl
        apply hi
        rw [← map_fst_serially T order s]
        exact List.mem_map_of_mem he
      rw [World.move_phase_of_ne hne]
      exact h.settled e he
    · rw [World.move_phase_self]
      exact hp
  · intro j hj
    rw [List.mem_append, List.mem_singleton, not_or] at hj
    rw [World.move_phase_of_ne hj.2]
    exact h.notSettled j hj.1
  · rw [serially_concat, hexec]
    exact .inl ⟨not_pending_move hpending hothers, rfl⟩

/-- The request `i` takes a step that leaves its place as it is. -/
theorem Linear.stay (h : Linear T s w order)
    (hsettled : ∀ r, Settled (T i) (w.phase i) r → Settled (T i) p r)
    (hopen : Open (T i) (w.phase i) → Open (T i) p)
    (hbehind : Behind T (w.move i (p, s')) (serially T order s).1) :
    Linear T s (w.move i (p, s')) order := by
  constructor
  · exact h.nodup
  · intro e he
    by_cases hei : e.1 = i
    · have hold := h.settled e he
      rw [hei] at hold ⊢
      rw [World.move_phase_self]
      exact hsettled e.2 hold
    · rw [World.move_phase_of_ne hei]
      exact h.settled e he
  · intro j hj
    by_cases hji : j = i
    · have hold := h.notSettled j hj
      rw [hji] at hold ⊢
      rw [World.move_phase_self]
      exact hopen hold
    · rw [World.move_phase_of_ne hji]
      exact h.notSettled j hj
  · exact hbehind

/-- A step that leaves the shared state alone and has nothing pending before or after it. -/
theorem Behind.move {base : σ} (h : Behind T w base) (hold : ¬Pending (T i) (w.phase i))
    (hnew : ¬Pending (T i) p) : Behind T (w.move i (p, w.shared)) base := by
  rcases h with ⟨hno, hshared⟩ | ⟨j, a, u, hon⟩
  · exact .inl ⟨not_pending_move hnew fun j _ ↦ hno j, hshared⟩
  · -- what is pending belongs to another request
    have hji : j ≠ i := by
      rintro rfl
      exact hold hon.pending
    refine .inr ⟨j, a, u, ?_, hon.fails, hon.check, hon.change, fun k hk ↦ ?_⟩
    · rw [World.move_phase_of_ne hji]
      exact hon.phase
    · by_cases hki : k = i
      · rw [hki, World.move_phase_self]
        exact hnew
      · rw [World.move_phase_of_ne hki]
        exact hon.others k hk

/-- A waiting request makes its check. -/
theorem Linear.check (h : Linear T s w order) (hphase : w.phase i = .waiting)
    (hno : (∃ r, (T i).check w.shared = .error r) → ∀ j, ¬Pending (T j) (w.phase j)) :
    ∃ order, Linear T s (w.move i ((T i).advance (w.phase i) w.shared)) order := by
  rw [hphase, advance]
  split
  · rename_i r hcheck
    have hno := hno ⟨r, hcheck⟩
    refine ⟨order ++ [i], h.settle (h.notMem_of_phase ?_) ?_ (.inl rfl) id fun j _ ↦ hno j⟩
    · rintro r' (hr | ⟨a, u, hr, -⟩)
      · cases hphase.symm.trans hr
      · cases hphase.symm.trans hr
    · rw [← h.shared_eq hno]
      exact execute_of_refused hcheck
  · rename_i a hcheck
    refine ⟨order, h.stay ?_ (fun _ ↦ .inr (.inl ⟨a, rfl⟩)) (h.behind.move ?_ id)⟩
    · rintro r' (hr | ⟨a, u, hr, -⟩)
      · cases hphase.symm.trans hr
      · cases hphase.symm.trans hr
    · rw [hphase]
      exact id

/-- A request that is checked makes its change. -/
theorem Linear.change (h : Linear T s w order) {a : α} (hphase : w.phase i = .checked a)
    (hno : ∀ j, ¬Pending (T j) (w.phase j)) (hcheck : (T i).check w.shared = .ok a) :
    ∃ order, Linear T s (w.move i ((T i).advance (w.phase i) w.shared)) order := by
  have hshared := h.shared_eq hno
  have hi : i ∉ order := by
    refine h.notMem_of_phase ?_
    rintro r (hr | ⟨a', u, hr, -⟩)
    · cases hphase.symm.trans hr
    · cases hphase.symm.trans hr
  rw [hphase, advance]
  split
  · rename_i r hchange
    refine ⟨order ++ [i], h.settle hi ?_ (.inl rfl) id fun j _ ↦ hno j⟩
    rw [← hshared]
    exact execute_of_not_changed hcheck hchange
  · rename_i s' u hchange
    by_cases hfails : (T i).fails = true
    · -- the change is pending from now on
      refine ⟨order, h.stay ?_ (fun _ ↦ .inr (.inr hfails)) (.inr ⟨i, a, u, ?_⟩)⟩
      · rintro r (hr | ⟨a', u', hr, -⟩)
        · cases hphase.symm.trans hr
        · cases hphase.symm.trans hr
      · rw [← hshared]
        refine ⟨.inl (World.move_phase_self i _), hfails, hcheck, hchange, fun j hj ↦ ?_⟩
        rw [World.move_phase_of_ne hj]
        exact hno j
    · rw [Bool.not_eq_true] at hfails
      refine ⟨order ++ [i], h.settle hi ?_ (.inr ⟨a, u, rfl, hfails, rfl⟩) ?_ fun j _ ↦ hno j⟩
      · rw [← hshared, execute_of_changed hcheck hchange, hfails]
        rfl
      · rw [Pending, hfails]
        exact Bool.false_ne_true

/-- The save of a request ends. -/
theorem Linear.save (h : Linear T s w order) {a : α} {u : υ} (hphase : w.phase i = .changed a u) :
    ∃ order, Linear T s (w.move i ((T i).advance (w.phase i) w.shared)) order := by
  refine ⟨order, ?_⟩
  by_cases hfails : (T i).fails = true
  · have hpending : Pending (T i) (w.phase i) := by
      rw [hphase]
      exact hfails
    obtain ⟨a', u', hon⟩ := h.pendingOn hpending
    obtain ⟨rfl, rfl⟩ : a = a' ∧ u = u' := by
      rcases hon.phase with hon | hon
      · exact Phase.changed.inj (hphase.symm.trans hon)
      · cases hphase.symm.trans hon
    rw [hphase, advance, if_pos hfails]
    refine h.stay ?_ (fun _ ↦ .inr (.inr trivial)) (.inr ⟨i, a, u, ?_⟩)
    · rintro r (hr | ⟨a', u', -, hr, -⟩)
      · cases hphase.symm.trans hr
      · cases hfails.symm.trans hr
    · refine ⟨.inr (World.move_phase_self i _), hfails, hon.check, hon.change, fun j hj ↦ ?_⟩
      rw [World.move_phase_of_ne hj]
      exact hon.others j hj
  · have hpending : ¬Pending (T i) (w.phase i) := by
      rw [hphase]
      exact hfails
    rw [hphase, advance, if_neg hfails]
    refine h.stay ?_ ?_ ?_
    · rintro r (hr | ⟨a', u', hr, -, rfl⟩)
      · cases hphase.symm.trans hr
      · rw [(Phase.changed.inj (hphase.symm.trans hr)).1]
        exact .inl rfl
    · rintro (hr | ⟨a', hr⟩ | hr)
      · cases hphase.symm.trans hr
      · cases hphase.symm.trans hr
      · exact absurd hr hpending
    · exact h.behind.move hpending id

/-- A request takes its change back. -/
theorem Linear.undo (h : Linear T s w order) {a : α} {u : υ} (hphase : w.phase i = .failed a u) :
    ∃ order, Linear T s (w.move i ((T i).advance (w.phase i) w.shared)) order := by
  have hpending : Pending (T i) (w.phase i) := by
    rw [hphase]
    trivial
  obtain ⟨a', u', hon⟩ := h.pendingOn hpending
  obtain ⟨rfl, rfl⟩ : a = a' ∧ u = u' := by
    rcases hon.phase with hon | hon
    · cases hphase.symm.trans hon
    · exact Phase.failed.inj (hphase.symm.trans hon)
  have hi : i ∉ order := by
    refine h.notMem_of_phase ?_
    rintro r (hr | ⟨a', u', hr, -⟩)
    · cases hphase.symm.trans hr
    · cases hphase.symm.trans hr
  rw [hphase, advance]
  refine ⟨order ++ [i], h.settle hi ?_ (.inl rfl) id hon.others⟩
  rw [execute_of_changed hon.check hon.change, if_pos hon.fails]

/-- **The step lemma.** -/
theorem Linear.step (h : Linear T s w order) {w' : World ι σ α υ ρ} (hund : Undisturbed T w i)
    (hstep : concurrently T w i = .ok w') : ∃ order, Linear T s w' order := by
  obtain rfl := Except.ok.inj hstep
  rw [Undisturbed] at hund
  cases hphase : w.phase i with
  | waiting =>
    rw [hphase] at hund
    rw [← hphase]
    exact h.check hphase hund
  | checked a =>
    rw [hphase] at hund
    rw [← hphase]
    exact h.change hphase hund.1 hund.2
  | changed a u =>
    rw [← hphase]
    exact h.save hphase
  | failed a u =>
    rw [← hphase]
    exact h.undo hphase
  | done r =>
    refine ⟨order, h.stay ?_ ?_ ?_⟩
    · rw [hphase]
      exact fun _ ↦ id
    · rw [hphase]
      exact id
    · have hsame : w.move i (.done r, w.shared) = w := by
        rw [World.move, ← hphase, Function.update_eq_self]
      rw [hsame]
      exact h.behind

/-- **Undisturbed requests serialise.** In an interleaving whose steps are all undisturbed, and
which all requests have come to the end of, the state and the results are those of some order. -/
theorem exists_serially_of_undisturbed {is : List ι}
    (hund : Along (concurrently T) (Undisturbed T) (World.start s) is)
    (hrun : run (concurrently T) (World.start s) is = .ok w) {result : ι → ρ}
    (hdone : ∀ i, w.phase i = .done (result i)) :
    ∃ order : List ι, order.Nodup ∧ (∀ i, i ∈ order) ∧
      serially T order s = (w.shared, order.map fun i ↦ (i, result i)) := by
  have hlinear : ∃ order, Linear T s w order := by
    apply run_induction (I := fun w ↦ ∃ order, Linear T s w order) ?_ ⟨[], linear_start⟩ hund hrun
    rintro w i w' ⟨order, h⟩ hund hstep
    exact h.step hund hstep
  obtain ⟨order, h⟩ := hlinear
  have hno : ∀ i, ¬Pending (T i) (w.phase i) := by
    intro i
    rw [hdone]
    exact id
  refine ⟨order, h.nodup, fun i ↦ ?_, Prod.ext (h.shared_eq hno).symm ?_⟩
  · by_contra hi
    have hopen := h.notSettled i hi
    rw [hdone] at hopen
    rcases hopen with hr | ⟨a, hr⟩ | hr
    · cases hr
    · cases hr
    · exact hr
  · have hresult : ∀ e ∈ (serially T order s).2, (e.1, result e.1) = e := by
      rintro ⟨i, r⟩ he
      have hsettled := h.settled _ he
      rw [hdone] at hsettled
      rcases hsettled with hr | ⟨a, u, hr, -⟩
      · rw [Phase.done.inj hr]
      · cases hr
    calc (serially T order s).2
        = (serially T order s).2.map fun e ↦ (e.1, result e.1) := by
          rw [List.map_congr_left hresult, List.map_id']
      _ = order.map fun i ↦ (i, result i) := by
          conv_rhs => rw [← map_fst_serially T order s, List.map_map]
          rfl

end

end Transaction

end Foundation
