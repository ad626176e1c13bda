import Mathlib.Data.List.Infix

/-!
# Runs of a system whose steps may throw

A system is given by one function `step`, from a state and an event to the next state or an
exception. A *run* folds it over a list of events; an exception ends the run. What is to hold along
a run is packaged once:

* `Along step C s es` says that every step of the run satisfies the condition `C`, a relation
  between the state before the step and the event;
* `run_induction` carries an invariant along a run whose steps satisfy a condition;
* `exists_run_iff_along` turns a condition that decides whether a step throws into one that decides
  whether a run does;
* `along_iff_forall_concat` looks at each step behind the beginning of the run that leads to it;
* `run_concat_of_forgets` reduces a run to its last step, where each step is forgotten by the next;
* `along_iff_throughout` makes a condition exact: where every step that fails it breaks the
  property, the property holds all along a run exactly when every step meets the condition;
  `along_iff_succeeds` is the same rule where a step that fails it may also throw, and
  `along_iff_throughout_of_run` the one for a run known not to throw.

An unconditional invariant is the instance `C = fun _ _ ↦ True`.

The last section is about the simplest state of all, one flag that each event sets, clears or leaves
alone: at the end it is set exactly when some event set it and no later one cleared it.
-/

namespace Foundation

variable {σ ι ε : Type}

theorem exists_of_map_eq_ok {α β : Type} {x : Except ε α} {f : α → β} {y : β}
    (h : x.map f = .ok y) : ∃ a, x = .ok a ∧ f a = y := by
  rcases x with e | a
  · cases h
  · exact ⟨a, rfl, Except.ok.inj h⟩

theorem exists_of_bind_eq_ok {α β : Type} {x : Except ε α} {f : α → Except ε β} {y : β}
    (h : (x >>= f) = .ok y) : ∃ a, x = .ok a ∧ f a = .ok y := by
  cases x with
  | error e => cases h
  | ok a => exact ⟨a, rfl, h⟩

/-- Run the system over a list of events. -/
def run (step : σ → ι → Except ε σ) : σ → List ι → Except ε σ
  | s, [] => .ok s
  | s, e :: es => (step s e).bind fun t ↦ run step t es

@[simp] theorem run_nil (step : σ → ι → Except ε σ) (s : σ) : run step s [] = .ok s := rfl

theorem run_cons (step : σ → ι → Except ε σ) (s : σ) (e : ι) (es : List ι) :
    run step s (e :: es) = (step s e).bind fun t ↦ run step t es := rfl

/-- A run and one more step. -/
theorem run_concat_iff {step : σ → ι → Except ε σ} {es : List ι} {e : ι} {s t : σ} :
    run step s (es ++ [e]) = .ok t ↔ ∃ u, run step s es = .ok u ∧ step u e = .ok t := by
  induction es generalizing s with
  | nil =>
    have hlast : run step s [e] = step s e := by
      rw [run_cons]
      rcases step s e with x | u <;> rfl
    rw [List.nil_append, hlast]
    constructor
    · intro h
      exact ⟨s, rfl, h⟩
    · rintro ⟨u, hu, h⟩
      obtain rfl := Except.ok.inj hu
      exact h
  | cons e' es ih =>
    rw [List.cons_append, run_cons, run_cons]
    rcases step s e' with x | u
    · constructor
      · intro h
        cases h
      · rintro ⟨u, hu, -⟩
        cases hu
    · exact ih

/-- What evaluating an observation of the last state says about the run. -/
theorem exists_run_of_observation {β : Type} {step : σ → ι → Except ε σ} {s : σ} {es : List ι}
    {f : σ → β} {b : β} (h : (run step s es).toOption.map f = some b) :
    ∃ t, run step s es = .ok t ∧ f t = b := by
  rcases hr : run step s es with e | t
  · rw [hr] at h
    cases h
  · rw [hr] at h
    exact ⟨t, rfl, Option.some.inj h⟩

/-- Every step of the run satisfies `C`, up to an exception that ends the run. -/
def Along (step : σ → ι → Except ε σ) (C : σ → ι → Prop) : σ → List ι → Prop
  | _, [] => True
  | s, e :: es => C s e ∧ ∀ t, step s e = .ok t → Along step C t es

variable {step : σ → ι → Except ε σ} {C C' : σ → ι → Prop}

theorem along_cons_iff {s : σ} {e : ι} {es : List ι} :
    Along step C s (e :: es) ↔ C s e ∧ ∀ t, step s e = .ok t → Along step C t es := Iff.rfl

/-- Where it can be decided of each step, it can be decided of a run. -/
instance decidableAlong [∀ s e, Decidable (C s e)] :
    ∀ (s : σ) (es : List ι), Decidable (Along step C s es)
  | _, [] => .isTrue trivial
  | s, e :: es =>
    match h : step s e with
    | .error _ => decidable_of_iff (C s e) ⟨fun hC ↦ ⟨hC, fun _ ht ↦ by cases h.symm.trans ht⟩,
      fun hC ↦ hC.1⟩
    | .ok t =>
      have := decidableAlong t es
      decidable_of_iff (C s e ∧ Along step C t es)
        ⟨fun hC ↦ ⟨hC.1, fun _ ht ↦ Except.ok.inj (h.symm.trans ht) ▸ hC.2⟩,
          fun hC ↦ ⟨hC.1, hC.2 t h⟩⟩

theorem Along.mono (h : ∀ s e, C s e → C' s e) : ∀ {es : List ι} {s : σ},
    Along step C s es → Along step C' s es := by
  intro es
  induction es with
  | nil => intro s _; trivial
  | cons e es ih => exact fun hs ↦ ⟨h _ _ hs.1, fun t ht ↦ ih (hs.2 t ht)⟩

theorem Along.and : ∀ {es : List ι} {s : σ}, Along step C s es → Along step C' s es →
    Along step (fun s e ↦ C s e ∧ C' s e) s es := by
  intro es
  induction es with
  | nil => intro s _ _; trivial
  | cons e es ih =>
    exact fun hs hs' ↦ ⟨⟨hs.1, hs'.1⟩, fun t ht ↦ ih (hs.2 t ht) (hs'.2 t ht)⟩

theorem along_true : ∀ {es : List ι} {s : σ}, Along step (fun _ _ ↦ True) s es := by
  intro es
  induction es with
  | nil => intro s; trivial
  | cons e es ih => exact fun {s} ↦ ⟨trivial, fun t _ ↦ ih⟩

/-- A condition may be checked event by event, each in the state that the run before it ends in. -/
theorem along_of_getElem? : ∀ {es : List ι} {s : σ}, (∀ (n : ℕ) (e : ι), es[n]? = some e →
    ∀ t, run step s (es.take n) = .ok t → C t e) → Along step C s es := by
  intro es
  induction es with
  | nil => intro s _; trivial
  | cons e es ih =>
    intro s h
    refine ⟨h 0 e rfl s rfl, fun u hu ↦ ih fun n e' he' t ht ↦ h (n + 1) e' he' t ?_⟩
    rw [List.take_succ_cons, run_cons, hu]
    exact ht

/-- Every step meets the condition exactly when it does after every beginning of the run. -/
theorem along_iff_forall_concat {es : List ι} {s : σ} : Along step C s es ↔
    ∀ pre e, pre ++ [e] <+: es → ∀ t, run step s pre = .ok t → C t e := by
  induction es generalizing s with
  | nil =>
    refine iff_of_true trivial fun pre e hpre ↦ ?_
    exact absurd (List.prefix_nil.mp hpre) (List.append_ne_nil_of_right_ne_nil _ (by simp))
  | cons a es ih =>
    rw [along_cons_iff]
    constructor
    · rintro ⟨ha, hrest⟩ pre e hpre t ht
      rcases pre with _ | ⟨b, pre⟩
      · obtain ⟨rfl, -⟩ := List.cons_prefix_cons.mp hpre
        obtain rfl := Except.ok.inj ht
        exact ha
      · obtain ⟨rfl, htail⟩ := List.cons_prefix_cons.mp hpre
        rw [run_cons] at ht
        rcases hu : step s b with x | u
        · rw [hu] at ht
          cases ht
        · rw [hu] at ht
          exact ih.mp (hrest u hu) pre e htail t ht
    · intro h
      refine ⟨h [] a (List.cons_prefix_cons.mpr ⟨rfl, List.nil_prefix⟩) s rfl, fun u hu ↦ ?_⟩
      refine ih.mpr fun pre e hpre t ht ↦ ?_
      refine h (a :: pre) e (List.cons_prefix_cons.mpr ⟨rfl, hpre⟩) t ?_
      rw [run_cons, hu]
      exact ht

/-- **The invariant rule.** A predicate that every step meeting the condition preserves holds at the
end of every run whose steps all meet it. -/
theorem run_induction {I : σ → Prop}
    (hstep : ∀ s e t, I s → C s e → step s e = .ok t → I t) : ∀ {es : List ι} {s t : σ},
    I s → Along step C s es → run step s es = .ok t → I t := by
  intro es
  induction es with
  | nil =>
    intro s t hs _ ht
    rw [run_nil, Except.ok.injEq] at ht
    exact ht ▸ hs
  | cons e es ih =>
    intro s t hs hC ht
    rw [run_cons] at ht
    cases hu : step s e with
    | error x => rw [hu] at ht; cases ht
    | ok u =>
      rw [hu] at ht
      exact ih (hstep s e u hs hC.1 hu) (hC.2 u hu) ht

/-- Where the condition decides whether a step throws, it decides whether a run does. -/
theorem exists_run_iff_along {I : σ → Prop} (hok : ∀ s e, I s → ((∃ t, step s e = .ok t) ↔ C s e))
    (hstep : ∀ s e t, I s → step s e = .ok t → I t) : ∀ {es : List ι} {s : σ}, I s →
    ((∃ t, run step s es = .ok t) ↔ Along step C s es) := by
  intro es
  induction es with
  | nil => exact fun {s} _ ↦ ⟨fun _ ↦ trivial, fun _ ↦ ⟨s, rfl⟩⟩
  | cons e es ih =>
    intro s hs
    rw [along_cons_iff, run_cons]
    constructor
    · rintro ⟨t, ht⟩
      rcases hu : step s e with x | u
      · rw [hu] at ht
        cases ht
      · rw [hu] at ht
        refine ⟨(hok s e hs).mp ⟨u, hu⟩, fun v hv ↦ ?_⟩
        obtain rfl := Except.ok.inj hv
        exact (ih (hstep s e u hs hu)).mp ⟨t, ht⟩
    · rintro ⟨hC, hrest⟩
      obtain ⟨u, hu⟩ := (hok s e hs).mpr hC
      rw [hu]
      exact (ih (hstep s e u hs hu)).mpr (hrest u hu)

/-- Along a run that keeps an invariant, a condition may be replaced by what follows from both. -/
theorem Along.of_invariant {I : σ → Prop} (h : ∀ s e, I s → C s e → C' s e)
    (hstep : ∀ s e t, I s → C s e → step s e = .ok t → I t) : ∀ {es : List ι} {s : σ},
    I s → Along step C s es → Along step C' s es := by
  intro es
  induction es with
  | nil => intro s _ _; trivial
  | cons e es ih =>
    rintro s hs ⟨hC, hrest⟩
    exact ⟨h s e hs hC, fun t ht ↦ ih (hstep s e t hs hC ht) (hrest t ht)⟩

/-- The property `P` holds in every state a run passes through. -/
def Throughout (step : σ → ι → Except ε σ) (P : σ → Prop) (s : σ) (es : List ι) : Prop :=
  ∀ pre, pre <+: es → ∀ t, run step s pre = .ok t → P t

/-- A property that an invariant implies holds all along a run whose steps meet the condition. -/
theorem Along.throughout {I P : σ → Prop} (hIP : ∀ s, I s → P s)
    (hstep : ∀ s e t, I s → C s e → step s e = .ok t → I t) : ∀ {es : List ι} {s : σ},
    Along step C s es → I s → Throughout step P s es := by
  intro es
  induction es with
  | nil =>
    intro s _ hs pre hpre t ht
    rw [List.prefix_nil.mp hpre, run_nil, Except.ok.injEq] at ht
    exact ht ▸ hIP s hs
  | cons e es ih =>
    rintro s ⟨hC, hrest⟩ hs pre hpre t ht
    rcases pre with _ | ⟨e', pre⟩
    · rw [run_nil, Except.ok.injEq] at ht
      exact ht ▸ hIP s hs
    · obtain ⟨rfl, htail⟩ := List.cons_prefix_cons.mp hpre
      rw [run_cons] at ht
      rcases hu : step s e' with x | u
      · rw [hu] at ht
        cases ht
      · rw [hu] at ht
        exact ih (hrest u hu) (hstep s e' u hs hC hu) pre htail t ht

/-- **The exactness rule.** An invariant `I` that implies `P` and is preserved by the steps that
meet a condition, every other step breaking `P`, makes the condition exact. -/
theorem along_iff_throughout {I P : σ → Prop} (hIP : ∀ s, I s → P s)
    (hstep : ∀ s e t, I s → C s e → step s e = .ok t → I t)
    (hbreak : ∀ s e, I s → ¬C s e → ∃ t, step s e = .ok t ∧ ¬P t) {es : List ι} {s : σ} (hs : I s) :
    Along step C s es ↔ Throughout step P s es := by
  refine ⟨fun h ↦ h.throughout hIP hstep hs, ?_⟩
  induction es generalizing s with
  | nil => exact fun _ ↦ trivial
  | cons e es ih =>
    intro h
    have hC : C s e := by
      by_contra hC
      obtain ⟨t, ht, hPt⟩ := hbreak s e hs hC
      refine hPt (h [e] (List.cons_prefix_cons.mpr ⟨rfl, List.nil_prefix⟩) t ?_)
      rw [run_cons, ht]
      rfl
    refine ⟨hC, fun u hu ↦ ih (hstep s e u hs hC hu) fun pre hpre t ht ↦ ?_⟩
    refine h (e :: pre) (List.cons_prefix_cons.mpr ⟨rfl, hpre⟩) t ?_
    rw [run_cons, hu]
    exact ht

/-- **The exactness rule where steps may throw.** A step that meets the condition succeeds and keeps
the invariant, and any other one throws or breaks `P`. -/
theorem along_iff_succeeds {I P : σ → Prop} (hIP : ∀ s, I s → P s)
    (hstep : ∀ s e, I s → C s e → ∃ t, step s e = .ok t ∧ I t)
    (hbreak : ∀ s e t, I s → ¬C s e → step s e = .ok t → ¬P t) {es : List ι} {s : σ} (hs : I s) :
    Along step C s es ↔ ∀ pre, pre <+: es → ∃ t, run step s pre = .ok t ∧ P t := by
  induction es generalizing s with
  | nil =>
    refine iff_of_true trivial fun pre hpre ↦ ?_
    rw [List.prefix_nil.mp hpre]
    exact ⟨s, rfl, hIP s hs⟩
  | cons e es ih =>
    rw [along_cons_iff]
    constructor
    · rintro ⟨hC, hrest⟩ pre hpre
      rcases pre with _ | ⟨e', pre⟩
      · exact ⟨s, rfl, hIP s hs⟩
      · obtain ⟨rfl, htail⟩ := List.cons_prefix_cons.mp hpre
        obtain ⟨u, hu, hIu⟩ := hstep s e' hs hC
        rw [run_cons, hu]
        exact (ih hIu).mp (hrest u hu) pre htail
    · intro h
      have hC : C s e := by
        by_contra hC
        obtain ⟨t, ht, hP⟩ := h [e] (List.cons_prefix_cons.mpr ⟨rfl, List.nil_prefix⟩)
        rw [← List.nil_append [e], run_concat_iff] at ht
        obtain ⟨_, ⟨⟩, ht⟩ := ht
        exact hbreak s e t hs hC ht hP
      refine ⟨hC, fun u hu ↦ ?_⟩
      obtain ⟨u', hu', hIu⟩ := hstep s e hs hC
      obtain rfl : u' = u := Except.ok.inj (hu'.symm.trans hu)
      refine (ih hIu).mpr fun pre hpre ↦ ?_
      obtain ⟨t, ht, hP⟩ := h (e :: pre) (List.cons_prefix_cons.mpr ⟨rfl, hpre⟩)
      rw [run_cons, hu] at ht
      exact ⟨t, ht, hP⟩

/-- **The exactness rule for a run that does not throw.** Then it does not matter whether a step
that fails the condition could. -/
theorem along_iff_throughout_of_run {I P : σ → Prop} (hIP : ∀ s, I s → P s)
    (hstep : ∀ s e t, I s → C s e → step s e = .ok t → I t)
    (hbreak : ∀ s e t, I s → ¬C s e → step s e = .ok t → ¬P t) {es : List ι} {s u : σ} (hs : I s)
    (hu : run step s es = .ok u) : Along step C s es ↔ Throughout step P s es := by
  refine ⟨fun h ↦ h.throughout hIP hstep hs, ?_⟩
  induction es generalizing s with
  | nil => exact fun _ ↦ trivial
  | cons e es ih =>
    intro h
    rw [run_cons] at hu
    rcases ht : step s e with x | t
    · rw [ht] at hu
      cases hu
    rw [ht] at hu
    have hcons : ∀ pre, run step s (e :: pre) = run step t pre := by
      intro pre
      rw [run_cons, ht]
      rfl
    have hC : C s e := by
      by_contra hC
      refine hbreak s e t hs hC ht (h [e] ?_ t (hcons []))
      exact List.cons_prefix_cons.mpr ⟨rfl, List.nil_prefix⟩
    refine ⟨hC, fun v hv ↦ ?_⟩
    obtain rfl := Except.ok.inj (ht.symm.trans hv)
    refine ih (hstep s e t hs hC ht) hu fun pre hpre v hv ↦ ?_
    exact h (e :: pre) (List.cons_prefix_cons.mpr ⟨rfl, hpre⟩) v ((hcons pre).trans hv)

/-- **The last step counts.** Where the steps of one kind are forgotten by the step that follows
them, a run of such steps and one last step is that last step alone. -/
theorem run_concat_of_forgets {I : σ → Prop} {K L : ι → Prop}
    (hstep : ∀ s a, I s → K a → ∃ t, step s a = .ok t ∧ I t ∧ ∀ b, L b → step t b = step s b)
    {b : ι} (hb : L b) : ∀ {as : List ι} {s : σ}, I s → (∀ a ∈ as, K a) →
    run step s (as ++ [b]) = step s b := by
  intro as
  induction as with
  | nil =>
    intro s _ _
    rw [List.nil_append, run_cons]
    rcases step s b with x | t <;> rfl
  | cons a as ih =>
    intro s hs has
    rw [List.forall_mem_cons] at has
    obtain ⟨t, ht, hIt, hforgets⟩ := hstep s a hs has.1
    rw [List.cons_append, run_cons, ht, ← hforgets b hb]
    exact ih hIt has.2

/-- A state some run ends in. -/
def Reachable (step : σ → ι → Except ε σ) (init s : σ) : Prop := ∃ es, run step init es = .ok s

/-- An invariant of every step holds in every reachable state. -/
theorem Reachable.induction {I : σ → Prop} {init s : σ} (h : Reachable step init s)
    (h0 : I init) (hstep : ∀ s e t, I s → step s e = .ok t → I t) : I s := by
  obtain ⟨es, hes⟩ := h
  exact run_induction (C := fun _ _ ↦ True) (fun s e t hs _ ht ↦ hstep s e t hs ht) h0
    along_true hes

/-! ## A flag -/

/-- A flag that starts as `p` and that each element of a list sets, clears or leaves alone. Setting
wins. -/
def flag {α : Type} (sets clears : α → Prop) : Prop → List α → Prop
  | p, [] => p
  | p, a :: l => flag sets clears (sets a ∨ p ∧ ¬clears a) l

/-- At the end of the list the flag is set exactly when it was set, by the start or by an element,
and never cleared from there on. -/
theorem flag_iff {α : Type} {sets clears : α → Prop} {l : List α} {p : Prop} :
    flag sets clears p l ↔ (p ∧ ∀ b ∈ l, ¬clears b) ∨
      ∃ pre a post, l = pre ++ a :: post ∧ sets a ∧ ∀ b ∈ post, ¬clears b := by
  induction l generalizing p with
  | nil =>
    refine ⟨fun h ↦ .inl ⟨h, fun b hb ↦ absurd hb List.not_mem_nil⟩, ?_⟩
    rintro (⟨h, -⟩ | ⟨pre, a, post, hl, -⟩)
    · exact h
    · exact absurd hl (by simp)
  | cons a l ih =>
    rw [flag, ih]
    constructor
    · rintro (⟨ha | ⟨hp, hca⟩, hl⟩ | ⟨pre, b, post, rfl, hb⟩)
      · exact .inr ⟨[], a, l, rfl, ha, hl⟩
      · exact .inl ⟨hp, List.forall_mem_cons.mpr ⟨hca, hl⟩⟩
      · exact .inr ⟨a :: pre, b, post, rfl, hb⟩
    · rintro (⟨hp, hl⟩ | ⟨pre, b, post, hl, hb, hpost⟩)
      · rw [List.forall_mem_cons] at hl
        exact .inl ⟨.inr ⟨hp, hl.1⟩, hl.2⟩
      · rcases List.cons_eq_append_iff.mp hl with ⟨rfl, hcons⟩ | ⟨pre, rfl, rfl⟩
        · rw [List.cons.injEq] at hcons
          obtain ⟨rfl, rfl⟩ := hcons
          exact .inl ⟨.inl hb, hpost⟩
        · exact .inr ⟨pre, b, post, rfl, hb, hpost⟩

end Foundation
