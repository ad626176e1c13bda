import Mathlib.Order.Notation

/-!
# Programs with state and exceptions

A *program* runs from a state and ends either in a result with a new state or in an exception, in
which case the state is gone: nobody is left to look at it. This is the shape of a completion
handler that runs to its end inside an event loop.

`wp m Q E s` says that `m`, run from `s`, ends in a result satisfying `Q` or in an exception
satisfying `E`. The rules below are equations, so `simp` executes a program symbolically and leaves
a statement about data. Two special cases have names of their own: `Keeps f m` says that `m` leaves
the observation `f` of the state alone, and is closed under sequencing, so a frame fact is proved
once per primitive; and `Relates R m` does the same for a relation between the first and the last
state.
-/

namespace Foundation

/-- A program over states `σ` that returns an `α` or throws an `ε`. -/
abbrev Program (σ ε α : Type) := StateT σ (Except ε) α

variable {σ ε α β : Type}

/-- The weakest precondition: `m` ends in a result satisfying `Q` or throws an exception satisfying
`E`. -/
def wp (m : Program σ ε α) (Q : α → σ → Prop) (E : ε → Prop) (s : σ) : Prop :=
  match m s with
  | .ok (a, t) => Q a t
  | .error e => E e

/-! ## The rules, one for each way of building a program -/

@[simp] theorem wp_pure (a : α) (Q : α → σ → Prop) (E : ε → Prop) (s : σ) :
    wp (pure a : Program σ ε α) Q E s ↔ Q a s := Iff.rfl

@[simp] theorem wp_bind (m : Program σ ε α) (k : α → Program σ ε β) (Q : β → σ → Prop)
    (E : ε → Prop) (s : σ) :
    wp (m >>= k) Q E s ↔ wp m (fun a t ↦ wp (k a) Q E t) E s := by
  show wp (fun s ↦ (m s).bind fun p ↦ k p.1 p.2) Q E s ↔ _
  rw [wp, wp]
  cases m s <;> rfl

@[simp] theorem wp_map (f : α → β) (m : Program σ ε α) (Q : β → σ → Prop) (E : ε → Prop) (s : σ) :
    wp (f <$> m) Q E s ↔ wp m (fun a t ↦ Q (f a) t) E s := by
  show wp (fun s ↦ (m s).bind fun p ↦ .ok (f p.1, p.2)) Q E s ↔ _
  rw [wp, wp]
  cases m s <;> rfl

@[simp] theorem wp_get (Q : σ → σ → Prop) (E : ε → Prop) (s : σ) :
    wp (get : Program σ ε σ) Q E s ↔ Q s s := Iff.rfl

@[simp] theorem wp_set (t : σ) (Q : PUnit → σ → Prop) (E : ε → Prop) (s : σ) :
    wp (set t : Program σ ε PUnit) Q E s ↔ Q ⟨⟩ t := Iff.rfl

@[simp] theorem wp_modify (f : σ → σ) (Q : PUnit → σ → Prop) (E : ε → Prop) (s : σ) :
    wp (modify f : Program σ ε PUnit) Q E s ↔ Q ⟨⟩ (f s) := Iff.rfl

@[simp] theorem wp_throw (e : ε) (Q : α → σ → Prop) (E : ε → Prop) (s : σ) :
    wp (throw e : Program σ ε α) Q E s ↔ E e := Iff.rfl

@[simp] theorem wp_ite (c : Prop) [Decidable c] (m n : Program σ ε α) (Q : α → σ → Prop)
    (E : ε → Prop) (s : σ) :
    wp (if c then m else n) Q E s ↔ (c → wp m Q E s) ∧ (¬c → wp n Q E s) := by
  by_cases h : c <;> simp [h]

@[simp] theorem wp_ofExcept (x : Except ε α) (Q : α → σ → Prop) (E : ε → Prop) (s : σ) :
    wp (MonadExcept.ofExcept x : Program σ ε α) Q E s ↔
      (∀ a, x = .ok a → Q a s) ∧ ∀ e, x = .error e → E e := by
  cases x <;> simp [MonadExcept.ofExcept]

/-! ## Consequence and conjunction -/

theorem wp_mono {m : Program σ ε α} {Q Q' : α → σ → Prop} {E E' : ε → Prop} {s : σ}
    (h : wp m Q E s) (hQ : ∀ a t, Q a t → Q' a t) (hE : ∀ e, E e → E' e) : wp m Q' E' s := by
  unfold wp at h ⊢
  split at h
  · exact hQ _ _ h
  · exact hE _ h

theorem wp_and {m : Program σ ε α} {Q Q' : α → σ → Prop} {E : ε → Prop} {s : σ}
    (h : wp m Q E s) (h' : wp m Q' E s) : wp m (fun a t ↦ Q a t ∧ Q' a t) E s := by
  unfold wp at h h' ⊢
  split at h <;> simp_all

/-- What a result says about the run that produced it. -/
theorem wp_of_ok {m : Program σ ε α} {Q : α → σ → Prop} {E : ε → Prop} {s t : σ} {a : α}
    (h : wp m Q E s) (hm : m s = .ok (a, t)) : Q a t := by
  rwa [wp, hm] at h

/-- A program whose exceptions satisfy nothing ends in a result. -/
theorem exists_ok_of_wp {m : Program σ ε α} {Q : α → σ → Prop} {s : σ}
    (h : wp m Q (fun _ ↦ False) s) : ∃ a t, m s = .ok (a, t) ∧ Q a t := by
  unfold wp at h
  split at h
  · exact ⟨_, _, by assumption, h⟩
  · exact h.elim

/-- A program whose results have `H` and whose exceptions refute it ends in a result exactly when
`H`. -/
theorem exists_ok_iff_of_wp {m : Program σ ε α} {Q : α → σ → Prop} {H : Prop} {s : σ}
    (h : wp m (fun a t ↦ H ∧ Q a t) (fun _ ↦ ¬H) s) : (∃ a t, m s = .ok (a, t)) ↔ H := by
  constructor
  · rintro ⟨a, t, hm⟩
    exact (wp_of_ok h hm).1
  · intro hH
    have hok : wp m Q (fun _ ↦ False) s := wp_mono h (fun _ _ hQ ↦ hQ.2) fun _ hE ↦ hE hH
    obtain ⟨a, t, hm, -⟩ := exists_ok_of_wp hok
    exact ⟨a, t, hm⟩

/-! ## Relations between the first and the last state -/

/-- Every result of `m` is related by `R` to the state `m` started in. -/
def Relates (R : σ → σ → Prop) (m : Program σ ε α) : Prop :=
  ∀ s, wp m (fun _ t ↦ R s t) (fun _ ↦ True) s

/-- The composition rule: the relations of two programs run in sequence compose. -/
theorem Relates.bind {R S T : σ → σ → Prop} {m : Program σ ε α} {k : α → Program σ ε β}
    (hm : Relates R m) (hk : ∀ a, Relates S (k a)) (hT : ∀ s t u, R s t → S t u → T s u) :
    Relates T (m >>= k) := by
  intro s
  rw [wp_bind]
  refine wp_mono (hm s) (fun a t hst ↦ ?_) fun _ h ↦ h
  exact wp_mono (hk a t) (fun _ u htu ↦ hT s t u hst htu) fun _ h ↦ h

theorem Relates.mono {R S : σ → σ → Prop} {m : Program σ ε α} (hm : Relates R m)
    (h : ∀ s t, R s t → S s t) : Relates S m :=
  fun s ↦ wp_mono (hm s) (fun _ t ↦ h s t) fun _ h ↦ h

/-- `m` leaves the observation `f` of the state as it found it. -/
def Keeps (f : σ → β) (m : Program σ ε α) : Prop := Relates (fun s t ↦ f t = f s) m

namespace Keeps

variable {γ : Type} {f : σ → γ}

theorem pure (a : α) : Keeps f (Pure.pure a : Program σ ε α) := fun _ ↦ rfl

theorem get : Keeps f (MonadState.get : Program σ ε σ) := fun _ ↦ rfl

theorem throw (e : ε) : Keeps f (MonadExcept.throw e : Program σ ε α) := fun _ ↦ trivial

theorem ofExcept (x : Except ε α) : Keeps f (MonadExcept.ofExcept x : Program σ ε α) := by
  intro s
  rw [wp_ofExcept]
  exact ⟨fun _ _ ↦ rfl, fun _ _ ↦ trivial⟩

theorem ite {c : Prop} [Decidable c] {m n : Program σ ε α} (hm : Keeps f m) (hn : Keeps f n) :
    Keeps f (if c then m else n) := by
  split
  · exact hm
  · exact hn

theorem bind {m : Program σ ε α} {k : α → Program σ ε β} (hm : Keeps f m)
    (hk : ∀ a, Keeps f (k a)) : Keeps f (m >>= k) :=
  Relates.bind hm hk fun _ _ _ hst htu ↦ htu.trans hst

end Keeps

end Foundation
