import Mathlib.Data.List.Infix

/-!
# Messages that delimit themselves

A message format is a predicate on strings. It is *prefix-free* when no message is a proper prefix
of another, and then a stream that begins with a message can be cut behind it in one way only.
Formats of this kind are put together from fixed lengths, length bytes and end marks, one after the
other.

A reader that has taken a string from a stream `StopsAt` the end of the message in front when the
string is that message. What it takes from then on is the rest of the stream (`StopsAt.rest`).
-/

namespace Foundation

variable {α : Type} {P Q : List α → Prop}

/-- No message is a proper prefix of another. -/
def PrefixFree (P : List α → Prop) : Prop := ∀ a b, P a → P b → a <+: b → a = b

/-- `s` is the message in front of every stream that begins with `s` and with a message. -/
def StopsAt (P : List α → Prop) (s : List α) : Prop := ∀ m rest, P m → s <+: m ++ rest → s = m

/-- What follows is the rest. -/
theorem StopsAt.rest {s t m u : List α} (h : StopsAt P s) (hm : P m) (hpre : s ++ t <+: m ++ u) :
    t <+: u := by
  obtain rfl := h m u hm ((List.prefix_append s t).trans hpre)
  exact (List.prefix_append_right_inj s).mp hpre

/-- **There is one cut.** In a prefix-free format it is enough to have taken a message. -/
theorem PrefixFree.stopsAt {s : List α} (hP : PrefixFree P) (hs : P s) : StopsAt P s := by
  intro m rest hm hpre
  rcases List.prefix_or_prefix_of_prefix hpre (List.prefix_append m rest) with h | h
  · exact hP s m hs hm h
  · exact (hP m s hm hs h).symm

theorem PrefixFree.mono (hP : PrefixFree P) (h : ∀ a, Q a → P a) : PrefixFree Q :=
  fun a b ha hb hab ↦ hP a b (h a ha) (h b hb) hab

/-! ## Formats -/

/-- All messages of one length. -/
def fixed (n : ℕ) (s : List α) : Prop := s.length = n

/-- A first element that says how many follow. -/
def counted (size : α → ℕ) (s : List α) : Prop := ∃ n body, s = n :: body ∧ body.length = size n

/-- Everything up to the first occurrence of a mark. -/
def endedBy (mark s : List α) : Prop := mark <:+ s ∧ ¬mark <:+: s.dropLast

/-- One message after another. -/
def inSequence : List (List α → Prop) → List α → Prop
  | [], s => s = []
  | P :: Ps, s => ∃ a b, s = a ++ b ∧ P a ∧ inSequence Ps b

theorem prefixFree_fixed (n : ℕ) : PrefixFree (fixed n : List α → Prop) := by
  intro a b ha hb hab
  exact hab.eq_of_length (ha.trans hb.symm)

theorem prefixFree_eq (m : List α) : PrefixFree (· = m) := by
  rintro a b rfl rfl _
  rfl

theorem prefixFree_counted (size : α → ℕ) : PrefixFree (counted size) := by
  rintro _ _ ⟨n, a, rfl, ha⟩ ⟨m, b, rfl, hb⟩ hab
  obtain ⟨rfl, hbody⟩ := List.cons_prefix_cons.mp hab
  rw [hbody.eq_of_length (ha.trans hb.symm)]

theorem prefixFree_endedBy (mark : List α) : PrefixFree (endedBy mark) := by
  rintro a _ ⟨hmark, -⟩ ⟨-, hnot⟩ ⟨b, rfl⟩
  rcases List.eq_nil_or_concat' b with rfl | ⟨b, x, rfl⟩
  · exact (List.append_nil a).symm
  · -- the mark at the end of `a` comes before the last element
    rw [← List.append_assoc, List.dropLast_concat] at hnot
    exact absurd (hmark.isInfix.trans (List.prefix_append a b).isInfix) hnot

theorem prefixFree_inSequence {Ps : List (List α → Prop)} (h : ∀ P ∈ Ps, PrefixFree P) :
    PrefixFree (inSequence Ps) := by
  induction Ps with
  | nil => exact prefixFree_eq []
  | cons P Ps ih =>
    obtain ⟨hP, hPs⟩ := List.forall_mem_cons.mp h
    rintro _ _ ⟨a, a', rfl, ha, ha'⟩ ⟨b, b', rfl, hb, hb'⟩ hab
    obtain rfl := hP.stopsAt ha b b' hb ((List.prefix_append a a').trans hab)
    rw [ih hPs a' b' ha' hb' ((List.prefix_append_right_inj a).mp hab)]

/-- Either of two formats whose messages are told apart by their fronts. -/
theorem PrefixFree.or (hP : PrefixFree P) (hQ : PrefixFree Q)
    (happart : ∀ a b, P a → Q b → a.head? ≠ b.head?) (hne : ¬P [] ∧ ¬Q []) :
    PrefixFree fun s ↦ P s ∨ Q s := by
  have hhead : ∀ {a b : List α}, a ≠ [] → a <+: b → a.head? = b.head? := by
    rintro a b ha hab
    obtain ⟨x, a, rfl⟩ := List.exists_cons_of_ne_nil ha
    obtain ⟨b, rfl⟩ := hab
    rfl
  rintro a b (ha | ha) (hb | hb) hab
  · exact hP a b ha hb hab
  · exact absurd (hhead (fun h ↦ hne.1 (h ▸ ha)) hab) (happart a b ha hb)
  · exact absurd (hhead (fun h ↦ hne.2 (h ▸ ha)) hab).symm (happart b a hb ha)
  · exact hQ a b ha hb hab

end Foundation
