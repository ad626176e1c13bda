import LanProxyGateway.Foundation.Bytes

/-!
# Letter case

Byte strings that differ only in the case of ASCII letters. A string without letters has no other
spelling (`SameLetters.eq_of_letterless`), and one with a letter has (`swapCase_ne`).
-/

namespace Foundation.ByteString

/-- `tolower` in the C locale. -/
def lowerByte (c : UInt8) : UInt8 := if 65 ≤ c && c ≤ 90 then c + 32 else c

def lower (s : ByteString) : ByteString := s.map lowerByte

/-- The other case of a letter. -/
def swapByte (c : UInt8) : UInt8 :=
  if 65 ≤ c && c ≤ 90 then c + 32 else if 97 ≤ c && c ≤ 122 then c - 32 else c

def swapCase (s : ByteString) : ByteString := s.map swapByte

def isLetter (c : UInt8) : Bool := (65 ≤ c && c ≤ 90) || (97 ≤ c && c ≤ 122)

/-- There is no letter in the string. -/
def Letterless (s : ByteString) : Prop := ∀ c ∈ s, isLetter c = false

instance (s : ByteString) : Decidable (Letterless s) :=
  inferInstanceAs (Decidable (∀ c ∈ s, isLetter c = false))

/-- The strings differ at most in the case of their letters. -/
def SameLetters (s t : ByteString) : Prop := lower s = lower t

instance (s t : ByteString) : Decidable (SameLetters s t) := inferInstanceAs (Decidable (_ = _))

/-! ## Single bytes -/

/-- A byte that is no letter is spelled in one way. -/
theorem eq_of_lowerByte_eq {c d : UInt8} (hc : isLetter c = false)
    (h : lowerByte c = lowerByte d) : d = c := by
  grind [isLetter, lowerByte]

theorem lowerByte_swapByte (c : UInt8) : lowerByte (swapByte c) = lowerByte c := by
  grind [swapByte, lowerByte]

theorem isLetter_eq_false_of_swapByte_eq {c : UInt8} (h : swapByte c = c) : isLetter c = false := by
  grind [swapByte, isLetter]

/-! ## Strings -/

variable {s t p : ByteString}

theorem SameLetters.symm (h : SameLetters s t) : SameLetters t s := Eq.symm h

theorem sameLetters_swapCase (s : ByteString) : SameLetters (swapCase s) s := by
  rw [SameLetters, lower, lower, swapCase, List.map_map]
  exact List.map_congr_left fun c _ ↦ lowerByte_swapByte c

/-- Swapping the case changes a string that has a letter. -/
theorem swapCase_ne (h : ¬Letterless s) : swapCase s ≠ s := by
  intro heq
  refine h fun c hc ↦ isLetter_eq_false_of_swapByte_eq ?_
  have hmap : s.map swapByte = s.map id := heq.trans (List.map_id s).symm
  exact List.map_inj_left.mp hmap c hc

/-- A string without letters is spelled in one way. -/
theorem SameLetters.eq_of_letterless (h : SameLetters s t) (hs : Letterless s) : t = s := by
  induction s generalizing t with
  | nil => exact List.map_eq_nil_iff.mp h.symm
  | cons c s ih =>
    obtain ⟨hc, hs⟩ := List.forall_mem_cons.mp hs
    rcases t with _ | ⟨d, t⟩
    · cases h
    obtain ⟨hcd, hst⟩ := List.cons.inj h
    rw [eq_of_lowerByte_eq hc hcd, ih hst hs]

/-- Neither does an ending without letters depend on the case. -/
theorem SameLetters.suffix_of_letterless (h : SameLetters s t) (hp : Letterless p) (hs : p <:+ s) :
    p <:+ t := by
  obtain ⟨q, rfl⟩ := hs
  rw [SameLetters, lower, List.map_append] at h
  obtain ⟨q', p', rfl, -, hp'⟩ := List.map_eq_append_iff.mp h.symm
  have heq : p' = p := SameLetters.eq_of_letterless (Eq.symm hp') hp
  rw [heq]
  exact List.suffix_append q' p

end Foundation.ByteString
