import Mathlib.Data.List.Infix
import Mathlib.Data.List.Lex
import Mathlib.Data.Nat.Find

/-!
# Byte strings

A `std::string` or `std::string_view` holds arbitrary bytes, so it is a list of `UInt8` here, with
the search functions the standard library gives it. Positions are natural numbers and `npos` is
`none`.

What a search finds is said by `find_eq_some_iff`: the first position at which the pattern occurs. A
search for a single byte cuts the string there (`find_singleton_iff`).
-/

namespace Foundation

/-- The value of a `std::string`: any bytes, of any length. -/
abbrev ByteString := List UInt8

/-- Bytes compare as unsigned numbers, and so do strings, byte by byte. -/
instance instLinearOrderByte : LinearOrder UInt8 where
  le_refl := UInt8.le_refl
  le_trans _ _ _ := UInt8.le_trans
  le_antisymm _ _ := UInt8.le_antisymm
  le_total := UInt8.le_total
  lt_iff_le_not_ge a b := by rw [UInt8.not_le]; exact ⟨fun h ↦ ⟨UInt8.le_of_lt h, h⟩, And.right⟩
  toDecidableLE := inferInstance
  toDecidableLT := inferInstance

namespace ByteString

instance instDecidableMemChoices (s : ByteString) (choices : List ByteString) :
    Decidable (s ∈ choices) := inferInstance

/-- The bytes of a string literal. -/
def ofString (s : String) : ByteString := s.toUTF8.data.toList

@[simp] theorem ofString_inj {s t : String} : ofString s = ofString t ↔ s = t := by
  rw [← String.toByteArray_inj, ByteArray.ext_iff, ← Array.toList_inj]
  rfl

/-! ## Searching -/

/-- The first position from `i` on at which `pat` occurs in a string whose first byte stands at
position `i`. -/
def findFrom (pat : ByteString) : ByteString → ℕ → Option ℕ
  | [], i => if pat.isEmpty then some i else none
  | b :: s, i => if pat.isPrefixOf (b :: s) then some i else findFrom pat s (i + 1)

/-- `s.find(pat, pos)`. -/
def find (s pat : ByteString) (pos : ℕ) : Option ℕ := findFrom pat (s.drop pos) pos

/-- `s.rfind(c)` for a single character. -/
def rfind (c : UInt8) : ByteString → Option ℕ
  | [] => none
  | b :: s =>
    match rfind c s with
    | some i => some (i + 1)
    | none => if b = c then some 0 else none

/-- `s.substr(pos, n)`, for a position inside the string. -/
def substr (s : ByteString) (pos n : ℕ) : ByteString := (s.drop pos).take n

/-- `s.find(prefix) == 0`. -/
def startsWith (s pat : ByteString) : Bool := pat.isPrefixOf s

/-! ## What a search finds -/

theorem findFrom_eq_some_iff {pat : ByteString} (hpat : pat ≠ []) : ∀ {s : ByteString} {i k : ℕ},
    findFrom pat s i = some k ↔
      ∃ n, k = i + n ∧ pat <+: s.drop n ∧ ∀ m < n, ¬pat <+: s.drop m := by
  intro s
  induction s with
  | nil =>
    intro i k
    simp only [findFrom, List.isEmpty_iff, hpat, if_false, List.drop_nil, List.prefix_nil,
      reduceCtorEq, false_iff]
    rintro ⟨n, -, h, -⟩
    exact h
  | cons b s ih =>
    intro i k
    rw [findFrom]
    by_cases hb : pat.isPrefixOf (b :: s)
    · rw [if_pos hb, Option.some_inj]
      rw [List.isPrefixOf_iff_prefix] at hb
      constructor
      · rintro rfl
        exact ⟨0, rfl, hb, fun m hm ↦ absurd hm (Nat.not_lt_zero m)⟩
      · rintro ⟨n, rfl, -, hmin⟩
        rcases Nat.eq_zero_or_pos n with rfl | hn
        · rfl
        · exact absurd hb (hmin 0 hn)
    · rw [if_neg hb, ih]
      rw [List.isPrefixOf_iff_prefix] at hb
      constructor
      · rintro ⟨n, rfl, hn, hmin⟩
        refine ⟨n + 1, by omega, hn, fun m hm ↦ ?_⟩
        cases m with
        | zero => exact hb
        | succ m => exact hmin m (Nat.lt_of_succ_lt_succ hm)
      · rintro ⟨n, rfl, hn, hmin⟩
        cases n with
        | zero => exact absurd hn hb
        | succ n =>
          exact ⟨n, by omega, hn, fun m hm ↦ hmin (m + 1) (Nat.succ_lt_succ hm)⟩

/-- A search returns the first position, from `pos` on, at which the pattern occurs. -/
theorem find_eq_some_iff {s pat : ByteString} (hpat : pat ≠ []) {pos k : ℕ} :
    find s pat pos = some k ↔
      pos ≤ k ∧ pat <+: s.drop k ∧ ∀ m, pos ≤ m → m < k → ¬pat <+: s.drop m := by
  rw [find, findFrom_eq_some_iff hpat]
  simp only [List.drop_drop]
  constructor
  · rintro ⟨n, rfl, hn, hmin⟩
    refine ⟨Nat.le_add_right pos n, hn, fun m hm hlt ↦ ?_⟩
    obtain ⟨d, rfl⟩ := Nat.exists_eq_add_of_le hm
    exact hmin d (by omega)
  · rintro ⟨hle, hk, hmin⟩
    obtain ⟨n, rfl⟩ := Nat.exists_eq_add_of_le hle
    exact ⟨n, rfl, hk, fun m hm ↦ hmin (pos + m) (Nat.le_add_right _ _) (by omega)⟩

/-- The bytes up to the end of a match. -/
theorem take_of_find {s pat : ByteString} (hpat : pat ≠ []) {pos k : ℕ}
    (h : find s pat pos = some k) : s.take (k + pat.length) = s.take k ++ pat := by
  obtain ⟨-, ⟨t, ht⟩, -⟩ := (find_eq_some_iff hpat).mp h
  rw [List.take_add, ← ht, List.take_left]

/-- A match splits the string in three. -/
theorem eq_append_of_find {s pat : ByteString} (hpat : pat ≠ []) {pos k : ℕ}
    (h : find s pat pos = some k) : s = s.take k ++ pat ++ s.drop (k + pat.length) := by
  rw [← take_of_find hpat h, List.take_append_drop]

/-- A pattern stands in the beginning of a string where it stands in the string, unless the
beginning ends before it does. -/
theorem prefix_drop_iff {s t pat : ByteString} (h : s <+: t) (hpat : pat ≠ []) {m : ℕ} :
    pat <+: s.drop m ↔ pat <+: t.drop m ∧ m + pat.length ≤ s.length := by
  have hpos := List.length_pos_iff.mpr hpat
  constructor
  · intro hs
    have hle := hs.length_le
    rw [List.length_drop] at hle
    exact ⟨hs.trans (h.drop m), by omega⟩
  · rintro ⟨ht, hle⟩
    refine List.prefix_of_prefix_length_le ht (h.drop m) ?_
    rw [List.length_drop]
    omega

/-- A search in the beginning of a string finds what a search in the string finds there. -/
theorem find_beginning {s t pat : ByteString} (h : s <+: t) (hpat : pat ≠ []) {pos k : ℕ} :
    find s pat pos = some k ↔ find t pat pos = some k ∧ k + pat.length ≤ s.length := by
  rw [find_eq_some_iff hpat, find_eq_some_iff hpat]
  simp only [prefix_drop_iff h hpat]
  constructor
  · rintro ⟨hpos, ⟨hk, hle⟩, hmin⟩
    exact ⟨⟨hpos, hk, fun m hm hlt hmt ↦ hmin m hm hlt ⟨hmt, by omega⟩⟩, hle⟩
  · rintro ⟨⟨hpos, hk, hmin⟩, hle⟩
    exact ⟨hpos, ⟨hk, hle⟩, fun m hm hlt hmt ↦ hmin m hm hlt hmt.1⟩

theorem substr_beginning {s t : ByteString} (h : s <+: t) {pos n : ℕ} (hn : pos + n ≤ s.length) :
    substr s pos n = substr t pos n := by
  obtain ⟨u, rfl⟩ := h
  rw [substr, substr, List.drop_append_of_le_length (by omega), List.take_append_of_le_length]
  rw [List.length_drop]
  omega

/-- The search from a position on, in a string that begins there. -/
theorem findFrom_singleton_iff {c : UInt8} {s : ByteString} {i k : ℕ} :
    findFrom [c] s i = some k ↔ ∃ a b, s = a ++ c :: b ∧ c ∉ a ∧ k = i + a.length := by
  induction s generalizing i with
  | nil => simp [findFrom]
  | cons x s ih =>
    by_cases hx : c = x
    · subst hx
      have hfound : findFrom [c] (c :: s) i = some i := if_pos (by simp)
      rw [hfound, Option.some_inj]
      constructor
      · rintro rfl
        exact ⟨[], s, rfl, List.not_mem_nil, rfl⟩
      · rintro ⟨a, b, hs, ha, rfl⟩
        rcases a with _ | ⟨y, a⟩
        · rfl
        · rw [List.cons_append, List.cons.injEq] at hs
          exact absurd (hs.1 ▸ List.mem_cons_self) ha
    · have hnext : findFrom [c] (x :: s) i = findFrom [c] s (i + 1) := if_neg (by simpa using hx)
      rw [hnext, ih]
      constructor
      · rintro ⟨a, b, rfl, ha, rfl⟩
        refine ⟨x :: a, b, rfl, ?_, ?_⟩
        · rw [List.mem_cons, not_or]
          exact ⟨hx, ha⟩
        · rw [List.length_cons]
          omega
      · rintro ⟨a, b, hs, ha, rfl⟩
        rcases a with _ | ⟨y, a⟩
        · rw [List.nil_append, List.cons.injEq] at hs
          exact absurd hs.1.symm hx
        · rw [List.cons_append, List.cons.injEq] at hs
          rw [List.mem_cons, not_or] at ha
          refine ⟨a, b, hs.2, ha.2, ?_⟩
          rw [List.length_cons]
          omega

/-- A search for one byte cuts the string at its first occurrence. -/
theorem find_singleton_iff {c : UInt8} {s : ByteString} {pos k : ℕ} :
    find s [c] pos = some k ↔ ∃ a b, s.drop pos = a ++ c :: b ∧ c ∉ a ∧ k = pos + a.length :=
  findFrom_singleton_iff

/-- What stands before the byte that is found, and what stands behind it. -/
theorem cut_at_byte {c : UInt8} {s a b : ByteString} {pos : ℕ} (h : s.drop pos = a ++ c :: b)
    (hc : c ∉ a) : find s [c] pos = some (pos + a.length) ∧ substr s pos a.length = a ∧
      s.drop (pos + a.length + 1) = b := by
  refine ⟨find_singleton_iff.mpr ⟨a, b, h, hc, rfl⟩, ?_, ?_⟩
  · rw [substr, h, List.take_left]
  · rw [Nat.add_assoc, ← List.drop_drop, h, ← List.drop_drop, List.drop_left, List.drop_one,
      List.tail_cons]

/-- A pattern is found where it stands first. -/
theorem find_of_first {front pat rest : ByteString} (hpat : pat ≠ [])
    (hfirst : ¬pat <:+: front ++ pat.dropLast) :
    find (front ++ (pat ++ rest)) pat 0 = some front.length := by
  refine (find_eq_some_iff hpat).mpr ⟨Nat.zero_le _, ?_, fun m _ hm hmem ↦ hfirst ?_⟩
  · rw [List.drop_left]
    exact List.prefix_append _ _
  · -- an earlier occurrence would end before the last byte of this one
    have hpre : front ++ pat.dropLast <+: front ++ (pat ++ rest) := by
      rw [List.prefix_append_right_inj]
      exact (List.dropLast_prefix _).trans (List.prefix_append _ _)
    have hearlier := (prefix_drop_iff hpre hpat).mpr ⟨hmem, ?_⟩
    · exact hearlier.isInfix.trans (List.drop_suffix _ _).isInfix
    have hpos := List.length_pos_iff.mpr hpat
    rw [List.length_append, List.length_dropLast]
    omega

/-- The last occurrence of a character. -/
theorem rfind_append_cons {c : UInt8} {s t : ByteString} (h : c ∉ t) :
    rfind c (s ++ c :: t) = some s.length := by
  have hnone : rfind c t = none := by
    induction t with
    | nil => rfl
    | cons b t ih =>
      rw [List.mem_cons, not_or] at h
      rw [rfind, ih h.2]
      exact if_neg (Ne.symm h.1)
  induction s with
  | nil =>
    rw [List.nil_append, rfind, hnone]
    exact if_pos rfl
  | cons b s ih => rw [List.cons_append, rfind, ih, List.length_cons]

/-- Two prefixes of one string that have the same length are the same. -/
theorem eq_of_startsWith {s a b : ByteString} (ha : startsWith s a) (hb : startsWith s b)
    (hlen : a.length = b.length) : a = b := by
  rw [startsWith, List.isPrefixOf_iff_prefix] at ha hb
  exact (List.prefix_of_prefix_length_le ha hb hlen.le).eq_of_length hlen

end ByteString

end Foundation
