import LanProxyGateway.Foundation.Bytes
import Mathlib.Computability.RegularExpressions

/-!
# Regular expressions as programs write them

Mathlib's regular expressions over bytes, with the operators of the usual notation: literal text,
character classes, `?`, `+` and counted repetition. `RegularExpression.rmatch` matches a whole
string, as `std::regex_match` does, so the anchors `^` and `$` around an expression add nothing and
are left out.

What an expression matches is read off its operators. A class repeated matches the strings of the
right length all of whose bytes are in the class (`rmatch_oneOrMore_oneOf_iff`,
`mem_between_oneOf_iff`); pieces with a separator behind each but the last match what the pieces
make when they are joined (`mem_pow_separated_iff`); and no match has a byte that the expression
does not mention (`mem_chars_of_mem`).
-/

namespace Foundation

/-- A regular expression over bytes. -/
abbrev Regex := RegularExpression UInt8

namespace Regex

open RegularExpression ByteString
open scoped Computability

/-- A literal text. -/
def lit (s : String) : Regex := (ofString s).foldr (fun c r ↦ char c * r) 1

/-- A character class `[...]`. -/
def oneOf (cs : ByteString) : Regex := cs.foldr (fun c r ↦ char c + r) 0

/-- `r?`. -/
def optional (r : Regex) : Regex := r + 1

/-- `r+`. -/
def oneOrMore (r : Regex) : Regex := r * r.star

/-- `r{m,n}`. -/
def between (r : Regex) (m n : ℕ) : Regex := r ^ m * optional r ^ (n - m)

/-- `r{m,}`. -/
def atLeast (r : Regex) (m : ℕ) : Regex := r ^ m * r.star

/-- `\d`. -/
def digits : ByteString := ofString "0123456789"

/-- `a-zA-Z`. -/
def letters : ByteString := ofString "abcdefghijklmnopqrstuvwxyzABCDEFGHIJKLMNOPQRSTUVWXYZ"

/-- `0-9a-fA-F`. -/
def hexDigits : ByteString := ofString "0123456789abcdefABCDEF"

/-- The characters from one to another are those whose codes lie between. -/
theorem mem_codes_iff {c : UInt8} {lo n : ℕ} (h : lo + n ≤ 256) :
    c ∈ (List.range' lo n).map UInt8.ofNat ↔ lo ≤ c.toNat ∧ c.toNat < lo + n := by
  rw [List.mem_map]
  constructor
  · rintro ⟨m, hm, rfl⟩
    rw [List.mem_range'_1] at hm
    rwa [UInt8.toNat_ofNat_of_lt' (by show m < 256; omega)]
  · exact fun hc ↦ ⟨c.toNat, List.mem_range'_1.mpr hc, UInt8.ofNat_toNat⟩

theorem mem_digits_iff {c : UInt8} : c ∈ digits ↔ 48 ≤ c.toNat ∧ c.toNat ≤ 57 := by
  have hcodes : digits = (List.range' 48 10).map UInt8.ofNat := by decide
  rw [hcodes, mem_codes_iff (by decide), Nat.lt_succ_iff]

theorem mem_matches'_oneOf {cs x : ByteString} : x ∈ (oneOf cs).matches' ↔ ∃ c ∈ cs, x = [c] := by
  induction cs with
  | nil => exact ⟨fun h ↦ absurd h (Language.notMem_zero x), by simp⟩
  | cons c cs ih =>
    show x ∈ (char c + oneOf cs).matches' ↔ _
    rw [matches'_add, Language.mem_add, ih, matches'_char, List.exists_mem_cons_iff]
    rfl

/-- Matches of a class, one behind the other, are as many bytes of it. -/
theorem flatten_of_oneOf {cs : ByteString} {L : List ByteString}
    (hL : ∀ y ∈ L, y ∈ (oneOf cs).matches') :
    L.length = L.flatten.length ∧ ∀ c ∈ L.flatten, c ∈ cs := by
  induction L with
  | nil => exact ⟨rfl, fun _ hc ↦ absurd hc List.not_mem_nil⟩
  | cons y L ih =>
    rw [List.forall_mem_cons] at hL
    obtain ⟨hlength, hmem⟩ := ih hL.2
    obtain ⟨c, hc, rfl⟩ := mem_matches'_oneOf.mp hL.1
    rw [List.flatten_cons, List.singleton_append, List.length_cons, List.length_cons, hlength]
    exact ⟨rfl, List.forall_mem_cons.mpr ⟨hc, hmem⟩⟩

/-- A string is its bytes, one behind the other. -/
theorem oneOf_of_forall_mem {cs x : ByteString} (hx : ∀ c ∈ x, c ∈ cs) :
    (∀ y ∈ x.map fun c ↦ [c], y ∈ (oneOf cs).matches') ∧ x = (x.map fun c ↦ [c]).flatten := by
  refine ⟨fun y hy ↦ ?_, ?_⟩
  · obtain ⟨c, hc, rfl⟩ := List.mem_map.mp hy
    exact mem_matches'_oneOf.mpr ⟨c, hx c hc, rfl⟩
  · rw [← List.flatMap_def, List.flatMap_singleton']

/-- A class, repeated at least once. -/
theorem rmatch_oneOrMore_oneOf_iff {cs x : ByteString} :
    (oneOrMore (oneOf cs)).rmatch x ↔ x ≠ [] ∧ ∀ c ∈ x, c ∈ cs := by
  have hstar : ∀ y : ByteString, y ∈ (oneOf cs).matches'∗ ↔ ∀ c ∈ y, c ∈ cs := by
    intro y
    rw [Language.mem_kstar]
    constructor
    · rintro ⟨L, rfl, hL⟩
      exact (flatten_of_oneOf hL).2
    · intro hy
      obtain ⟨hL, hflatten⟩ := oneOf_of_forall_mem hy
      exact ⟨_, hflatten, hL⟩
  rw [rmatch_iff_matches', oneOrMore, matches'_mul, matches'_star, Language.mem_mul]
  constructor
  · rintro ⟨a, ha, b, hb, rfl⟩
    obtain ⟨c, hc, rfl⟩ := mem_matches'_oneOf.mp ha
    exact ⟨List.cons_ne_nil c b, List.forall_mem_cons.mpr ⟨hc, (hstar b).mp hb⟩⟩
  · rintro ⟨hne, hx⟩
    obtain ⟨c, y, rfl⟩ := List.exists_cons_of_ne_nil hne
    rw [List.forall_mem_cons] at hx
    exact ⟨[c], mem_matches'_oneOf.mpr ⟨c, hx.1, rfl⟩, y, (hstar y).mpr hx.2, rfl⟩

/-! ## The operators -/

variable {r : Regex} {x : ByteString}

theorem mem_lit_iff {text : String} : x ∈ (lit text).matches' ↔ x = ofString text := by
  rw [lit]
  induction ofString text generalizing x with
  | nil => rfl
  | cons c cs ih =>
    rw [List.foldr_cons, matches'_mul, matches'_char, Language.mem_mul]
    constructor
    · rintro ⟨a, rfl, b, hb, rfl⟩
      rw [ih.mp hb]
      rfl
    · rintro rfl
      exact ⟨[c], rfl, cs, ih.mpr rfl, rfl⟩

theorem mem_mul_lit_mul_iff {q : Regex} {text : String} : x ∈ (r * lit text * q).matches' ↔
    ∃ a ∈ r.matches', ∃ b ∈ q.matches', x = a ++ ofString text ++ b := by
  simp only [matches'_mul, Language.mem_mul, mem_lit_iff]
  constructor
  · rintro ⟨_, ⟨a, ha, _, rfl, rfl⟩, b, hb, rfl⟩
    exact ⟨a, ha, b, hb, rfl⟩
  · rintro ⟨a, ha, b, hb, rfl⟩
    exact ⟨_, ⟨a, ha, _, rfl, rfl⟩, b, hb, rfl⟩

theorem mem_optional_iff : x ∈ (optional r).matches' ↔ x ∈ r.matches' ∨ x = [] := Iff.rfl

theorem mem_pow_iff {k : ℕ} : x ∈ (r ^ k).matches' ↔
    ∃ L : List ByteString, L.length = k ∧ (∀ y ∈ L, y ∈ r.matches') ∧ x = L.flatten := by
  rw [matches'_pow, Language.mem_pow]
  exact exists_congr fun L ↦ ⟨fun ⟨hx, hk, hL⟩ ↦ ⟨hk, hL, hx⟩, fun ⟨hk, hL, hx⟩ ↦ ⟨hx, hk, hL⟩⟩

/-- What is optional may be left out. -/
theorem mem_optional_pow_iff {k : ℕ} : x ∈ (optional r ^ k).matches' ↔
    ∃ L : List ByteString, L.length ≤ k ∧ (∀ y ∈ L, y ∈ r.matches') ∧ x = L.flatten := by
  rw [mem_pow_iff]
  constructor
  · rintro ⟨L, hlength, hL, rfl⟩
    refine ⟨L.filter (· ≠ []), hlength ▸ List.length_filter_le _ _, fun y hy ↦ ?_, ?_⟩
    · rw [List.mem_filter, decide_eq_true_iff] at hy
      exact (hL y hy.1).resolve_right hy.2
    · exact List.flatten_filter_ne_nil.symm
  · rintro ⟨L, hlength, hL, rfl⟩
    refine ⟨L ++ List.replicate (k - L.length) [], ?_, fun y hy ↦ ?_, ?_⟩
    · rw [List.length_append, List.length_replicate]
      omega
    · rcases List.mem_append.mp hy with hy | hy
      · exact .inl (hL y hy)
      · exact .inr (List.eq_of_mem_replicate hy)
    · simp

/-- `r{m,n}` matches between `m` and `n` matches in a row. -/
theorem mem_between_iff {m n : ℕ} (hmn : m ≤ n) : x ∈ (between r m n).matches' ↔
    ∃ L : List ByteString, m ≤ L.length ∧ L.length ≤ n ∧ (∀ y ∈ L, y ∈ r.matches') ∧
      x = L.flatten := by
  rw [between, matches'_mul, Language.mem_mul]
  constructor
  · rintro ⟨a, ha, b, hb, rfl⟩
    obtain ⟨L, hlength, hL, rfl⟩ := mem_pow_iff.mp ha
    obtain ⟨L', hlength', hL', rfl⟩ := mem_optional_pow_iff.mp hb
    refine ⟨L ++ L', ?_, ?_, fun y hy ↦ ?_, List.flatten_append.symm⟩
    · rw [List.length_append]
      omega
    · rw [List.length_append]
      omega
    · exact (List.mem_append.mp hy).elim (hL y) (hL' y)
  · rintro ⟨L, hm, hn, hL, rfl⟩
    refine ⟨(L.take m).flatten, mem_pow_iff.mpr ⟨_, ?_, fun y hy ↦ hL y (List.mem_of_mem_take hy),
      rfl⟩, (L.drop m).flatten, mem_optional_pow_iff.mpr ⟨_, ?_,
      fun y hy ↦ hL y (List.mem_of_mem_drop hy), rfl⟩, ?_⟩
    · rw [List.length_take]
      omega
    · rw [List.length_drop]
      omega
    · rw [← List.flatten_append, List.take_append_drop]

theorem mem_pow_oneOf_iff {cs : ByteString} {k : ℕ} :
    x ∈ (oneOf cs ^ k).matches' ↔ x.length = k ∧ ∀ c ∈ x, c ∈ cs := by
  rw [mem_pow_iff]
  constructor
  · rintro ⟨L, rfl, hL, rfl⟩
    obtain ⟨hlength, hmem⟩ := flatten_of_oneOf hL
    exact ⟨hlength.symm, hmem⟩
  · rintro ⟨rfl, hx⟩
    obtain ⟨hL, hflatten⟩ := oneOf_of_forall_mem hx
    exact ⟨x.map fun c ↦ [c], List.length_map _, hL, hflatten⟩

/-- A class, repeated. -/
theorem mem_between_oneOf_iff {cs : ByteString} {m n : ℕ} (hmn : m ≤ n) :
    x ∈ (between (oneOf cs) m n).matches' ↔ m ≤ x.length ∧ x.length ≤ n ∧ ∀ c ∈ x, c ∈ cs := by
  rw [mem_between_iff hmn]
  constructor
  · rintro ⟨L, hm, hn, hL, rfl⟩
    obtain ⟨hlength, hmem⟩ := flatten_of_oneOf hL
    exact ⟨hlength ▸ hm, hlength ▸ hn, hmem⟩
  · rintro ⟨hm, hn, hx⟩
    obtain ⟨hL, hflatten⟩ := oneOf_of_forall_mem hx
    exact ⟨x.map fun c ↦ [c], by rwa [List.length_map], by rwa [List.length_map], hL, hflatten⟩

/-! ## Separated pieces -/

theorem flatten_map_append (sep : ByteString) (ps : List ByteString) (last : ByteString) :
    (ps.map (· ++ sep)).flatten ++ last = sep.intercalate (ps ++ [last]) := by
  induction ps with
  | nil => exact List.intercalate_singleton.symm
  | cons p ps ih =>
    rw [List.map_cons, List.flatten_cons, List.append_assoc, ih, List.cons_append,
      List.intercalate_cons_of_ne_nil (List.concat_ne_nil _ _)]

theorem exists_pieces {sep : String} {L : List ByteString}
    (hL : ∀ y ∈ L, y ∈ (r * lit sep).matches') :
    ∃ ps : List ByteString, ps.length = L.length ∧ (∀ p ∈ ps, p ∈ r.matches') ∧
      L = ps.map (· ++ ofString sep) := by
  induction L with
  | nil => exact ⟨[], rfl, fun _ hp ↦ absurd hp List.not_mem_nil, rfl⟩
  | cons y L ih =>
    rw [List.forall_mem_cons] at hL
    obtain ⟨ps, hlength, hps, rfl⟩ := ih hL.2
    obtain ⟨p, hp, t, ht, rfl⟩ := Language.mem_mul.mp hL.1
    refine ⟨p :: ps, congrArg (· + 1) hlength, List.forall_mem_cons.mpr ⟨hp, hps⟩, ?_⟩
    rw [mem_lit_iff.mp ht, List.map_cons]

/-- Pieces with a separator behind each, and a last one. -/
theorem mem_separated_iff {q : Regex} (sep : String) (P : ℕ → Prop)
    (hq : ∀ y, y ∈ q.matches' ↔ ∃ L : List ByteString, P L.length ∧
      (∀ z ∈ L, z ∈ (r * lit sep).matches') ∧ y = L.flatten) :
    x ∈ (q * r).matches' ↔ ∃ ps : List ByteString, ps ≠ [] ∧ P (ps.length - 1) ∧
      (∀ p ∈ ps, p ∈ r.matches') ∧ x = (ofString sep).intercalate ps := by
  rw [matches'_mul, Language.mem_mul]
  constructor
  · rintro ⟨a, ha, last, hlast, rfl⟩
    obtain ⟨L, hP, hL, rfl⟩ := (hq a).mp ha
    obtain ⟨ps, hlength, hps, rfl⟩ := exists_pieces hL
    refine ⟨ps ++ [last], List.concat_ne_nil _ _, ?_, fun p hp ↦ ?_, flatten_map_append _ _ _⟩
    · rwa [List.length_append, List.length_singleton, Nat.add_sub_cancel, hlength]
    · rcases List.mem_append.mp hp with hp | hp
      · exact hps p hp
      · rwa [List.mem_singleton.mp hp]
  · rintro ⟨ps, hne, hP, hps, rfl⟩
    obtain ⟨ps, last, rfl⟩ := (List.eq_nil_or_concat' ps).resolve_left hne
    rw [List.length_append, List.length_singleton, Nat.add_sub_cancel] at hP
    refine ⟨(ps.map (· ++ ofString sep)).flatten, (hq _).mpr ⟨_, by rwa [List.length_map], ?_, rfl⟩,
      last, hps last (List.mem_append_right _ List.mem_cons_self), flatten_map_append _ _ _⟩
    intro z hz
    obtain ⟨p, hp, rfl⟩ := List.mem_map.mp hz
    exact Language.append_mem_mul (hps p (List.mem_append_left _ hp)) (mem_lit_iff.mpr rfl)

theorem mem_pow_separated_iff {sep : String} {k : ℕ} : x ∈ ((r * lit sep) ^ k * r).matches' ↔
    ∃ ps : List ByteString, ps.length = k + 1 ∧ (∀ p ∈ ps, p ∈ r.matches') ∧
      x = (ofString sep).intercalate ps := by
  rw [mem_separated_iff sep (· = k) fun y ↦ mem_pow_iff]
  refine exists_congr fun ps ↦ ?_
  rw [← and_assoc, ← List.length_pos_iff]
  exact and_congr_left fun _ ↦ by omega

theorem mem_between_separated_iff {sep : String} {m n : ℕ} (hmn : m ≤ n) :
    x ∈ (between (r * lit sep) m n * r).matches' ↔
      ∃ ps : List ByteString, m + 1 ≤ ps.length ∧ ps.length ≤ n + 1 ∧
        (∀ p ∈ ps, p ∈ r.matches') ∧ x = (ofString sep).intercalate ps := by
  have hbetween : ∀ y, y ∈ (between (r * lit sep) m n).matches' ↔ ∃ L : List ByteString,
      (m ≤ L.length ∧ L.length ≤ n) ∧ (∀ z ∈ L, z ∈ (r * lit sep).matches') ∧ y = L.flatten := by
    intro y
    rw [mem_between_iff hmn]
    simp only [and_assoc]
  rw [mem_separated_iff sep (fun k ↦ m ≤ k ∧ k ≤ n) hbetween]
  refine exists_congr fun ps ↦ ?_
  rw [← and_assoc, ← and_assoc (a := m + 1 ≤ ps.length), ← List.length_pos_iff]
  exact and_congr_left fun _ ↦ by omega

/-! ## The characters of an expression -/

/-- The characters that an expression mentions. -/
def chars : Regex → ByteString
  | .zero | .epsilon => []
  | .char c => [c]
  | .plus r s | .comp r s => chars r ++ chars s
  | .star r => chars r

/-- A match consists of them. -/
theorem mem_chars_of_mem (hx : x ∈ r.matches') : ∀ c ∈ x, c ∈ chars r := by
  induction r generalizing x with
  | zero => cases hx
  | epsilon =>
    obtain rfl : x = [] := hx
    exact fun _ hc ↦ absurd hc List.not_mem_nil
  | char d =>
    obtain rfl : x = [d] := hx
    exact fun _ hc ↦ hc
  | plus r s hr hs =>
    intro c hc
    rcases hx with hx | hx
    · exact List.mem_append_left _ (hr hx c hc)
    · exact List.mem_append_right _ (hs hx c hc)
  | comp r s hr hs =>
    obtain ⟨a, ha, b, hb, rfl⟩ := Language.mem_mul.mp hx
    intro c hc
    rcases List.mem_append.mp hc with hc | hc
    · exact List.mem_append_left _ (hr ha c hc)
    · exact List.mem_append_right _ (hs hb c hc)
  | star r hr =>
    obtain ⟨L, rfl, hL⟩ := Language.mem_kstar.mp hx
    intro c hc
    obtain ⟨y, hy, hcy⟩ := List.mem_flatten.mp hc
    exact hr (hL y hy) c hcy

end Regex

end Foundation
