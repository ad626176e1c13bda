import LanProxyGateway.Foundation.Regex
import LanProxyGateway.Foundation.Text

/-!
# What a text of an address looks like

A dotted quad has four parts up to 255. An IPv6 text has eight groups of hexadecimal digits, or
fewer and `::` once in the place of the others.

A text with colons is told by its pieces between the colons. `ColonShape` says no more of them than
that there are three to eight, of at most four hexadecimal digits, any of which may be missing. Such
a text is an IPv6 text unless its empty pieces are `Misplaced` (`isV6Pieces_iff`).
-/

namespace Foundation

open ByteString

/-! ## Lists joined by a separator -/

theorem intercalate_append {sep : ByteString} {ps qs : List ByteString} (hp : ps ≠ [])
    (hq : qs ≠ []) :
    sep.intercalate (ps ++ qs) = sep.intercalate ps ++ sep ++ sep.intercalate qs := by
  induction ps with
  | nil => exact absurd rfl hp
  | cons p ps ih =>
    rcases List.eq_nil_or_concat' ps with rfl | ⟨ps', p', rfl⟩
    · rw [List.singleton_append, List.intercalate_cons_of_ne_nil hq, List.intercalate_singleton]
    · have hne := List.concat_ne_nil p' ps'
      rw [List.cons_append,
        List.intercalate_cons_of_ne_nil (List.append_ne_nil_of_left_ne_nil hne qs), ih hne,
        List.intercalate_cons_of_ne_nil hne]
      simp only [List.append_assoc]

theorem mem_intercalate {sep : ByteString} {ps : List ByteString} {c : UInt8}
    (h : c ∈ sep.intercalate ps) : c ∈ sep ∨ ∃ p ∈ ps, c ∈ p := by
  induction ps with
  | nil => exact absurd h List.not_mem_nil
  | cons p ps ih =>
    rcases ps with _ | ⟨q, ps⟩
    · rw [List.intercalate_singleton] at h
      exact .inr ⟨p, List.mem_cons_self, h⟩
    · rw [List.intercalate_cons_cons, List.mem_append, List.mem_append] at h
      rcases h with (h | h) | h
      · exact .inr ⟨p, List.mem_cons_self, h⟩
      · exact .inl h
      · exact (ih h).imp id fun ⟨p', hp', hc⟩ ↦ ⟨p', List.mem_cons_of_mem p hp', hc⟩

/-- The pieces can be told from the text. -/
theorem intercalate_inj {c : UInt8} {ps qs : List ByteString} (hp : ps ≠ []) (hq : qs ≠ [])
    (hpc : ∀ p ∈ ps, c ∉ p) (hqc : ∀ q ∈ qs, c ∉ q)
    (h : [c].intercalate ps = [c].intercalate qs) : ps = qs := by
  rw [← List.splitOn_intercalate c hpc hp, h, List.splitOn_intercalate c hqc hq]

/-! ## Dotted quads -/

/-- Four numbers of up to three digits, with dots between them. -/
def QuadShape (ps : List ByteString) : Prop :=
  ps.length = 4 ∧ ∀ p ∈ ps, IsDecimal p ∧ p.length ≤ 3

/-- A dotted quad: none of the numbers is above 255. -/
def IsQuad (s : ByteString) : Prop :=
  ∃ ps, QuadShape ps ∧ (∀ p ∈ ps, digitsValue p ≤ 255) ∧ s = (ofString ".").intercalate ps

theorem QuadShape.dot_not_mem {ps : List ByteString} (h : QuadShape ps) : ∀ p ∈ ps, 46 ∉ p :=
  fun p hp hmem ↦ absurd ((h.2 p hp).1.2 46 hmem) (by decide)

theorem QuadShape.ne_nil {ps : List ByteString} (h : QuadShape ps) : ps ≠ [] := by
  rintro rfl
  exact absurd h.1 (by decide)

/-! ## IPv6 texts -/

/-- One to four hexadecimal digits. -/
def IsGroup (g : ByteString) : Prop := g ≠ [] ∧ g.length ≤ 4 ∧ ∀ c ∈ g, c ∈ Regex.hexDigits

/-- Eight groups, or `::` in the place of one group or more. -/
def IsV6Text (s : ByteString) : Prop :=
  (∃ gs, gs.length = 8 ∧ (∀ g ∈ gs, IsGroup g) ∧ s = (ofString ":").intercalate gs) ∨
  ∃ before after, (∀ g ∈ before, IsGroup g) ∧ (∀ g ∈ after, IsGroup g) ∧
    before.length + after.length ≤ 7 ∧
    s = (ofString ":").intercalate before ++ ofString "::" ++ (ofString ":").intercalate after

/-- The pieces on one side of `::`: where there is no group, there is an empty piece. -/
def side (gs : List ByteString) : List ByteString := if gs = [] then [[]] else gs

/-- The pieces of an IPv6 text. -/
def IsV6Pieces (ps : List ByteString) : Prop :=
  (ps.length = 8 ∧ ∀ g ∈ ps, IsGroup g) ∨
  ∃ before after, (∀ g ∈ before, IsGroup g) ∧ (∀ g ∈ after, IsGroup g) ∧
    before.length + after.length ≤ 7 ∧ ps = side before ++ [] :: side after

theorem side_ne_nil (gs : List ByteString) : side gs ≠ [] := by
  rw [side]
  split
  · exact List.cons_ne_nil _ _
  · assumption

theorem intercalate_side (gs : List ByteString) :
    (ofString ":").intercalate (side gs) = (ofString ":").intercalate gs := by
  rw [side]
  split
  · rename_i h
    rw [h]
    rfl
  · rfl

theorem mem_side {g : ByteString} {gs : List ByteString} (h : g ∈ side gs) : g = [] ∨ g ∈ gs := by
  rw [side] at h
  split at h
  · exact .inl (List.mem_singleton.mp h)
  · exact .inr h

theorem intercalate_sides (before after : List ByteString) :
    (ofString ":").intercalate (side before ++ [] :: side after) =
      (ofString ":").intercalate before ++ ofString "::" ++ (ofString ":").intercalate after := by
  rw [intercalate_append (side_ne_nil _) (List.cons_ne_nil _ _), intercalate_side,
    List.intercalate_cons_of_ne_nil (side_ne_nil _), intercalate_side, List.nil_append,
    ← List.append_assoc, List.append_assoc _ (ofString ":") (ofString ":")]
  rfl

theorem isV6Text_iff {s : ByteString} :
    IsV6Text s ↔ ∃ ps, IsV6Pieces ps ∧ s = (ofString ":").intercalate ps := by
  constructor
  · rintro (⟨gs, hlength, hgs, rfl⟩ | ⟨before, after, hb, ha, hle, rfl⟩)
    · exact ⟨gs, .inl ⟨hlength, hgs⟩, rfl⟩
    · exact ⟨_, .inr ⟨before, after, hb, ha, hle, rfl⟩, (intercalate_sides before after).symm⟩
  · rintro ⟨ps, ⟨hlength, hgs⟩ | ⟨before, after, hb, ha, hle, rfl⟩, rfl⟩
    · exact .inl ⟨ps, hlength, hgs, rfl⟩
    · exact .inr ⟨before, after, hb, ha, hle, intercalate_sides before after⟩

theorem length_side (gs : List ByteString) : (side gs).length = max 1 gs.length := by
  rw [side]
  split
  · rename_i h
    rw [h]
    rfl
  · rename_i h
    have := List.length_pos_iff.mpr h
    omega

/-- Every piece is a group, or empty. -/
theorem IsV6Pieces.mem {ps : List ByteString} (h : IsV6Pieces ps) :
    ∀ p ∈ ps, p = [] ∨ IsGroup p := by
  intro p hp
  rcases h with ⟨-, hgs⟩ | ⟨before, after, hb, ha, -, rfl⟩
  · exact .inr (hgs p hp)
  · rcases List.mem_append.mp hp with hp | hp
    · exact (mem_side hp).imp id (hb p)
    · rcases List.mem_cons.mp hp with hp | hp
      · exact .inl hp
      · exact (mem_side hp).imp id (ha p)

theorem IsV6Pieces.ne_nil {ps : List ByteString} (h : IsV6Pieces ps) : ps ≠ [] := by
  rintro rfl
  rcases h with ⟨hlength, -⟩ | ⟨before, after, -, -, -, hps⟩
  · exact absurd hlength (by decide)
  · exact List.append_ne_nil_of_right_ne_nil _ (List.cons_ne_nil _ _) hps.symm

/-! ## Pieces between colons -/

/-- Three to eight pieces of at most four hexadecimal digits. -/
structure ColonShape (ps : List ByteString) : Prop where
  three : 3 ≤ ps.length
  eight : ps.length ≤ 8
  short : ∀ p ∈ ps, p.length ≤ 4
  hex : ∀ p ∈ ps, ∀ c ∈ p, c ∈ Regex.hexDigits

/-- The pieces with a colon on either side: `::` is where one of them is empty. -/
def inner (ps : List ByteString) : List ByteString := ps.tail.dropLast

/-- The ways in which empty pieces make no IPv6 text. -/
inductive Misplaced (ps : List ByteString) : Prop
  /-- The text begins with a colon, and not with two. -/
  | first {p : ByteString} {rest : List ByteString} (hps : ps = [] :: p :: rest) (hp : p ≠ [])
  /-- It ends with a colon, and not with two. -/
  | last {p : ByteString} {rest : List ByteString} (hps : ps = rest ++ [p, []]) (hp : p ≠ [])
  /-- `::` is there twice. -/
  | twice (hcount : 2 ≤ (inner ps).count [])
  /-- `::` is not there, and groups are missing. -/
  | few (hnone : [] ∉ inner ps) (hlength : ps.length < 8)

theorem inner_eq (p q : ByteString) (mid : List ByteString) : inner (p :: (mid ++ [q])) = mid :=
  List.dropLast_concat

theorem exists_inner {ps : List ByteString} (h : 3 ≤ ps.length) :
    ∃ p mid q, mid ≠ [] ∧ ps = p :: (mid ++ [q]) := by
  rcases ps with _ | ⟨p, ps⟩
  · exact absurd h (by decide)
  rcases List.eq_nil_or_concat' ps with rfl | ⟨mid, q, rfl⟩
  · exact absurd h (by simp)
  · refine ⟨p, mid, q, ?_, rfl⟩
    rintro rfl
    exact absurd h (by simp)

theorem ColonShape.isGroup {ps : List ByteString} (h : ColonShape ps) {p : ByteString} (hp : p ∈ ps)
    (hne : p ≠ []) : IsGroup p := ⟨hne, h.short p hp, h.hex p hp⟩

theorem not_mem_of_isGroup {gs : List ByteString} (h : ∀ g ∈ gs, IsGroup g) : [] ∉ gs :=
  fun hmem ↦ (h [] hmem).1 rfl

/-- The pieces in front of `::` are a side, if the first is empty only when it is the only one. -/
theorem exists_before {p : ByteString} {front : List ByteString}
    (hgroup : ∀ q ∈ p :: front, q ≠ [] → IsGroup q) (hfront : [] ∉ front)
    (hfirst : p = [] → front = []) :
    ∃ before, (∀ g ∈ before, IsGroup g) ∧ before.length ≤ front.length + 1 ∧
      side before = p :: front := by
  by_cases hp : p = []
  · refine ⟨[], fun _ hg ↦ absurd hg List.not_mem_nil, Nat.zero_le _, ?_⟩
    rw [hp, hfirst hp]
    rfl
  · refine ⟨p :: front, fun g hg ↦ hgroup g hg ?_, le_rfl, if_neg (List.cons_ne_nil _ _)⟩
    rintro rfl
    rcases List.mem_cons.mp hg with hg | hg
    · exact hp hg.symm
    · exact hfront hg

/-- So are those behind it. -/
theorem exists_after {q : ByteString} {back : List ByteString}
    (hgroup : ∀ p ∈ back ++ [q], p ≠ [] → IsGroup p) (hback : [] ∉ back)
    (hlast : q = [] → back = []) :
    ∃ after, (∀ g ∈ after, IsGroup g) ∧ after.length ≤ back.length + 1 ∧
      side after = back ++ [q] := by
  by_cases hq : q = []
  · refine ⟨[], fun _ hg ↦ absurd hg List.not_mem_nil, Nat.zero_le _, ?_⟩
    rw [hq, hlast hq]
    rfl
  · refine ⟨back ++ [q], fun g hg ↦ hgroup g hg ?_, by simp, if_neg (List.concat_ne_nil _ _)⟩
    rintro rfl
    rcases List.mem_append.mp hg with hg | hg
    · exact hback hg
    · exact hq (List.mem_singleton.mp hg).symm

theorem ColonShape.ne_nil {ps : List ByteString} (h : ColonShape ps) : ps ≠ [] := by
  rintro rfl
  exact absurd h.three (by decide)

theorem ColonShape.colon_not_mem {ps : List ByteString} (h : ColonShape ps) : ∀ p ∈ ps, 58 ∉ p :=
  fun p hp hmem ↦ absurd (h.hex p hp 58 hmem) (by decide)

theorem IsV6Pieces.colon_not_mem {ps : List ByteString} (h : IsV6Pieces ps) :
    ∀ p ∈ ps, 58 ∉ p := by
  intro p hp hmem
  rcases h.mem p hp with rfl | hgroup
  · exact List.not_mem_nil hmem
  · exact absurd (hgroup.2.2 58 hmem) (by decide)

theorem IsV6Pieces.colonShape {ps : List ByteString} (h : IsV6Pieces ps) (hthree : 3 ≤ ps.length)
    (height : ps.length ≤ 8) : ColonShape ps where
  three := hthree
  eight := height
  short p hp := by
    rcases h.mem p hp with rfl | hgroup
    · exact Nat.zero_le 4
    · exact hgroup.2.1
  hex p hp := by
    rcases h.mem p hp with rfl | hgroup
    · exact fun _ hc ↦ absurd hc List.not_mem_nil
    · exact hgroup.2.2

theorem isV6Pieces_of_not_misplaced {ps : List ByteString} (hshape : ColonShape ps)
    (h : ¬Misplaced ps) : IsV6Pieces ps := by
  obtain ⟨p, mid, q, hmid, rfl⟩ := exists_inner hshape.three
  have hfirst : p = [] → ∀ r rest, mid = r :: rest → r = [] := by
    rintro rfl r rest rfl
    by_contra hr
    exact h (.first rfl hr)
  have hlast : q = [] → ∀ rest r, mid = rest ++ [r] → r = [] := by
    rintro rfl rest r rfl
    by_contra hr
    have hend : p :: (rest ++ [r] ++ [[]]) = (p :: rest) ++ [r, []] := by
      rw [List.append_assoc]
      rfl
    exact h (.last hend hr)
  have hgroup : ∀ r ∈ p :: (mid ++ [q]), r ≠ [] → IsGroup r := fun r ↦ hshape.isGroup
  by_cases hempty : [] ∈ mid
  · obtain ⟨front, back, rfl⟩ := List.append_of_mem hempty
    have hcount : ¬2 ≤ (front ++ [] :: back).count [] := fun hcount ↦
      h (.twice (by rwa [inner_eq]))
    rw [List.count_append, List.count_cons_self] at hcount
    have hfront : [] ∉ front := List.count_eq_zero.mp (by omega)
    have hback : [] ∉ back := List.count_eq_zero.mp (by omega)
    have hfirst' : p = [] → front = [] := by
      intro hp
      rcases front with _ | ⟨r, front⟩
      · rfl
      · exact absurd (hfirst hp r _ rfl ▸ List.mem_cons_self) hfront
    have hlast' : q = [] → back = [] := by
      intro hq
      rcases List.eq_nil_or_concat' back with rfl | ⟨back', r, rfl⟩
      · rfl
      · have hr := hlast hq (front ++ [] :: back') r (by simp)
        exact absurd (hr ▸ List.mem_append_right _ List.mem_cons_self) hback
    have hbegin : ∀ r ∈ p :: front, r ∈ p :: (front ++ [] :: back ++ [q]) := fun r hr ↦
      List.mem_cons.mpr ((List.mem_cons.mp hr).imp id fun hr ↦
        List.mem_append_left _ (List.mem_append_left _ hr))
    have hend : ∀ r ∈ back ++ [q], r ∈ p :: (front ++ [] :: back ++ [q]) := fun r hr ↦
      List.mem_cons_of_mem _ (List.mem_append.mpr ((List.mem_append.mp hr).imp (fun hr ↦
        List.mem_append_right _ (List.mem_cons_of_mem _ hr)) id))
    obtain ⟨before, hb, hble, hbside⟩ :=
      exists_before (fun r hr ↦ hgroup r (hbegin r hr)) hfront hfirst'
    obtain ⟨after, ha, hale, haside⟩ :=
      exists_after (fun r hr ↦ hgroup r (hend r hr)) hback hlast'
    refine .inr ⟨before, after, hb, ha, ?_, ?_⟩
    · have := hshape.eight
      simp only [List.length_cons, List.length_append, List.length_nil] at this
      omega
    · rw [hbside, haside]
      simp
  · have hp : p ≠ [] := by
      intro hp
      obtain ⟨r, rest, rfl⟩ := List.exists_cons_of_ne_nil hmid
      exact hempty (hfirst hp r rest rfl ▸ List.mem_cons_self)
    have hq : q ≠ [] := by
      intro hq
      obtain ⟨rest, r, rfl⟩ := (List.eq_nil_or_concat' mid).resolve_left hmid
      exact hempty (hlast hq rest r rfl ▸ List.mem_append_right _ List.mem_cons_self)
    have hlength : ¬(p :: (mid ++ [q])).length < 8 := fun hlength ↦
      h (.few (by rwa [inner_eq]) hlength)
    refine .inl ⟨le_antisymm hshape.eight (Nat.not_lt.mp hlength), fun r hr ↦ hgroup r hr ?_⟩
    rintro rfl
    rcases List.mem_cons.mp hr with hr | hr
    · exact hp hr.symm
    · rcases List.mem_append.mp hr with hr | hr
      · exact hempty hr
      · exact hq (List.mem_singleton.mp hr).symm

theorem side_of_ne_nil {gs : List ByteString} (h : gs ≠ []) : side gs = gs := if_neg h

/-- Only the text between the sides has an empty piece inside. -/
theorem inner_sides {before after : List ByteString} (hb : ∀ g ∈ before, IsGroup g)
    (ha : ∀ g ∈ after, IsGroup g) : [] ∈ inner (side before ++ [] :: side after) ∧
      (inner (side before ++ [] :: side after)).count [] = 1 := by
  have hinner : inner (side before ++ [] :: side after) =
      (side before).tail ++ [] :: (side after).dropLast := by
    rw [inner, List.tail_append_of_ne_nil (side_ne_nil before),
      List.dropLast_append_of_ne_nil (List.cons_ne_nil _ _),
      List.dropLast_cons_of_ne_nil (side_ne_nil after)]
  have hbefore : [] ∉ (side before).tail := by
    rw [side]
    split
    · exact List.not_mem_nil
    · exact fun hmem ↦ not_mem_of_isGroup hb (List.mem_of_mem_tail hmem)
  have hafter : [] ∉ (side after).dropLast := by
    rw [side]
    split
    · exact List.not_mem_nil
    · exact fun hmem ↦ not_mem_of_isGroup ha (List.mem_of_mem_dropLast hmem)
  rw [hinner, List.count_append, List.count_cons_self, List.count_eq_zero.mpr hbefore,
    List.count_eq_zero.mpr hafter]
  exact ⟨List.mem_append_right _ List.mem_cons_self, rfl⟩

theorem not_misplaced_of_isV6Pieces {ps : List ByteString} (h : IsV6Pieces ps) :
    ¬Misplaced ps := by
  rcases h with ⟨hlength, hgs⟩ | ⟨before, after, hb, ha, -, rfl⟩
  · have hnone := not_mem_of_isGroup hgs
    rintro (⟨rfl, -⟩ | ⟨rfl, -⟩ | hcount | ⟨-, hshort⟩)
    · exact hnone List.mem_cons_self
    · exact hnone (by simp)
    · have hinner : [] ∉ inner ps := fun hmem ↦
        hnone (List.mem_of_mem_tail (List.mem_of_mem_dropLast hmem))
      rw [List.count_eq_zero.mpr hinner] at hcount
      exact absurd hcount (by decide)
    · omega
  · obtain ⟨hmem, hone⟩ := inner_sides hb ha
    rintro (⟨hps, hp⟩ | @⟨p, rest, hps, hp⟩ | hcount | ⟨hnone, -⟩)
    · rcases before with _ | ⟨b, bs⟩
      · exact hp (List.cons.inj (List.cons.inj hps).2).1.symm
      · rw [side_of_ne_nil (List.cons_ne_nil b bs)] at hps
        exact (hb b List.mem_cons_self).1 (List.cons.inj hps).1
    · rcases List.eq_nil_or_concat' after with rfl | ⟨bs, b, rfl⟩
      · exact hp (List.cons.inj (List.append_inj' hps rfl).2).1.symm
      · rw [side_of_ne_nil (List.concat_ne_nil b bs)] at hps
        have hend : (side before ++ [] :: bs) ++ [b] = (rest ++ [p]) ++ [[]] := by simpa using hps
        have hlast := (List.cons.inj (List.append_inj' hend rfl).2).1
        exact (ha b (List.mem_append_right _ List.mem_cons_self)).1 hlast
    · omega
    · exact hnone hmem

/-- **A text of the right shape** is an IPv6 text unless its empty pieces are misplaced. -/
theorem isV6Pieces_iff {ps : List ByteString} (hshape : ColonShape ps) :
    IsV6Pieces ps ↔ ¬Misplaced ps :=
  ⟨not_misplaced_of_isV6Pieces, isV6Pieces_of_not_misplaced hshape⟩

/-! ## Too many pieces -/

/-- Seven groups with `::` before or behind them, which make nine pieces. -/
def SevenGroups (s : ByteString) : Prop :=
  ∃ gs, gs.length = 7 ∧ (∀ g ∈ gs, IsGroup g) ∧
    (s = ofString "::" ++ (ofString ":").intercalate gs ∨
      s = (ofString ":").intercalate gs ++ ofString "::")

/-- No other IPv6 text has more than eight. -/
theorem exists_colonShape {s : ByteString} (h : IsV6Text s) :
    (∃ ps, ColonShape ps ∧ IsV6Pieces ps ∧ s = (ofString ":").intercalate ps) ∨ SevenGroups s := by
  obtain ⟨ps, hpieces, rfl⟩ := isV6Text_iff.mp h
  by_cases hlength : 3 ≤ ps.length ∧ ps.length ≤ 8
  · exact .inl ⟨ps, hpieces.colonShape hlength.1 hlength.2, hpieces, rfl⟩
  right
  rcases hpieces with ⟨height, -⟩ | ⟨before, after, hb, ha, hle, rfl⟩
  · omega
  rw [List.length_append, List.length_cons, length_side, length_side] at hlength
  rw [intercalate_sides]
  by_cases hbefore : before = []
  · subst hbefore
    rw [List.length_nil] at hlength hle
    exact ⟨after, by omega, ha, .inl rfl⟩
  · have hpos := List.length_pos_iff.mpr hbefore
    obtain rfl : after = [] := List.length_eq_zero_iff.mp (by omega)
    rw [List.length_nil] at hlength hle
    exact ⟨before, by omega, hb, .inr (List.append_nil _)⟩

theorem SevenGroups.pieces {s : ByteString} (h : SevenGroups s) :
    ∃ ps, IsV6Pieces ps ∧ ps.length = 9 ∧ s = (ofString ":").intercalate ps := by
  have hnone : ∀ g ∈ ([] : List ByteString), IsGroup g := fun _ hg ↦ absurd hg List.not_mem_nil
  obtain ⟨gs, hlength, hgs, rfl | rfl⟩ := h
  · refine ⟨side [] ++ [] :: side gs, .inr ⟨[], gs, hnone, hgs, by simp [hlength], rfl⟩, ?_, ?_⟩
    · rw [List.length_append, List.length_cons, length_side, length_side, hlength]
      rfl
    · rw [intercalate_sides]
      rfl
  · refine ⟨side gs ++ [] :: side [], .inr ⟨gs, [], hgs, hnone, by simp [hlength], rfl⟩, ?_, ?_⟩
    · rw [List.length_append, List.length_cons, length_side, length_side, hlength]
      rfl
    · rw [intercalate_sides]
      exact (List.append_nil _).symm

theorem SevenGroups.isV6Text {s : ByteString} (h : SevenGroups s) : IsV6Text s := by
  obtain ⟨ps, hpieces, -, hs⟩ := h.pieces
  exact isV6Text_iff.mpr ⟨ps, hpieces, hs⟩

end Foundation
