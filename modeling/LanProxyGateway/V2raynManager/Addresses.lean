import LanProxyGateway.Foundation.AddressText
import LanProxyGateway.V2raynManager.VmNode

/-!
# Is an accepted address an address?

The validator accepts what one of three expressions matches. They share no text: the one for IPv4
matches digits and dots, the one for IPv6 has a colon in every match, and the one for domain names a
letter and no colon. So each text is judged by one of them alone.

The expression for IPv4 counts digits where it should compare with 255. The one for IPv6 counts
colons and looks neither at where an empty group stands nor at whether the brackets match, and seven
groups with `::` at an end have more colons than it allows. Everywhere else the validator is right
(`judgesRightly_iff`).
-/

open Foundation ByteString

namespace LanProxyGateway

namespace VmNodeValidator

open Regex RegularExpression

/-! ## What the expressions match -/

theorem isDecimal_iff {p : ByteString} : IsDecimal p ↔ 1 ≤ p.length ∧ ∀ c ∈ p, c ∈ digits := by
  rw [IsDecimal, ← List.length_pos_iff]
  refine and_congr_right fun _ ↦ forall₂_congr fun c _ ↦ ?_
  rw [isDigit, Bool.and_eq_true, decide_eq_true_iff, decide_eq_true_iff, mem_digits_iff]
  rfl

/-- The expression for IPv4. -/
theorem ipv4_iff {s : ByteString} : ipv4Regex.rmatch s = true ↔
    ∃ ps, QuadShape ps ∧ s = (ofString ".").intercalate ps := by
  rw [rmatch_iff_matches', ipv4Regex, mem_pow_separated_iff]
  refine exists_congr fun ps ↦ ?_
  rw [QuadShape, and_assoc]
  refine and_congr_right fun _ ↦ and_congr_left fun _ ↦ forall₂_congr fun p _ ↦ ?_
  rw [mem_between_oneOf_iff (by decide), isDecimal_iff]
  tauto

/-- A text with the brackets that are there. -/
def bracketed (opening closing : Bool) (text : ByteString) : ByteString :=
  (if opening then ofString "[" else []) ++ text ++ (if closing then ofString "]" else [])

theorem bracketed_false (t : ByteString) : bracketed false false t = t := List.append_nil t

theorem mem_optional_lit_iff {text : String} {x : ByteString} :
    x ∈ (optional (lit text)).matches' ↔ ∃ b : Bool, x = if b then ofString text else [] := by
  rw [mem_optional_iff, mem_lit_iff, Bool.exists_bool, or_comm]
  simp

/-- The pieces and colons in the expression for IPv6. -/
theorem colons_iff {x : ByteString} :
    x ∈ (between (between (oneOf hexDigits) 0 4 * lit ":") 2 7 *
      between (oneOf hexDigits) 0 4).matches' ↔
    ∃ ps, ColonShape ps ∧ x = (ofString ":").intercalate ps := by
  rw [mem_between_separated_iff (by decide)]
  refine exists_congr fun ps ↦ ⟨?_, ?_⟩
  · rintro ⟨hthree, height, hps, rfl⟩
    have hpiece := fun p hp ↦ (mem_between_oneOf_iff (by decide)).mp (hps p hp)
    exact ⟨⟨hthree, height, fun p hp ↦ (hpiece p hp).2.1, fun p hp ↦ (hpiece p hp).2.2⟩, rfl⟩
  · rintro ⟨hshape, rfl⟩
    exact ⟨hshape.three, hshape.eight, fun p hp ↦ (mem_between_oneOf_iff (by decide)).mpr
      ⟨Nat.zero_le _, hshape.short p hp, hshape.hex p hp⟩, rfl⟩

/-- The expression for IPv6. -/
theorem ipv6_iff {s : ByteString} : ipv6Regex.rmatch s = true ↔
    ∃ ps opening closing, ColonShape ps ∧
      s = bracketed opening closing ((ofString ":").intercalate ps) := by
  have hassoc : ipv6Regex.matches' = (optional (lit "[")).matches' *
      (between (between (oneOf hexDigits) 0 4 * lit ":") 2 7 *
        between (oneOf hexDigits) 0 4).matches' * (optional (lit "]")).matches' := by
    simp only [ipv6Regex, matches'_mul, mul_assoc]
  rw [rmatch_iff_matches', hassoc, Language.mem_mul]
  constructor
  · rintro ⟨a, ha, c, hc, rfl⟩
    obtain ⟨o, ho, b, hb, rfl⟩ := Language.mem_mul.mp ha
    obtain ⟨opening, rfl⟩ := mem_optional_lit_iff.mp ho
    obtain ⟨closing, rfl⟩ := mem_optional_lit_iff.mp hc
    obtain ⟨ps, hshape, rfl⟩ := colons_iff.mp hb
    exact ⟨ps, opening, closing, hshape, rfl⟩
  · rintro ⟨ps, opening, closing, hshape, rfl⟩
    have hopening : (if opening then ofString "[" else []) ∈ (optional (lit "[")).matches' :=
      mem_optional_lit_iff.mpr ⟨opening, rfl⟩
    have hclosing : (if closing then ofString "]" else []) ∈ (optional (lit "]")).matches' :=
      mem_optional_lit_iff.mpr ⟨closing, rfl⟩
    have htext := colons_iff.mpr ⟨ps, hshape, rfl⟩
    exact ⟨_, Language.append_mem_mul hopening htext, _, hclosing, rfl⟩

/-- The expression for domain names. -/
theorem domain_spec {s : ByteString} (h : domainRegex.rmatch s = true) :
    58 ∉ s ∧ ∃ c ∈ s, c ∈ letters := by
  rw [rmatch_iff_matches'] at h
  constructor
  · exact fun hmem ↦ absurd (mem_chars_of_mem h 58 hmem) (by decide +kernel)
  · rw [domainRegex, matches'_mul, Language.mem_mul] at h
    obtain ⟨a, -, b, hb, rfl⟩ := h
    rw [atLeast, matches'_mul, Language.mem_mul] at hb
    obtain ⟨c, hc, d, -, rfl⟩ := hb
    obtain ⟨hlength, hletters⟩ := mem_pow_oneOf_iff.mp hc
    obtain ⟨e, c, rfl⟩ := List.exists_cons_of_ne_nil (List.ne_nil_of_length_eq_add_one hlength)
    exact ⟨e, by simp, hletters e List.mem_cons_self⟩

/-! ## Who judges what -/

theorem validateAddress_eq_nil_iff {s : ByteString} : validateAddress s = [] ↔
    s ≠ [] ∧ (ipv4Regex.rmatch s = true ∨ ipv6Regex.rmatch s = true ∨
      domainRegex.rmatch s = true) := by
  rw [validateAddress, complaints_eq_nil_iff (by decide) (by decide)]
  simp only [Bool.and_eq_true, Bool.not_eq_true', not_and_or, Bool.not_eq_false, or_assoc]

/-- Digits and dots only. -/
def DigitsAndDots (s : ByteString) : Prop := ∀ c ∈ s, c ∈ digits ++ ofString "."

theorem digitsAndDots_of_ipv4 {s : ByteString} (h : ipv4Regex.rmatch s = true) :
    DigitsAndDots s := by
  rw [rmatch_iff_matches'] at h
  have hchars : ∀ c ∈ chars ipv4Regex, c ∈ digits ++ ofString "." := by decide +kernel
  exact fun c hc ↦ hchars c (mem_chars_of_mem h c hc)

theorem colon_mem_intercalate {ps : List ByteString} (h : 2 ≤ ps.length) :
    58 ∈ (ofString ":").intercalate ps := by
  rcases ps with _ | ⟨p, _ | ⟨q, rest⟩⟩
  · exact absurd h (by decide)
  · exact absurd h (by simp)
  · rw [List.intercalate_cons_cons]
    exact List.mem_append_left _ (List.mem_append_right _ List.mem_cons_self)

theorem colon_mem {ps : List ByteString} (h : ColonShape ps) (opening closing : Bool) :
    58 ∈ bracketed opening closing ((ofString ":").intercalate ps) :=
  List.mem_append_left _ (List.mem_append_right _
    (colon_mem_intercalate (Nat.le_of_succ_le h.three)))

theorem not_digitsAndDots_of_colon {s : ByteString} (h : 58 ∈ s) : ¬DigitsAndDots s :=
  fun hs ↦ absurd (hs 58 h) (by decide)

/-- Digits and dots are judged by the expression for IPv4. -/
theorem accepted_iff_ipv4 {s : ByteString} (h : DigitsAndDots s) :
    validateAddress s = [] ↔ ∃ ps, QuadShape ps ∧ s = (ofString ".").intercalate ps := by
  rw [validateAddress_eq_nil_iff, ← ipv4_iff]
  constructor
  · rintro ⟨-, h4 | h6 | hdomain⟩
    · exact h4
    · obtain ⟨ps, opening, closing, hshape, rfl⟩ := ipv6_iff.mp h6
      exact absurd h (not_digitsAndDots_of_colon (colon_mem hshape opening closing))
    · obtain ⟨-, c, hc, hletter⟩ := domain_spec hdomain
      have hapart : ∀ c ∈ letters, c ∉ digits ++ ofString "." := by decide +kernel
      exact absurd (h c hc) (hapart c hletter)
  · intro h4
    refine ⟨?_, .inl h4⟩
    rintro rfl
    exact absurd h4 (by decide +kernel)

/-- A text with a colon is judged by the expression for IPv6. -/
theorem accepted_iff_ipv6 {s : ByteString} (h : 58 ∈ s) : validateAddress s = [] ↔
    ∃ ps opening closing, ColonShape ps ∧
      s = bracketed opening closing ((ofString ":").intercalate ps) := by
  rw [validateAddress_eq_nil_iff, ← ipv6_iff]
  constructor
  · rintro ⟨-, h4 | h6 | hdomain⟩
    · exact absurd (digitsAndDots_of_ipv4 h4) (not_digitsAndDots_of_colon h)
    · exact h6
    · exact absurd h (domain_spec hdomain).1
  · exact fun h6 ↦ ⟨List.ne_nil_of_mem h, .inr (.inl h6)⟩

/-! ## Brackets -/

/-- No piece has a bracket. -/
theorem bracket_not_mem {ps : List ByteString} (h : ∀ p ∈ ps, ∀ c ∈ p, c ∈ hexDigits) :
    91 ∉ (ofString ":").intercalate ps ∧ 93 ∉ (ofString ":").intercalate ps := by
  have hnot : ∀ c, c ∉ hexDigits → c ∉ ofString ":" → c ∉ (ofString ":").intercalate ps := by
    intro c hhex hcolon hmem
    rcases mem_intercalate hmem with hc | ⟨p, hp, hc⟩
    · exact hcolon hc
    · exact hhex (h p hp c hc)
  exact ⟨hnot 91 (by decide) (by decide), hnot 93 (by decide) (by decide)⟩

/-- The brackets and the text between them can be told apart. -/
theorem bracketed_inj {o o' c c' : Bool} {t t' : ByteString} (h91 : 91 ∉ t) (h93 : 93 ∉ t)
    (h91' : 91 ∉ t') (h93' : 93 ∉ t') (h : bracketed o c t = bracketed o' c' t') :
    o = o' ∧ c = c' ∧ t = t' := by
  have hopening : ∀ {o c t}, 91 ∉ t → (91 ∈ bracketed o c t ↔ o = true) := by
    intro o c t ht
    cases o <;> cases c <;> simp [bracketed, ht] <;> decide
  have hclosing : ∀ {o c t}, 93 ∉ t → (93 ∈ bracketed o c t ↔ c = true) := by
    intro o c t ht
    cases o <;> cases c <;> simp [bracketed, ht] <;> decide
  obtain rfl : o = o' := Bool.eq_iff_iff.mpr (by rw [← hopening h91, h, hopening h91'])
  obtain rfl : c = c' := Bool.eq_iff_iff.mpr (by rw [← hclosing h93, h, hclosing h93'])
  exact ⟨rfl, rfl, List.append_cancel_left (List.append_cancel_right h)⟩

/-! ## The verdict -/

/-- What should be said of an address: accepted digits and dots are a dotted quad, an accepted text
with a colon is an IPv6 text with both brackets or none, and dotted quads and IPv6 texts are
accepted. -/
structure JudgesRightly (s : ByteString) : Prop where
  quad : validateAddress s = [] → DigitsAndDots s → IsQuad s
  v6 : validateAddress s = [] → 58 ∈ s → ∃ t b, IsV6Text t ∧ s = bracketed b b t
  acceptsQuad : IsQuad s → validateAddress s = []
  acceptsV6 : IsV6Text s → validateAddress s = []

/-- A number above 255. -/
def HighPart (s : ByteString) : Prop :=
  ∃ ps, QuadShape ps ∧ (∃ p ∈ ps, 255 < digitsValue p) ∧ s = (ofString ".").intercalate ps

/-- A bracket without the other, or colons in the wrong place. -/
def Malformed (s : ByteString) : Prop :=
  ∃ ps opening closing, ColonShape ps ∧ (opening ≠ closing ∨ Misplaced ps) ∧
    s = bracketed opening closing ((ofString ":").intercalate ps)

theorem isV6Text_intercalate_iff {ps : List ByteString} (h : ColonShape ps) :
    IsV6Text ((ofString ":").intercalate ps) ↔ ¬Misplaced ps := by
  rw [← isV6Pieces_iff h, isV6Text_iff]
  constructor
  · rintro ⟨qs, hqs, heq⟩
    rwa [intercalate_inj h.ne_nil hqs.ne_nil h.colon_not_mem hqs.colon_not_mem heq]
  · exact fun hps ↦ ⟨ps, hps, rfl⟩

theorem bracket_not_mem_of_isV6Text {t : ByteString} (h : IsV6Text t) : 91 ∉ t ∧ 93 ∉ t := by
  obtain ⟨ps, hps, rfl⟩ := isV6Text_iff.mp h
  refine bracket_not_mem fun p hp ↦ ?_
  rcases hps.mem p hp with rfl | hgroup
  · exact fun _ hc ↦ absurd hc List.not_mem_nil
  · exact hgroup.2.2

theorem not_highPart {s : ByteString} (h : JudgesRightly s) : ¬HighPart s := by
  rintro ⟨ps, hshape, ⟨p, hp, hhigh⟩, rfl⟩
  have hdigits : DigitsAndDots ((ofString ".").intercalate ps) :=
    digitsAndDots_of_ipv4 (ipv4_iff.mpr ⟨ps, hshape, rfl⟩)
  obtain ⟨qs, hqs, hle, heq⟩ :=
    h.quad ((accepted_iff_ipv4 hdigits).mpr ⟨ps, hshape, rfl⟩) hdigits
  have hsame := intercalate_inj hshape.ne_nil hqs.ne_nil hshape.dot_not_mem hqs.dot_not_mem heq
  have := hle p (hsame ▸ hp)
  omega

theorem not_malformed {s : ByteString} (h : JudgesRightly s) : ¬Malformed s := by
  rintro ⟨ps, opening, closing, hshape, hwrong, rfl⟩
  have hcolon := colon_mem hshape opening closing
  obtain ⟨t, b, ht, heq⟩ :=
    h.v6 ((accepted_iff_ipv6 hcolon).mpr ⟨ps, opening, closing, hshape, rfl⟩) hcolon
  obtain ⟨h91, h93⟩ := bracket_not_mem hshape.hex
  obtain ⟨h91', h93'⟩ := bracket_not_mem_of_isV6Text ht
  obtain ⟨rfl, rfl, rfl⟩ := bracketed_inj h91 h93 h91' h93' heq
  exact hwrong.elim (fun h ↦ h rfl) ((isV6Text_intercalate_iff hshape).mp ht)

theorem not_sevenGroups {s : ByteString} (h : JudgesRightly s) : ¬SevenGroups s := by
  intro hseven
  have htext := hseven.isV6Text
  obtain ⟨qs, hqs, hlength, rfl⟩ := hseven.pieces
  have hcolon : 58 ∈ (ofString ":").intercalate qs := colon_mem_intercalate (by omega)
  obtain ⟨ps, opening, closing, hshape, heq⟩ := (accepted_iff_ipv6 hcolon).mp (h.acceptsV6 htext)
  obtain ⟨h91, h93⟩ := bracket_not_mem_of_isV6Text htext
  obtain ⟨h91', h93'⟩ := bracket_not_mem hshape.hex
  obtain ⟨-, -, htexts⟩ := bracketed_inj h91 h93 h91' h93' ((bracketed_false _).trans heq)
  have hsame := intercalate_inj hqs.ne_nil hshape.ne_nil hqs.colon_not_mem hshape.colon_not_mem
    htexts
  have := hshape.eight
  rw [← hsame] at this
  omega

/-- **The validator judges an address rightly** unless it is four numbers of which one is above 255,
a text of pieces and colons with one bracket or with an empty piece out of place, or seven groups
with `::` at an end. -/
theorem judgesRightly_iff (s : ByteString) :
    JudgesRightly s ↔ ¬HighPart s ∧ ¬Malformed s ∧ ¬SevenGroups s := by
  refine ⟨fun h ↦ ⟨not_highPart h, not_malformed h, not_sevenGroups h⟩, ?_⟩
  rintro ⟨hhigh, hmalformed, hseven⟩
  refine ⟨fun haccepted hdigits ↦ ?_, fun haccepted hcolon ↦ ?_, fun hquad ↦ ?_, fun htext ↦ ?_⟩
  · obtain ⟨ps, hshape, rfl⟩ := (accepted_iff_ipv4 hdigits).mp haccepted
    refine ⟨ps, hshape, fun p hp ↦ ?_, rfl⟩
    by_contra hpart
    exact hhigh ⟨ps, hshape, ⟨p, hp, Nat.not_le.mp hpart⟩, rfl⟩
  · obtain ⟨ps, opening, closing, hshape, rfl⟩ := (accepted_iff_ipv6 hcolon).mp haccepted
    have hright : ¬(opening ≠ closing ∨ Misplaced ps) := fun hwrong ↦
      hmalformed ⟨ps, opening, closing, hshape, hwrong, rfl⟩
    rw [not_or, not_ne_iff] at hright
    obtain ⟨rfl, hplaced⟩ := hright
    exact ⟨_, opening, (isV6Text_intercalate_iff hshape).mpr hplaced, rfl⟩
  · obtain ⟨ps, hshape, -, rfl⟩ := hquad
    exact (accepted_iff_ipv4 (digitsAndDots_of_ipv4 (ipv4_iff.mpr ⟨ps, hshape, rfl⟩))).mpr
      ⟨ps, hshape, rfl⟩
  · obtain ⟨ps, hshape, -, rfl⟩ := (exists_colonShape htext).resolve_right hseven
    have hcolon := colon_mem hshape false false
    rw [bracketed_false] at hcolon
    exact (accepted_iff_ipv6 hcolon).mpr ⟨ps, false, false, hshape, (bracketed_false _).symm⟩

/-- One text of each kind: a number above 255, a bracket alone, `::` twice, too few groups, and
seven groups behind `::`. -/
theorem misjudged : validateAddress (ofString "999.999.999.999") = [] ∧
    ¬JudgesRightly (ofString "999.999.999.999") ∧ ¬JudgesRightly (ofString "[::1") ∧
    ¬JudgesRightly (ofString ":::") ∧ ¬JudgesRightly (ofString "1:2:3") ∧
    ¬JudgesRightly (ofString "::2:3:4:5:6:7:8") := by
  refine ⟨by decide +kernel, fun h ↦ not_highPart h ?_, fun h ↦ not_malformed h ?_,
    fun h ↦ not_malformed h ?_, fun h ↦ not_malformed h ?_, fun h ↦ not_sevenGroups h ?_⟩
  · refine ⟨List.replicate 4 (ofString "999"), ⟨rfl, fun p hp ↦ ?_⟩, ⟨ofString "999", by simp,
      by decide⟩, by decide⟩
    rw [List.eq_of_mem_replicate hp]
    decide
  · exact ⟨[[], [], ofString "1"], true, false,
      ⟨by decide, by decide, by decide, by decide +kernel⟩, .inl (by decide), by decide⟩
  · exact ⟨[[], [], [], []], false, false, ⟨by decide, by decide, by decide, by decide +kernel⟩,
      .inr (.twice (by decide)), by decide⟩
  · exact ⟨["1", "2", "3"].map ofString, false, false,
      ⟨by decide, by decide, by decide, by decide +kernel⟩,
      .inr (.few (by decide) (by decide)), by decide⟩
  · refine ⟨["2", "3", "4", "5", "6", "7", "8"].map ofString, rfl, ?_, .inl (by decide)⟩
    unfold IsGroup
    decide +kernel

end VmNodeValidator

end LanProxyGateway
