import LanProxyGateway.V2raynManager.NodeManager

/-!
# Does decoding a link ever throw?

`decode` answers with a node or with a text that says what is wrong. The JSON parser is called in a
`try`, and so are the conversions of `port` and `aid`; ten other members are read with `value`
outside, which throws on a value that is no object and on a member of another type. So the link
decides: the answer comes for every link whose text, where it is JSON at all, is an object in which
those ten members are texts where they are present (`answers_iff`). An import lets the exception
through.
-/

open Foundation ByteString

namespace LanProxyGateway

namespace VmLinkCodec

/-- A node, or no node and a text that is not empty; no exception. -/
def Answers (lib : LinkLibrary) (vmessLink : ByteString) : Prop :=
  ∃ answer, decode lib vmessLink = .ok answer ∧ ∀ errorMsg, answer = .error errorMsg → errorMsg ≠ []

/-- The members that are read with `value`. -/
def textMembers : List String :=
  ["ps", "add", "id", "scy", "net", "tls", "type", "host", "path", "sni"]

/-- An object whose members for `value` are texts. -/
structure WellTyped (j : Json) : Prop where
  object : j.isObject = true
  texts : ∀ key ∈ textMembers, ∀ v, j.member? (ofString key) = some v → ∃ s, v = .string s

/-! ## One member -/

/-- `value` reads a text, or nothing that is there. -/
theorem stringValue_isOk_iff {key : String} {default : ByteString} {j : Json} :
    (∃ s, stringValue key default j = .ok s) ↔
      j.isObject = true ∧ ∀ v, j.member? (ofString key) = some v → ∃ s, v = .string s := by
  simp only [stringValue, Json.orThrow_eq_ok]
  by_cases hobject : j.isObject
  · rw [Json.value_of_isObject _ _ _ hobject]
    rcases hmember : j.member? (ofString key) with _ | v
    · exact ⟨fun _ ↦ ⟨hobject, nofun⟩, fun _ ↦ ⟨default, rfl⟩⟩
    · simp only [Option.elim_some, Option.some.injEq, forall_eq', hobject, true_and]
      cases v with
      | string s => exact ⟨fun _ ↦ ⟨s, rfl⟩, fun _ ↦ ⟨s, rfl⟩⟩
      | _ =>
        constructor
        · rintro ⟨s, hs⟩
          cases hs
        · rintro ⟨s, hs⟩
          cases hs
  · cases j with
    | object ms => exact absurd rfl hobject
    | _ =>
      constructor
      · rintro ⟨s, hs⟩
        cases hs
      · exact fun h ↦ absurd h.1 hobject

theorem WellTyped.stringValue {j : Json} (h : WellTyped j) {key : String} (hkey : key ∈ textMembers)
    (default : ByteString) : ∃ s, stringValue key default j = .ok s :=
  stringValue_isOk_iff.mpr ⟨h.object, h.texts key hkey⟩

/-! ## All members -/

theorem wellTyped_of_nodeOfJson {j : Json} {node : VmNode} (h : nodeOfJson j = .ok node) :
    WellTyped j := by
  simp only [nodeOfJson, Json.bind_eq_ok] at h
  obtain ⟨remark, hps, address, hadd, userId, hid, security, hscy, network, hnet, tls, htls,
    headerType, htype, host, hhost, path, hpath, sni, hsni, -⟩ := h
  refine ⟨(stringValue_isOk_iff.mp ⟨_, hps⟩).1, fun key hkey ↦ ?_⟩
  have hread : ∃ default s, stringValue key default j = .ok s := by
    simp only [textMembers, List.mem_cons, List.not_mem_nil, or_false] at hkey
    rcases hkey with rfl | rfl | rfl | rfl | rfl | rfl | rfl | rfl | rfl | rfl
    · exact ⟨_, _, hps⟩
    · exact ⟨_, _, hadd⟩
    · exact ⟨_, _, hid⟩
    · exact ⟨_, _, hscy⟩
    · exact ⟨_, _, hnet⟩
    · exact ⟨_, _, htls⟩
    · exact ⟨_, _, htype⟩
    · exact ⟨_, _, hhost⟩
    · exact ⟨_, _, hpath⟩
    · exact ⟨_, _, hsni⟩
  obtain ⟨default, hread⟩ := hread
  exact (stringValue_isOk_iff.mp hread).2

theorem nodeOfJson_of_wellTyped {j : Json} (h : WellTyped j) : ∃ node, nodeOfJson j = .ok node := by
  rw [nodeOfJson]
  obtain ⟨remark, hps⟩ := h.stringValue (show "ps" ∈ textMembers by decide) []
  refine Json.exists_ok_bind hps ?_
  obtain ⟨address, hadd⟩ := h.stringValue (show "add" ∈ textMembers by decide) []
  refine Json.exists_ok_bind hadd ?_
  obtain ⟨userId, hid⟩ := h.stringValue (show "id" ∈ textMembers by decide) []
  refine Json.exists_ok_bind hid ?_
  obtain ⟨security, hscy⟩ := h.stringValue (show "scy" ∈ textMembers by decide) (ofString "auto")
  refine Json.exists_ok_bind hscy ?_
  obtain ⟨network, hnet⟩ := h.stringValue (show "net" ∈ textMembers by decide) (ofString "tcp")
  refine Json.exists_ok_bind hnet ?_
  obtain ⟨tls, htls⟩ := h.stringValue (show "tls" ∈ textMembers by decide) []
  refine Json.exists_ok_bind htls ?_
  obtain ⟨headerType, htype⟩ :=
    h.stringValue (show "type" ∈ textMembers by decide) (ofString "none")
  refine Json.exists_ok_bind htype ?_
  obtain ⟨host, hhost⟩ := h.stringValue (show "host" ∈ textMembers by decide) []
  refine Json.exists_ok_bind hhost ?_
  obtain ⟨path, hpath⟩ := h.stringValue (show "path" ∈ textMembers by decide) []
  refine Json.exists_ok_bind hpath ?_
  obtain ⟨sni, hsni⟩ := h.stringValue (show "sni" ∈ textMembers by decide) []
  refine Json.exists_ok_bind hsni ?_
  exact ⟨_, (apply_ite Except.ok _ _ _).symm⟩

/-! ## The link -/

variable {lib : LinkLibrary} {vmessLink : ByteString}

/-- A complaint says something. -/
theorem errorMsg_ne_nil {errorMsg : ByteString} (h : decode lib vmessLink = .ok (.error errorMsg)) :
    errorMsg ≠ [] := by
  rw [decode_eq] at h
  split at h
  · cases h
    decide
  split at h
  · cases h
    decide
  split at h
  · cases h
    exact List.append_ne_nil_of_left_ne_nil (by decide) _
  · obtain ⟨node, -, hnode⟩ := Json.map_eq_ok.mp h
    cases hnode

theorem answers_iff_exists : Answers lib vmessLink ↔ ∃ answer, decode lib vmessLink = .ok answer :=
  ⟨fun ⟨answer, h, _⟩ ↦ ⟨answer, h⟩, fun ⟨answer, h⟩ ↦ ⟨answer, h, fun _ hmsg ↦
    errorMsg_ne_nil (h.trans (congrArg Except.ok hmsg))⟩⟩

/-- **Decoding a link answers** exactly where the text that the link carries is no JSON, or is an
object whose members for `value` are texts. -/
theorem answers_iff (lib : LinkLibrary) (vmessLink : ByteString) : Answers lib vmessLink ↔
    (startsWith vmessLink (ofString "vmess://") = true → linkText lib vmessLink ≠ [] →
      ∀ j, lib.parse (linkText lib vmessLink) = .ok j → WellTyped j) := by
  rw [answers_iff_exists, decode_eq]
  rcases hprefix : startsWith vmessLink (ofString "vmess://") with _ | _
  · exact ⟨fun _ h ↦ absurd h Bool.false_ne_true, fun _ ↦ ⟨_, rfl⟩⟩
  simp only [Bool.not_true, Bool.false_eq_true, if_false, true_imp_iff]
  by_cases hempty : linkText lib vmessLink = []
  · rw [if_pos hempty]
    exact ⟨fun _ h ↦ absurd hempty h, fun _ ↦ ⟨_, rfl⟩⟩
  rw [if_neg hempty]
  rcases hparse : lib.parse (linkText lib vmessLink) with what | j
  · refine ⟨fun _ _ _ h ↦ ?_, fun _ ↦ ⟨_, rfl⟩⟩
    cases h
  · constructor
    · rintro ⟨answer, hanswer⟩ - j' hj'
      obtain ⟨node, hnode, -⟩ := Json.map_eq_ok.mp hanswer
      exact Except.ok.inj hj' ▸ wellTyped_of_nodeOfJson hnode
    · intro h
      obtain ⟨node, hnode⟩ := nodeOfJson_of_wellTyped (h hempty j rfl)
      exact ⟨.ok node, Json.map_eq_ok.mpr ⟨node, hnode, rfl⟩⟩

/-- An import passes on what decoding throws, and the list stays as it was. -/
theorem importFromLink_of_not_answers (h : ¬Answers lib vmessLink) (disk : DiskAnswer)
    (s : NodeStore) : ∃ e, s.importFromLink lib disk vmessLink = (.thrown e, s) := by
  rw [answers_iff_exists] at h
  rcases hdecode : decode lib vmessLink with e | answer
  · refine ⟨e, ?_⟩
    rw [NodeStore.importFromLink, hdecode]
  · exact absurd ⟨answer, hdecode⟩ h

/-- Base64 and a parser that agree with OpenSSL and the JSON library on `vmess://W10=`, which
carries the text `[]`. -/
def arrayLibrary : LinkLibrary where
  decodeBlock s :=
    some (Base64.decodeDigits {} (s.map fun c ↦ (Base64.digit? c).getD 0))
  parse s := if s = ofString "[]" then .ok (.array []) else .error (ofString "parse error")

theorem array_not_answers : linkText arrayLibrary (ofString "vmess://W10=") = ofString "[]" ∧
    decode arrayLibrary (ofString "vmess://W10=") = .error .typeError ∧
    ¬Answers arrayLibrary (ofString "vmess://W10=") := by
  have hdecode : decode arrayLibrary (ofString "vmess://W10=") = .error .typeError := by
    decide +kernel
  refine ⟨by decide +kernel, hdecode, ?_⟩
  rintro ⟨answer, hanswer, -⟩
  rw [hdecode] at hanswer
  cases hanswer

end VmLinkCodec

end LanProxyGateway
