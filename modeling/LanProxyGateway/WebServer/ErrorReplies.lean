import LanProxyGateway.Foundation.JsonText
import LanProxyGateway.V2raynManager.ActiveNode
import LanProxyGateway.WebServer.NodeApi

/-!
# Can the error replies be read?

The node handlers put `error_msg` between the parts of a JSON object without escaping it. The
complaints of the validator, and those about a file that cannot be written, are fixed texts in which
nothing would have to be escaped, and a tag that passed the validator is made of letters and digits.
But the complaint about a tag that no node has quotes the tag of the request, and the complaint
about a link that is no JSON quotes the parser. So an error can be read back exactly when the text
that it quotes has nothing to be escaped (`readsBack_iff`).
-/

open Foundation ByteString

namespace LanProxyGateway

open JsonText

/-! ## The fixed complaints -/

namespace VmNodeValidator

theorem plain_firstError {errors : List ByteString} (h : ∀ e ∈ errors, Plain e) :
    Plain (firstError errors) := by
  rw [firstError]
  cases hfind : errors.find? (· ≠ []) with
  | none => exact plain_nil
  | some e => exact h e (List.mem_of_find?_eq_some hfind)

theorem plain_oneAmong {choices : List String} {complaint : String} (s : ByteString)
    (h : Plain (ofString complaint)) : Plain (oneAmong choices complaint s) := by
  rw [oneAmong]
  split
  · exact plain_nil
  · exact h

theorem plain_within {lo hi : Int} {complaint : String} (n : Int)
    (h : Plain (ofString complaint)) : Plain (within lo hi complaint n) := by
  rw [within]
  split
  · exact h
  · exact plain_nil

theorem plain_validateTag (tag : ByteString) : Plain (validateTag tag) := by
  rw [validateTag]
  split_ifs <;> decide

theorem plain_validateAddress (address : ByteString) : Plain (validateAddress address) := by
  rw [validateAddress]
  split_ifs <;> decide

theorem plain_validatePort (port : UInt16) : Plain (validatePort port) := by
  rw [validatePort]
  split_ifs <;> decide

theorem plain_validateUuid (uuid : ByteString) : Plain (validateUuid uuid) := by
  rw [validateUuid]
  split_ifs <;> decide

theorem plain_validateAlterId (alterId : Int) (isV5Core : Bool) :
    Plain (validateAlterId alterId isV5Core) := by
  rw [validateAlterId]
  split_ifs <;> decide

theorem plain_validateRemark (remark : ByteString) : Plain (validateRemark remark) := by
  rw [validateRemark]
  split_ifs <;> decide

theorem plain_validateKcpConfig (cfg : VmNode.KcpConfig) : Plain (validateKcpConfig cfg) := by
  rw [validateKcpConfig]
  apply plain_firstError
  simp only [List.forall_mem_cons, List.not_mem_nil, false_imp_iff, implies_true, and_true]
  exact ⟨plain_within _ (by decide), plain_within _ (by decide +kernel),
    plain_within _ (by decide), plain_within _ (by decide +kernel)⟩

theorem plain_validateTransport (node : VmNode) : Plain (validateTransport node) := by
  rw [validateTransport]
  split
  · exact plain_oneAmong _ (by decide)
  split
  · rw [validateWsConfig]
    split_ifs <;> decide
  split
  · rw [validateH2Config]
    split_ifs <;> decide
  split
  · exact plain_oneAmong _ (by decide)
  split
  · exact plain_validateKcpConfig node.kcpCfg
  · exact plain_nil

/-- No complaint of the validator has to be escaped. -/
theorem plain_validate (node : VmNode) (isV5Core : Bool) : Plain (validate node isV5Core) := by
  rw [validate]
  apply plain_firstError
  simp only [List.forall_mem_cons, validateTlsConfig, ite_self, List.not_mem_nil, false_imp_iff,
    implies_true, and_true]
  exact ⟨plain_validateTag _, plain_validateAddress _, plain_validatePort _, plain_validateUuid _,
    plain_validateAlterId _ _, plain_oneAmong _ (by decide),
    plain_oneAmong _ (by decide), plain_oneAmong _ (by decide +kernel),
    plain_validateRemark _, plain_validateTransport node, plain_nil⟩

/-- Nor has a tag that passes it. -/
theorem plain_of_validateTag {tag : ByteString} (h : validateTag tag = []) : Plain tag := by
  obtain ⟨-, hchars⟩ := validateTag_eq_nil_iff.mp h
  have hall : (Regex.letters ++ Regex.digits ++ ofString "_-").all
      (fun c ↦ decide (c < 0x80 ∧ IsPlain c)) = true := by
    decide
  have hplain : ∀ c ∈ tag, c < 0x80 ∧ IsPlain c := fun c hc ↦
    of_decide_eq_true (List.all_eq_true.mp hall c (hchars c hc))
  exact ⟨utf8_of_ascii fun c hc ↦ (hplain c hc).1, fun c hc ↦ (hplain c hc).2⟩

end VmNodeValidator

namespace NodeStore

open VmNodeValidator VmLinkCodec

variable {lib : LinkLibrary} {disk : DiskAnswer} {s : NodeStore}

/-! ## The operations -/

/-- Nothing in the complaint, if there is one, has to be escaped. -/
def PlainFailure {α : Type} (o : Outcome α) : Prop :=
  ∀ errorMsg, o = .failed errorMsg → Plain errorMsg

theorem plainFailure_failed {α : Type} {errorMsg : ByteString} (h : Plain errorMsg) :
    PlainFailure (.failed errorMsg : Outcome α) := by
  rintro _ ⟨⟩
  exact h

theorem plainFailure_saveToConfig (disk : DiskAnswer) (s : NodeStore) :
    PlainFailure (saveToConfig disk s).1 := by
  intro errorMsg h
  simp only [saveToConfig] at h
  split at h
  · cases h
  · split_ifs at h <;> cases h <;> decide

/-- Taking back what could not be saved does not change the complaint. -/
theorem plainFailure_undo (disk : DiskAnswer) (s : NodeStore) (undo : NodeStore → NodeStore) :
    PlainFailure (match saveToConfig disk s with
      | (.failed errorMsg, s') => (.failed errorMsg, undo s')
      | result => result : Outcome Unit × NodeStore).1 := by
  have hsave := plainFailure_saveToConfig disk s
  split
  · rename_i errorMsg s' heq
    rw [heq] at hsave
    exact plainFailure_failed (hsave _ rfl)
  · exact hsave

/-- A tag that is taken has passed the validator before. -/
theorem plain_taken {node : VmNode} {isV5Core : Bool} (h : validate node isV5Core = []) :
    Plain (ofString "节点标签已存在: " ++ node.tag) :=
  (plain_append_iff (by decide)).mpr
    (plain_of_validateTag (validate_eq_nil_iff.mp h).tag)

theorem plainFailure_addNode (disk : DiskAnswer) (node : VmNode) (s : NodeStore) :
    PlainFailure (s.addNode disk node).1 := by
  simp only [addNode]
  split
  · exact plainFailure_failed (plain_validate node s.isV5Core)
  rename_i hvalid
  split
  · exact plainFailure_failed (plain_taken (not_not.mp hvalid))
  exact plainFailure_undo disk { s with nodes := s.nodes ++ [node] } _

/-- The update gets as far as looking for the node, and there is none. -/
def UpdatesNone (s : NodeStore) (oldTag : ByteString) (node : VmNode) : Prop :=
  validate node s.isV5Core = [] ∧ s.isTagUnique node.tag oldTag ∧ ¬HasTag s.nodes oldTag

theorem updateNode_of_updatesNone {oldTag : ByteString} {node : VmNode}
    (h : UpdatesNone s oldTag node) :
    (s.updateNode disk oldTag node).1 = .failed (ofString "节点不存在: " ++ oldTag) := by
  obtain ⟨hvalid, hunique, hnone⟩ := h
  simp only [updateNode, hvalid, hunique, find?_tag_eq_none_iff.mpr hnone]
  rfl

theorem plainFailure_updateNode {oldTag : ByteString} {node : VmNode}
    (h : ¬UpdatesNone s oldTag node) : PlainFailure (s.updateNode disk oldTag node).1 := by
  simp only [updateNode]
  split
  · exact plainFailure_failed (plain_validate node s.isV5Core)
  rename_i hvalid
  split
  · exact plainFailure_failed (plain_taken (not_not.mp hvalid))
  rename_i hunique
  split
  · rename_i hnone
    exact absurd ⟨not_not.mp hvalid, by simpa using hunique, find?_tag_eq_none_iff.mp hnone⟩ h
  exact plainFailure_undo disk { s with nodes := replaceNode oldTag node s.nodes } _

/-- There are nodes to spare, but none with the tag. -/
def RemovesNone (s : NodeStore) (tag : ByteString) : Prop :=
  1 < s.nodes.length ∧ ¬HasTag s.nodes tag

theorem removeNode_of_removesNone {tag : ByteString} (h : RemovesNone s tag) :
    (s.removeNode disk tag).1 = .failed (ofString "节点不存在: " ++ tag) := by
  obtain ⟨hlength, hnone⟩ := h
  rw [removeNode, if_neg (Nat.not_le.mpr hlength), find?_tag_eq_none_iff.mpr hnone]

theorem plainFailure_removeNode {tag : ByteString} (h : ¬RemovesNone s tag) :
    PlainFailure (s.removeNode disk tag).1 := by
  rw [removeNode]
  split
  · exact plainFailure_failed (by decide)
  rename_i hlength
  split
  · rename_i hnone
    exact absurd ⟨Nat.not_le.mp hlength, find?_tag_eq_none_iff.mp hnone⟩ h
  exact plainFailure_undo disk { s with nodes := s.nodes.eraseP (·.tag = tag) } _

theorem setActiveNode_of_hasTag {tag : ByteString} (h : HasTag s.nodes tag) :
    s.setActiveNode tag = (.done (), { s with activeNodeTag := tag }) := by
  obtain ⟨n, hn, htag⟩ := h
  rw [setActiveNode, if_pos (List.any_eq_true.mpr ⟨n, hn, decide_eq_true htag⟩)]

theorem setActiveNode_of_not_hasTag {tag : ByteString} (h : ¬HasTag s.nodes tag) :
    s.setActiveNode tag = (.failed (ofString "节点不存在: " ++ tag), s) := by
  rw [setActiveNode, if_neg]
  intro hany
  obtain ⟨n, hn, htag⟩ := List.any_eq_true.mp hany
  exact h ⟨n, hn, of_decide_eq_true htag⟩

/-- The link carries something that the parser refuses, with the given words. -/
def CarriesNoJson (lib : LinkLibrary) (link what : ByteString) : Prop :=
  startsWith link (ofString "vmess://") ∧ linkText lib link ≠ [] ∧
    lib.parse (linkText lib link) = .error what

theorem decode_of_carriesNoJson {link what : ByteString} (h : CarriesNoJson lib link what) :
    decode lib link = .ok (.error (ofString "vmess链接JSON解析失败：" ++ what)) := by
  obtain ⟨hstarts, hne, hparse⟩ := h
  rw [decode_eq, hstarts, if_neg hne, hparse]
  rfl

theorem plain_of_decode {link errorMsg : ByteString} (h : ¬∃ what, CarriesNoJson lib link what)
    (hdecode : decode lib link = .ok (.error errorMsg)) : Plain errorMsg := by
  rw [decode_eq] at hdecode
  split at hdecode
  · cases hdecode
    decide
  rename_i hstarts
  split at hdecode
  · cases hdecode
    decide
  rename_i hne
  split at hdecode
  · rename_i what hparse
    exact absurd ⟨what, by simpa using hstarts, hne, hparse⟩ h
  · obtain ⟨node, -, hnode⟩ := Json.map_eq_ok.mp hdecode
    cases hnode

theorem plainFailure_importFromLink {link : ByteString}
    (h : ¬∃ what, CarriesNoJson lib link what) :
    PlainFailure (s.importFromLink lib disk link).1 := by
  rw [importFromLink]
  split
  · rintro _ ⟨⟩
  · rename_i errorMsg hdecode
    exact plainFailure_failed (plain_of_decode h hdecode)
  rename_i node hdecode
  simp only
  split
  · exact plainFailure_failed (plain_validate _ _)
  have hsave := plainFailure_saveToConfig disk
    { s with nodes := s.nodes ++ [{ node with tag := s.generateAutoTag }] }
  split
  · rintro _ ⟨⟩
  · rename_i errorMsg s' heq
    rw [heq] at hsave
    exact plainFailure_failed (hsave _ rfl)
  · rintro _ ⟨⟩

/-! ## The replies -/

/-- An error that is built from `error_msg` is read back as an object with this error. -/
def ReadsBack (reply : NodeReply) : Prop :=
  ∀ code errorMsg, reply = .errorMsg code errorMsg → ∃ j, Parses (errorBody errorMsg) j ∧
    j.member? (ofString "error") = some (.string errorMsg)

/-- The body is an object that was put together by hand. -/
theorem errorBody_eq_spliced (errorMsg : ByteString) :
    errorBody errorMsg = spliced (ofString "error") errorMsg := by
  have hstart : ofString "\x7b\"error\":\"" = 123 :: (quote (ofString "error") ++ [58, 34]) := by
    decide
  have hend : ofString "\"\x7d" = [34, 125] := by decide
  rw [errorBody, hstart, hend]
  simp [spliced, quote]

theorem readsBack_errorMsg_iff {code : ℕ} {errorMsg : ByteString} :
    ReadsBack (.errorMsg code errorMsg) ↔ Plain errorMsg := by
  have hkey : Plain (ofString "error") := by decide
  rw [← parses_spliced_iff hkey, ← errorBody_eq_spliced]
  constructor
  · intro h
    exact h code errorMsg rfl
  · rintro h _ _ ⟨⟩
    exact h

theorem readsBack_fixed (code : ℕ) (body : ByteString) : ReadsBack (.fixed code body) := nofun

theorem readsBack_dumped (fields : List (String × Json)) : ReadsBack (dumped fields) := by
  rw [dumped]
  split <;> exact nofun

theorem readsBack_caught {reply : NodeReply × NodeStore} (h : ReadsBack reply.1) :
    ReadsBack (caught reply).1 := by
  obtain ⟨reply, s⟩ := reply
  cases reply with
  | thrown e => exact readsBack_fixed _ _
  | _ => exact h

theorem readsBack_caught_dumped (fields : List (String × Json)) (s : NodeStore) :
    ReadsBack (caught (dumped fields, s)).1 :=
  readsBack_caught (readsBack_dumped fields)

theorem readsBack_answer {α : Type} {code : ℕ} {onDone : α → NodeStore → NodeReply}
    {ended : Outcome α × NodeStore} (h : PlainFailure ended.1)
    (hdone : ∀ result s, ReadsBack (onDone result s)) : ReadsBack (answer code onDone ended).1 := by
  obtain ⟨o, s⟩ := ended
  cases o with
  | done result => exact hdone result s
  | failed errorMsg => exact readsBack_errorMsg_iff.mpr (h errorMsg rfl)
  | thrown e => exact nofun

/-- A complaint is handed on. -/
theorem answer_of_failed {α : Type} {code : ℕ} {onDone : α → NodeStore → NodeReply}
    {ended : Outcome α × NodeStore} {errorMsg : ByteString} (h : ended.1 = .failed errorMsg) :
    (answer code onDone ended).1 = .errorMsg code errorMsg := by
  obtain ⟨o, s⟩ := ended
  obtain rfl : o = .failed errorMsg := h
  rfl

theorem caught_of_errorMsg {reply : NodeReply × NodeStore} {code : ℕ} {errorMsg : ByteString}
    (h : reply.1 = .errorMsg code errorMsg) : (caught reply).1 = .errorMsg code errorMsg := by
  obtain ⟨reply, s⟩ := reply
  obtain rfl : reply = .errorMsg code errorMsg := h
  rfl

theorem readsBack_apply (disk : DiskAnswer) (s : NodeStore) : ReadsBack (s.apply disk).1 :=
  readsBack_answer (plainFailure_saveToConfig disk s) fun _ _ ↦ readsBack_dumped _

theorem readsBack_activate {tag : ByteString} (h : HasTag s.nodes tag) :
    ReadsBack (s.activate disk tag).1 := by
  rw [activate, setActiveNode_of_hasTag h]
  exact readsBack_apply disk _

theorem activate_of_not_hasTag {tag : ByteString} (h : ¬HasTag s.nodes tag) :
    (s.activate disk tag).1 = .errorMsg 400 (ofString "节点不存在: " ++ tag) := by
  rw [activate, setActiveNode_of_not_hasTag h]

/-- The error for the request quotes the text. -/
def Quotes (lib : LinkLibrary) (s : NodeStore) (text : ByteString) : NodeRequest → Prop
  | .postNodes _ => False
  | .putNode oldTag body =>
    text = oldTag ∧ ∃ node, readNode lib body = some node ∧ UpdatesNone s oldTag node
  | .deleteNode tag => text = tag ∧ RemovesNone s tag
  | .postApply body | .postActive body =>
    readString lib "node_tag" body = some text ∧ text ≠ [] ∧ ¬HasTag s.nodes text
  | .postParse body | .postImport body =>
    ∃ link, readString lib "vmess_link" body = some link ∧ CarriesNoJson lib link text

theorem CarriesNoJson.ne_nil {link what : ByteString} (h : CarriesNoJson lib link what) :
    link ≠ [] := by
  rintro rfl
  exact absurd h.1 (by decide)

/-- There is at most one such text. -/
theorem Quotes.unique {r : NodeRequest} {text text' : ByteString} (h : Quotes lib s text r)
    (h' : Quotes lib s text' r) : text = text' := by
  have hlink : ∀ body, (∃ link, readString lib "vmess_link" body = some link ∧
      CarriesNoJson lib link text) → (∃ link, readString lib "vmess_link" body = some link ∧
      CarriesNoJson lib link text') → text = text' := by
    rintro body ⟨link, hlink, -, -, hwhat⟩ ⟨link', hlink', -, -, hwhat'⟩
    obtain rfl := Option.some.inj (hlink.symm.trans hlink')
    exact Except.error.inj (hwhat.symm.trans hwhat')
  cases r with
  | postNodes body => exact h.elim
  | putNode oldTag body => exact h.1.trans h'.1.symm
  | deleteNode tag => exact h.1.trans h'.1.symm
  | postApply body => exact Option.some.inj (h.1.symm.trans h'.1)
  | postActive body => exact Option.some.inj (h.1.symm.trans h'.1)
  | postParse body => exact hlink body h h'
  | postImport body => exact hlink body h h'

/-- Where a text is quoted, it is what comes behind a fixed part. -/
theorem Quotes.reply {r : NodeRequest} {text : ByteString} (h : Quotes lib s text r)
    (disk : DiskAnswer) :
    ∃ code start, (s.serve lib disk r).1 = .errorMsg code (start ++ text) ∧ Plain start := by
  have hunknown : Plain (ofString "节点不存在: ") := by decide
  have hnoJson : Plain (ofString "vmess链接JSON解析失败：") := by decide
  cases r with
  | postNodes body => exact h.elim
  | putNode oldTag body =>
    obtain ⟨rfl, node, hnode, hnone⟩ := h
    refine ⟨400, _, ?_, hunknown⟩
    rw [serve, putNode, hnode]
    exact caught_of_errorMsg (answer_of_failed (updateNode_of_updatesNone hnone))
  | deleteNode tag =>
    obtain ⟨rfl, hnone⟩ := h
    refine ⟨400, _, ?_, hunknown⟩
    rw [serve, deleteNode]
    exact answer_of_failed (removeNode_of_removesNone hnone)
  | postApply body =>
    obtain ⟨htag, hne, hnone⟩ := h
    refine ⟨400, _, ?_, hunknown⟩
    rw [serve, postApply, htag, Option.getD_some, if_neg hne]
    exact activate_of_not_hasTag hnone
  | postActive body =>
    obtain ⟨htag, hne, hnone⟩ := h
    refine ⟨400, _, ?_, hunknown⟩
    rw [serve, postActive, htag]
    simp only [if_neg hne]
    exact caught_of_errorMsg (activate_of_not_hasTag hnone)
  | postParse body =>
    obtain ⟨link, hlink, hcarries⟩ := h
    refine ⟨400, _, ?_, hnoJson⟩
    rw [serve, postParse, hlink]
    simp only [if_neg hcarries.ne_nil, decode_of_carriesNoJson hcarries]
  | postImport body =>
    obtain ⟨link, hlink, hcarries⟩ := h
    refine ⟨400, _, ?_, hnoJson⟩
    rw [serve, postImport, hlink]
    simp only [if_neg hcarries.ne_nil]
    apply caught_of_errorMsg
    apply answer_of_failed
    rw [importFromLink, decode_of_carriesNoJson hcarries]

/-- Where none is quoted, nothing has to be escaped. -/
theorem readsBack_of_not_quotes {r : NodeRequest} (h : ¬∃ text, Quotes lib s text r) :
    ReadsBack (s.serve lib disk r).1 := by
  cases r with
  | postNodes body =>
    rw [serve, postNodes]
    split
    · exact readsBack_fixed _ _
    · exact readsBack_caught (readsBack_answer (plainFailure_addNode disk _ s) fun _ _ ↦
        readsBack_dumped _)
  | putNode oldTag body =>
    rw [serve, putNode]
    split
    · exact readsBack_fixed _ _
    · rename_i node hnode
      have hsome : ¬UpdatesNone s oldTag node := fun hnone ↦ h ⟨oldTag, rfl, node, hnode, hnone⟩
      exact readsBack_caught (readsBack_answer (plainFailure_updateNode hsome) fun _ _ ↦
        readsBack_fixed _ _)
  | deleteNode tag =>
    have hsome : ¬RemovesNone s tag := fun hnone ↦ h ⟨tag, rfl, hnone⟩
    exact readsBack_answer (plainFailure_removeNode hsome) fun _ _ ↦ readsBack_fixed _ _
  | postApply body =>
    simp only [serve, postApply]
    split
    · exact readsBack_apply disk s
    rename_i hne
    apply readsBack_activate
    by_contra hnone
    cases htag : readString lib "node_tag" body with
    | none => exact hne (by rw [htag, Option.getD_none])
    | some tag =>
      rw [htag, Option.getD_some] at hne hnone
      exact h ⟨tag, htag, hne, hnone⟩
  | postActive body =>
    rw [serve, postActive]
    split
    · exact readsBack_fixed _ _
    rename_i tag htag
    split
    · exact readsBack_fixed _ _
    rename_i hne
    apply readsBack_caught
    apply readsBack_activate
    by_contra hnone
    exact h ⟨tag, htag, hne, hnone⟩
  | postParse body =>
    rw [serve, postParse]
    split
    · exact readsBack_fixed _ _
    rename_i link hlink
    have hjson : ¬∃ what, CarriesNoJson lib link what := fun ⟨what, hwhat⟩ ↦
      h ⟨what, link, hlink, hwhat⟩
    split
    · exact readsBack_fixed _ _
    split
    · exact readsBack_fixed _ _
    · rename_i errorMsg hdecode
      exact readsBack_errorMsg_iff.mpr (plain_of_decode hjson hdecode)
    · exact readsBack_caught_dumped _ _
  | postImport body =>
    rw [serve, postImport]
    split
    · exact readsBack_fixed _ _
    rename_i link hlink
    have hjson : ¬∃ what, CarriesNoJson lib link what := fun ⟨what, hwhat⟩ ↦
      h ⟨what, link, hlink, hwhat⟩
    split
    · exact readsBack_fixed _ _
    · exact readsBack_caught (readsBack_answer (plainFailure_importFromLink hjson) fun _ _ ↦
        readsBack_dumped _)

/-- **When an error can be read back.** When the text from outside that it quotes, if it quotes one,
has nothing to be escaped. -/
theorem readsBack_iff (lib : LinkLibrary) (disk : DiskAnswer) (s : NodeStore) (r : NodeRequest) :
    ReadsBack (s.serve lib disk r).1 ↔ ∀ text, Quotes lib s text r → Plain text := by
  by_cases hquotes : ∃ text, Quotes lib s text r
  · obtain ⟨text, htext⟩ := hquotes
    obtain ⟨code, start, hreply, hstart⟩ := htext.reply disk
    rw [hreply, readsBack_errorMsg_iff, plain_append_iff hstart]
    constructor
    · intro hplain text' htext'
      rwa [← htext.unique htext']
    · intro hplain
      exact hplain text htext
  · exact iff_of_true (readsBack_of_not_quotes hquotes) fun text htext ↦
      absurd ⟨text, htext⟩ hquotes

/-- A parser that knows the one body that asks for the node `a"b`. -/
def quoteLibrary : LinkLibrary where
  decodeBlock := fun _ ↦ none
  parse text :=
    if text = ofString "\x7b\"node_tag\":\"a\\\"b\"\x7d" then
      .ok (.ofFields [("node_tag", .string (ofString "a\"b"))])
    else .error (ofString "parse error")

/-- Asking for a node whose tag has a quote in it. -/
theorem quotedTag_not_readsBack :
    ¬ReadsBack (serve quoteLibrary {} {}
      (.postActive (ofString "\x7b\"node_tag\":\"a\\\"b\"\x7d"))).1 := by
  have hreply : (serve quoteLibrary {} {}
      (.postActive (ofString "\x7b\"node_tag\":\"a\\\"b\"\x7d"))).1 =
      .errorMsg 400 (ofString "节点不存在: a\"b") := by
    rfl
  rw [hreply, readsBack_errorMsg_iff]
  decide

end NodeStore

end LanProxyGateway
