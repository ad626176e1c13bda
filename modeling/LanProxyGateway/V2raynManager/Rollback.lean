import LanProxyGateway.V2raynManager.NodeEdits

/-!
# Does a failed edit change nothing?

An edit changes the list first, saves it second, and takes the change back where the save reports a
failure. Two things go wrong. A removal is taken back by putting the node at the end, which is not
where it was unless it was the last one. And a save that throws is not taken back at all, so what it
leaves is the changed list; only an update to the very same node has changed nothing by then.

What a save comes to is decided by the list, the files and the disk: `Throws` and `Fails` say when.
The configuration that it builds always passes `validateConfig`, since inbounds are filled in where
there are none.
-/

open Foundation ByteString

namespace LanProxyGateway

namespace NodeStore

open VmConfigBuilder VmNodeValidator VmLinkCodec

variable {lib : LinkLibrary} {disk : DiskAnswer} {s : NodeStore} {nodes : List VmNode}
  {e : Edit}

/-! ## When a configuration can be written out -/

theorem isSerializable_routingRules {config : Json} (h : config.isSerializable) :
    ∀ r ∈ routingRules config, r.isSerializable := by
  intro r hr
  obtain ⟨rules, hrules⟩ := isArray_of_mem_routingRules hr
  obtain ⟨routing, hrouting, hmember⟩ := Option.bind_eq_some_iff.mp hrules
  have hser := Json.isSerializable_of_member? (Json.isSerializable_of_member? h hrouting) hmember
  rw [Json.isSerializable_array] at hser
  rw [routingRules, hrules] at hr
  exact hser r hr

theorem isSerializable_retarget {activeTag : ByteString} {rule : Json}
    (hactive : Utf8 activeTag) (h : rule.isSerializable) :
      (retarget activeTag rule).isSerializable := by
  rw [retarget]
  split
  · exact Json.isSerializable_set (Json.isSerializable_members h) (utf8_ofString _)
      ((Json.isSerializable_string activeTag).mpr hactive)
  · exact h

/-- The active tag stands somewhere among the rules. -/
theorem isSerializable_newRules_iff {activeTag : ByteString} {rules : List Json}
    (h : ∀ r ∈ rules, r.isSerializable) :
    (∀ r ∈ newRules activeTag rules, r.isSerializable) ↔ Utf8 activeTag := by
  rw [newRules]
  split
  · rename_i howned
    constructor
    · intro hnew
      obtain ⟨r, hr, ho⟩ := howned
      have hser := hnew _ (List.mem_map_of_mem hr)
      rw [retarget, if_pos ho] at hser
      have htag := Json.isSerializable_of_member? hser (targets_setTag activeTag r)
      exact (Json.isSerializable_string activeTag).mp htag
    · intro hactive
      rw [List.forall_mem_map]
      exact fun r hr ↦ isSerializable_retarget hactive (h r hr)
  · rw [List.forall_mem_append, List.forall_mem_map]
    constructor
    · intro hnew
      have hser := hnew.1 (.array [.string (ofString "outboundTag"), .string activeTag])
        (List.mem_cons_of_mem _ List.mem_cons_self)
      rw [Json.isSerializable_array] at hser
      exact (Json.isSerializable_string activeTag).mp
        (hser _ (List.mem_cons_of_mem _ List.mem_cons_self))
    · intro hactive
      refine ⟨?_, fun r hr ↦ isSerializable_retarget hactive (h r hr)⟩
      simp [defaultRule, hactive, utf8_ofString]

/-- The outbounds and the active tag are UTF-8. -/
def Encodable (s : NodeStore) (nodes : List VmNode) : Prop :=
  (∀ n ∈ nodes, (buildVmessOutbound n).isSerializable) ∧ Utf8 (effectiveTag nodes s.activeNodeTag)

theorem isSerializable_buildOutbounds_iff : (Json.array (buildOutbounds nodes)).isSerializable ↔
    ∀ n ∈ nodes, (buildVmessOutbound n).isSerializable := by
  rw [Json.isSerializable_array, buildOutbounds, List.forall_mem_append, List.forall_mem_map]
  exact and_iff_left (by decide)

theorem isSerializable_withOutbounds {existing : Json} (hfile : existing.isSerializable)
    (h : ∀ n ∈ nodes, (buildVmessOutbound n).isSerializable) :
    (Json.object (withOutbounds nodes existing.members)).isSerializable := by
  refine Json.isSerializable_fill ?_ (utf8_ofString _) (by decide)
  exact Json.isSerializable_set (Json.isSerializable_members hfile) (utf8_ofString _)
    (isSerializable_buildOutbounds_iff.mpr h)

theorem isSerializable_withDefaults {config : List (ByteString × Json)}
    (h : (Json.object config).isSerializable) :
      (Json.object (withDefaults config)).isSerializable := by
  refine Json.isSerializable_fill ?_ (utf8_ofString _) (by decide)
  exact Json.isSerializable_fill h (utf8_ofString _) (by decide)

theorem isSerializable_setRules {config : List (ByteString × Json)} {rules : List Json}
    (h : (Json.object config).isSerializable) (hrules : ∀ r ∈ rules, r.isSerializable) :
    (Json.object (setRules rules config)).isSerializable := by
  refine Json.isSerializable_set h (utf8_ofString _) ?_
  refine Json.isSerializable_set ?_ (utf8_ofString _) ((Json.isSerializable_array rules).mpr hrules)
  rw [routingOf]
  rcases hrouting : OrderedMap.get? (ofString "routing") config with _ | v
  · rfl
  · exact Json.isSerializable_members (Json.isSerializable_of_member? h hrouting)

/-- A configuration built from a file that was parsed can be written out when the outbounds and the
active tag can. -/
theorem isSerializable_built_iff (hfile : (readConfig s.config).isSerializable) {config : Json}
    (h : buildFullConfig nodes (readConfig s.config) s.activeNodeTag = .ok config) :
    config.isSerializable ↔ Encodable s nodes := by
  have hbuilt := built_of_ok h
  have hrules := isSerializable_routingRules hfile
  constructor
  · intro hser
    refine ⟨isSerializable_buildOutbounds_iff.mp
      (Json.isSerializable_of_member? hser hbuilt.outbounds), ?_⟩
    by_cases htag : effectiveTag nodes s.activeNodeTag = []
    · rw [htag]
      exact utf8_nil
    · have hnew := isSerializable_routingRules hser
      rw [hbuilt.rules, if_neg htag] at hnew
      exact (isSerializable_newRules_iff hrules).mp hnew
  · rintro ⟨houtbounds, hactive⟩
    have hbase := isSerializable_withOutbounds hfile houtbounds
    by_cases htag : effectiveTag nodes s.activeNodeTag = []
    · rw [buildFullConfig_of_no_tag htag] at h
      obtain rfl := Except.ok.inj h
      exact isSerializable_withDefaults hbase
    · rw [buildFullConfig_of_readable htag (hbuilt.readable htag)] at h
      obtain rfl := Except.ok.inj h
      exact isSerializable_withDefaults (isSerializable_setRules hbase
        ((isSerializable_newRules_iff hrules).mpr hactive))

/-! ## What a save comes to -/

/-- The builder meets a rule whose tag it cannot read. -/
def Unreadable (s : NodeStore) (nodes : List VmNode) : Prop :=
  effectiveTag nodes s.activeNodeTag ≠ [] ∧ ∃ r ∈ routingRules (readConfig s.config), ¬Readable r

/-- Saving the list ends in an exception: a rule cannot be read, or a string cannot be written, in
the configuration or, once that is in its place, among the remarks. -/
def Throws (disk : DiskAnswer) (s : NodeStore) (nodes : List VmNode) : Prop :=
  Unreadable s nodes ∨ disk.opensTmp = true ∧ (¬Encodable s nodes ∨
    disk.renames = true ∧ disk.opensRemarks = true ∧ ¬(remarksJson nodes).isSerializable)

/-- Saving the list is reported as a failure: the file cannot be written or not put in its place. -/
def Fails (disk : DiskAnswer) (s : NodeStore) (nodes : List VmNode) : Prop :=
  ¬Unreadable s nodes ∧ (disk.opensTmp = false ∨ Encodable s nodes ∧ disk.renames = false)

theorem exists_withDefaults {existing config : Json} {tag : ByteString}
    (h : buildFullConfig nodes existing tag = .ok config) :
    ∃ members, config = .object (withDefaults members) := by
  by_cases htag : effectiveTag nodes tag = []
  · rw [buildFullConfig_of_no_tag htag] at h
    exact ⟨_, (Except.ok.inj h).symm⟩
  · rw [buildFullConfig_of_readable htag ((built_of_ok h).readable htag)] at h
    exact ⟨_, (Except.ok.inj h).symm⟩

/-- A configuration that was built is valid. -/
theorem validateConfig_of_built {existing config : Json} {tag : ByteString}
    (h : buildFullConfig nodes existing tag = .ok config) : validateConfig config = true := by
  have hbuilt := built_of_ok h
  obtain ⟨members, rfl⟩ := exists_withDefaults h
  have hinbounds := any_isArray_inbounds members
  rw [validateConfig, hbuilt.outbounds, hinbounds]
  rfl

theorem exists_built (hread : ¬Unreadable s nodes) :
    ∃ config, buildFullConfig nodes (readConfig s.config) s.activeNodeTag = .ok config := by
  by_cases htag : effectiveTag nodes s.activeNodeTag = []
  · exact ⟨_, buildFullConfig_of_no_tag htag⟩
  · refine ⟨_, buildFullConfig_of_readable htag fun r hr ↦ ?_⟩
    by_contra hno
    exact hread ⟨htag, r, hr, hno⟩

/-- A save of a configuration that can be built goes through the steps that can fail. -/
theorem saved_of_built {config : Json}
    (h : buildFullConfig nodes (readConfig s.config) s.activeNodeTag = .ok config) :
    s.saved disk nodes =
      if disk.opensTmp = false then .failed (ofString "v2ray配置文件写入失败")
      else if ¬config.isSerializable then .thrown .typeError
      else if disk.renames = false then .failed (ofString "v2ray配置文件写入失败")
      else if disk.opensRemarks = true ∧ ¬(remarksJson nodes).isSerializable then
        .thrown .typeError
      else .done () := by
  rw [saved, saveToConfig, h]
  simp only [validateConfig_of_built h, Bool.not_true, Bool.false_eq_true, if_false,
    Bool.not_eq_true', Bool.not_eq_true]
  split_ifs <;> simp_all

theorem saved_of_unreadable (h : Unreadable s nodes) : s.saved disk nodes = .thrown .typeError := by
  rw [saved, saveToConfig, buildFullConfig_of_not_readable h.1 h.2]

theorem isThrown_saved_iff (hfile : (readConfig s.config).isSerializable) :
    (s.saved disk nodes).isThrown = true ↔ Throws disk s nodes := by
  rw [Throws]
  by_cases hread : Unreadable s nodes
  · rw [saved_of_unreadable hread]
    exact iff_of_true rfl (.inl hread)
  · obtain ⟨config, hconfig⟩ := exists_built hread
    rw [saved_of_built hconfig, ← isSerializable_built_iff hfile hconfig]
    split_ifs <;> simp_all [Outcome.isThrown]

theorem isFailed_saved_iff (hfile : (readConfig s.config).isSerializable) :
    (s.saved disk nodes).isFailed = true ↔ Fails disk s nodes := by
  rw [Fails]
  by_cases hread : Unreadable s nodes
  · rw [saved_of_unreadable hread]
    exact iff_of_false Bool.false_ne_true fun h ↦ h.1 hread
  · obtain ⟨config, hconfig⟩ := exists_built hread
    rw [saved_of_built hconfig, ← isSerializable_built_iff hfile hconfig]
    split_ifs <;> simp_all [Outcome.isFailed]

/-! ## The exact condition -/

/-- The edit passes its check, and the node it is about is there. -/
def Reaches (lib : LinkLibrary) (s : NodeStore) : Edit → Prop
  | .addNode node => validate node s.isV5Core = [] ∧ s.isTagUnique node.tag [] = true
  | .updateNode oldTag node => validate node s.isV5Core = [] ∧
      s.isTagUnique node.tag oldTag = true ∧ HasTag s.nodes oldTag
  | .removeNode tag => 1 < s.nodes.length ∧ HasTag s.nodes tag
  | .importFromLink vmessLink => ∃ node, decode lib vmessLink = .ok (.ok node) ∧
      validate { node with tag := s.generateAutoTag } s.isV5Core = []

/-- The edit puts a node in the place of the same node. -/
def ChangesNothing (s : NodeStore) : Edit → Prop
  | .updateNode oldTag node => s.nodes.find? (·.tag = oldTag) = some node
  | _ => False

/-- The end of the list is where the node stood: no other node comes after it. -/
def BelongsLast (s : NodeStore) : Edit → Prop
  | .removeNode tag => ∀ n ∈ s.nodes.dropWhile (·.tag ≠ tag), s.nodes.find? (·.tag = tag) = some n
  | _ => True

/-- Where the edit gets as far as its save, and the save throws, there was nothing to take back; and
where the save fails, the rollback puts the node where it was. -/
def Harmless (lib : LinkLibrary) (disk : DiskAnswer) (s : NodeStore) (e : Edit) : Prop :=
  Reaches lib s e → (Throws disk s (s.edited lib e) → ChangesNothing s e) ∧
    (Fails disk s (s.edited lib e) → BelongsLast s e)

/-- An edit that does not succeed leaves the list and the active tag as they were. -/
def Unharmed (lib : LinkLibrary) (disk : DiskAnswer) (s : NodeStore) (e : Edit) : Prop :=
  (∀ result, (s.edit lib disk e).1 ≠ .done result) →
    (s.edit lib disk e).2.nodes = s.nodes ∧ (s.edit lib disk e).2.activeNodeTag = s.activeNodeTag

/-! ## Edits that reach the save -/

/-- The transaction of an edit, with what its save comes to. -/
abbrev sections (lib : LinkLibrary) (disk : DiskAnswer) (s : NodeStore) (e : Edit) :
    EditTransaction :=
  transaction lib s.isV5Core (s.saved disk (s.edited lib e)) e

theorem exists_backup {tag : ByteString} (h : HasTag s.nodes tag) :
    ∃ backup, s.nodes.find? (·.tag = tag) = some backup := by
  obtain ⟨backup, -, -, hfind⟩ := exists_find?_key h
  exact ⟨backup, hfind⟩

/-- An edit that does not reach its save leaves the list as it was. -/
theorem executed_of_not_reaches (h : ¬Reaches lib s e) : (executed lib disk s e).1 = s.nodes := by
  apply Transaction.execute_induction (I := fun nodes ↦ nodes = s.nodes) rfl
  intro a nodes' u hcheck hchange
  refine absurd ?_ h
  cases e with
  | addNode node =>
    obtain ⟨-, hvalid, hunique⟩ := checkNode_eq_ok hcheck
    exact ⟨hvalid, isTagUnique_iff.mpr hunique⟩
  | updateNode oldTag node =>
    obtain ⟨-, hvalid, hunique⟩ := checkNode_eq_ok hcheck
    obtain ⟨backup, pre, post, -, hbackup, -, hnodes, -⟩ := changeNode_eq_ok hchange
    refine ⟨hvalid, isTagUnique_iff.mpr hunique, backup, ?_, hbackup⟩
    rw [hnodes]
    exact List.mem_append_right _ List.mem_cons_self
  | removeNode tag =>
    obtain ⟨backup, pre, post, -, hbackup, -, hnodes, -⟩ := changeNode_eq_ok hchange
    refine ⟨checkRemoval_eq_ok hcheck, backup, ?_, hbackup⟩
    rw [hnodes]
    exact List.mem_append_right _ List.mem_cons_self
  | importFromLink vmessLink =>
    obtain ⟨node, hdecode, -, hvalid⟩ := checkLink_eq_ok hcheck
    exact ⟨node, hdecode, hvalid⟩

theorem checkNode_eq_of_unique {excludeTag : ByteString} {node : VmNode}
    (hvalid : validate node s.isV5Core = []) (hunique : s.isTagUnique node.tag excludeTag = true) :
    checkNode s.isV5Core excludeTag node s.nodes = .ok (some node) := by
  simp [checkNode, hvalid, hunique]

/-- An edit that reaches its save makes its change, and keeps what it needs to take it back. -/
theorem exists_change (h : Reaches lib s e) : ∃ a u, (sections lib disk s e).check s.nodes = .ok a ∧
    (sections lib disk s e).change a s.nodes = .ok (s.edited lib e, u) := by
  cases e with
  | addNode node => exact ⟨some node, none, checkNode_eq_of_unique h.1 h.2, rfl⟩
  | updateNode oldTag node =>
    obtain ⟨hvalid, hunique, htag⟩ := h
    obtain ⟨backup, hfind⟩ := exists_backup htag
    exact ⟨some node, some backup, checkNode_eq_of_unique hvalid hunique,
      changeNode_eq_of_find _ hfind⟩
  | removeNode tag =>
    obtain ⟨hlength, htag⟩ := h
    obtain ⟨backup, hfind⟩ := exists_backup htag
    exact ⟨none, some backup, if_neg (Nat.not_le.mpr hlength), changeNode_eq_of_find _ hfind⟩
  | importFromLink vmessLink =>
    obtain ⟨node, hdecode, hvalid⟩ := h
    refine ⟨some (tagged s.nodes s.isV5Core node), none, ?_, ?_⟩
    · change checkLink lib s.isV5Core vmessLink s.nodes = _
      simp [checkLink, hdecode, hvalid, tagged]
    · change Except.ok (s.nodes ++ [tagged s.nodes s.isV5Core node], none) = _
      rw [edited, hdecode]
      rfl

/-- The change leaves the list as it was when it puts a node in its own place. -/
theorem edited_eq_iff (h : Reaches lib s e) : s.edited lib e = s.nodes ↔ ChangesNothing s e := by
  cases e with
  | addNode node => exact iff_of_false (by simp [edited]) id
  | updateNode oldTag node =>
    obtain ⟨backup, hfind⟩ := exists_backup h.2.2
    obtain ⟨hbackup, pre, post, hsplit, hpre⟩ := exists_split_of_find hfind
    rw [edited, ChangesNothing, hfind, Option.some_inj, hsplit, replaceNode_split node hbackup hpre,
      List.append_cancel_left_eq, List.cons.injEq, eq_comm]
    exact and_iff_left rfl
  | removeNode tag =>
    obtain ⟨backup, hfind⟩ := exists_backup h.2
    obtain ⟨hbackup, pre, post, hsplit, hpre⟩ := exists_split_of_find hfind
    refine iff_of_false (fun heq ↦ ?_) id
    rw [edited, hsplit, eraseP_split hbackup hpre, List.append_cancel_left_eq] at heq
    exact absurd (congrArg List.length heq) (by simp)
  | importFromLink vmessLink =>
    obtain ⟨node, hdecode, -⟩ := h
    exact iff_of_false (by simp [edited, hdecode]) id

/-- A node moved to the end of a list is where it was if all nodes behind it are the same. -/
theorem concat_eq_cons_iff {α : Type} {b : α} {post : List α} :
    post ++ [b] = b :: post ↔ ∀ n ∈ post, n = b := by
  induction post with
  | nil => simp
  | cons n post ih =>
    rw [List.cons_append, List.cons.injEq, List.forall_mem_cons]
    refine and_congr_right fun hn ↦ ?_
    rw [hn, ih]

/-- Taking the change back restores the list, but for a node that belongs elsewhere than last. -/
theorem undo_eq_iff {a u : Option VmNode}
    (hcheck : (sections lib disk s e).check s.nodes = .ok a)
    (hchange : (sections lib disk s e).change a s.nodes = .ok (s.edited lib e, u)) :
    (sections lib disk s e).undo a u (s.edited lib e) = s.nodes ↔ BelongsLast s e := by
  cases e with
  | addNode node =>
    refine iff_of_true ?_ trivial
    change (s.nodes ++ [node]).dropLast = s.nodes
    exact List.dropLast_concat
  | updateNode oldTag node =>
    refine iff_of_true ?_ trivial
    obtain ⟨-, -, hunique⟩ := checkNode_eq_ok hcheck
    obtain ⟨backup, pre, post, rfl, hbackup, hpre, hsplit, -⟩ := changeNode_eq_ok hchange
    change replaceNode node.tag backup (replaceNode oldTag node s.nodes) = s.nodes
    rw [hsplit] at hunique ⊢
    exact replaceNode_replaceNode hbackup hpre hunique
  | removeNode tag =>
    obtain ⟨backup, pre, post, rfl, hbackup, hpre, hsplit, -⟩ := changeNode_eq_ok hchange
    have hfind : s.nodes.find? (·.tag = tag) = some backup := by
      rw [hsplit, List.find?_append, List.find?_eq_none.mpr fun n hn ↦ by simpa using hpre n hn]
      simp [hbackup]
    have hdrop : s.nodes.dropWhile (·.tag ≠ tag) = backup :: post := by
      rw [hsplit, List.dropWhile_append_of_pos fun n hn ↦ by simpa using hpre n hn]
      simp [hbackup]
    change s.nodes.eraseP (·.tag = tag) ++ [backup] = s.nodes ↔ _
    rw [BelongsLast, hdrop, hfind, hsplit, eraseP_split hbackup hpre, List.append_assoc,
      List.append_cancel_left_eq, concat_eq_cons_iff, List.forall_mem_cons]
    simp only [Option.some_inj, true_and, eq_comm]
  | importFromLink vmessLink =>
    refine iff_of_true ?_ trivial
    obtain ⟨node, hdecode, rfl, -⟩ := checkLink_eq_ok hcheck
    change dropTagged (tagged s.nodes s.isV5Core node)
      (s.edited lib (.importFromLink vmessLink)) = _
    rw [edited, hdecode]
    exact dropTagged_concat

theorem map_ne_done_iff {α β : Type} {o : Outcome α} {f : α → β} :
    (∀ result, o.map f ≠ .done result) ↔ o.isThrown = true ∨ o.isFailed = true := by
  cases o <;> simp [Outcome.map, Outcome.isThrown, Outcome.isFailed]

/-- What an edit that reaches its save comes to. -/
theorem executed_of_reaches {a u : Option VmNode}
    (hcheck : (sections lib disk s e).check s.nodes = .ok a)
    (hchange : (sections lib disk s e).change a s.nodes = .ok (s.edited lib e, u)) :
    (executed lib disk s e).1 = (if (s.saved disk (s.edited lib e)).isFailed then
      (sections lib disk s e).undo a u (s.edited lib e) else s.edited lib e) ∧
    ((∀ result, (executed lib disk s e).2 ≠ .done result) ↔
      (s.saved disk (s.edited lib e)).isThrown = true ∨
        (s.saved disk (s.edited lib e)).isFailed = true) := by
  rw [executed, Transaction.execute_of_changed hcheck hchange]
  constructor
  · cases e <;> rfl
  · obtain ⟨r, hr⟩ : ∃ r, (sections lib disk s e).result a
        = (s.saved disk (s.edited lib e)).map fun _ ↦ r := by
      cases e <;> exact ⟨_, rfl⟩
    rw [hr]
    exact map_ne_done_iff

/-- A failed edit changes nothing exactly when it is harmless. -/
theorem unharmed_iff (lib : LinkLibrary) (disk : DiskAnswer)
    (hfile : (readConfig s.config).isSerializable) (e : Edit) :
    Unharmed lib disk s e ↔ Harmless lib disk s e := by
  have hedit : executed lib disk s e = ((s.edit lib disk e).2.nodes, (s.edit lib disk e).1) :=
    edit_eq_execute e
  have hnodes : (s.edit lib disk e).2.nodes = (executed lib disk s e).1 := by rw [hedit]
  have hresult : (s.edit lib disk e).1 = (executed lib disk s e).2 := by rw [hedit]
  rw [Unharmed, Harmless, hnodes, hresult, (framed_edit e).activeNodeTag]
  by_cases hreach : Reaches lib s e
  · obtain ⟨a, u, hcheck, hchange⟩ := @exists_change lib disk _ _ hreach
    obtain ⟨hleft, hnot⟩ := executed_of_reaches hcheck hchange
    rw [hnot, hleft, ← isThrown_saved_iff hfile, ← isFailed_saved_iff hfile,
      ← edited_eq_iff hreach, ← undo_eq_iff hcheck hchange]
    rcases s.saved disk (s.edited lib e) with result | errorMsg | x
    · simp [Outcome.isThrown, Outcome.isFailed]
    · simp [Outcome.isThrown, Outcome.isFailed, hreach]
    · simp [Outcome.isThrown, Outcome.isFailed, hreach]
  · exact iff_of_true (fun _ ↦ ⟨executed_of_not_reaches hreach, rfl⟩) fun h ↦ absurd h hreach

/-- The node that comes last is put back where it was. -/
theorem unharmed_removal_of_last :
    Unharmed noLibrary { opensTmp := false } twoNodeStore (.removeNode (ofString "vmess-2")) := by
  refine (unharmed_iff noLibrary _ (by decide +kernel) _).mpr fun _ ↦ ⟨fun hthrows ↦ ?_, fun _ ↦ ?_⟩
  · rcases hthrows with ⟨-, r, hr, hno⟩ | ⟨hopens, -⟩
    · change r ∈ routingRules twoNodeConfig at hr
      rw [routingRules_twoNodeConfig, List.mem_singleton] at hr
      exact absurd (hr ▸ hno) (by decide +kernel)
    · cases hopens
  · rw [BelongsLast]
    decide +kernel

/-- A removal of the first of two nodes fails, and the two have changed places. -/
theorem harmed_removal_of_first :
    loadFromConfig { config := .json twoNodeConfig } .null = .ok twoNodeStore ∧
      ¬Unharmed noLibrary { opensTmp := false } twoNodeStore
        (.removeNode (ofString "vmess-1")) := by
  refine ⟨loadFromConfig_twoNodeConfig, fun h ↦ ?_⟩
  have hfailed : (twoNodeStore.edit noLibrary { opensTmp := false }
      (.removeNode (ofString "vmess-1"))).1.isFailed = true := by decide +kernel
  have hnodes : (twoNodeStore.edit noLibrary { opensTmp := false }
      (.removeNode (ofString "vmess-1"))).2.nodes ≠ twoNodeStore.nodes := by decide +kernel
  refine hnodes (h fun result hresult ↦ ?_).1
  rw [hresult] at hfailed
  cases hfailed

end NodeStore

end LanProxyGateway
