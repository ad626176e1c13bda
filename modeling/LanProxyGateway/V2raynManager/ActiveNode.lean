import LanProxyGateway.Foundation.Keys
import LanProxyGateway.V2raynManager.OutboundCodec

/-!
# Does the routing point at an outbound that exists?

The active tag should be the tag of a node, and every rule of the configuration file should name an
outbound of that file. `Pointing` says so of a store; since only the manager writes the file, it
holds of every file written if it holds in every state of a run.

Three things are maintained by different operations and have to agree: the list of nodes, from which
a save makes all outbounds but `direct` and `block`; the active tag, to which it sends the rules
with a `vmess-` tag; and the other rules, which it leaves alone. Renaming or removing a node changes
the list and looks at neither the active tag nor the rules, and a save drops every other outbound
that was in the file. A run in which no request takes a tag away that is in use, and no save meets a
rule for another outbound, keeps the property (`pointing_throughout`).

The induction also needs that the active tag is not empty, since with an empty one the rules may be
left as they are. A loaded node has a tag, so it holds at the start.
-/

open Foundation ByteString

namespace LanProxyGateway

namespace NodeStore

open VmConfigBuilder VmNodeValidator VmLinkCodec

/-- Some node of the list has the tag. -/
def HasTag (nodes : List VmNode) (tag : ByteString) : Prop := ∃ n ∈ nodes, n.tag = tag

theorem find?_tag_eq_none_iff {nodes : List VmNode} {tag : ByteString} :
    nodes.find? (·.tag = tag) = none ↔ ¬HasTag nodes tag := find?_key_eq_none_iff

/-- Every rule of the configuration names one of its outbounds. -/
def TargetsExist (config : Json) : Prop :=
  ∀ r ∈ routingRules config, ∀ tag, Targets r tag →
    ∃ o ∈ (config.member? (ofString "outbounds")).elim [] Json.arrayItems,
      o.member? (ofString "tag") = some (.string tag)

/-- The active tag is that of a node, and the rules in the file name outbounds of the file. -/
structure Pointing (s : NodeStore) : Prop where
  active : HasTag s.nodes s.activeNodeTag
  routed : TargetsExist (readConfig s.config)

/-! ## The condition on a request -/

/-- The rule of the file that a save leaves alone. -/
def StaysWith (s : NodeStore) (tag : ByteString) : Prop :=
  ∃ r ∈ routingRules (readConfig s.config), ¬Owned r ∧ Targets r tag

/-- The request is accepted and takes the tag away from the only node that has it. -/
def TakesAway (s : NodeStore) (tag : ByteString) : Request → Prop
  | .updateNode oldTag node => tag = oldTag ∧ node.tag ≠ tag ∧ s.nodes.countP (·.tag = tag) ≤ 1 ∧
      validate node s.isV5Core = [] ∧ s.isTagUnique node.tag oldTag
  | .removeNode tag' => tag = tag' ∧ s.nodes.countP (·.tag = tag) ≤ 1 ∧ 1 < s.nodes.length
  | _ => False

/-- The request may save. -/
def Saves : Request → Prop
  | .reorderNodes _ => False
  | .setActiveNode _ => False
  | _ => True

/-- The tag is that of an outbound that every save writes. -/
def IsKept (nodes : List VmNode) (tag : ByteString) : Prop :=
  HasTag nodes tag ∨ tag = ofString "direct" ∨ tag = ofString "block"

/-- The request takes no tag away that is active or that a rule stays with, does not make the empty
tag active, and does not save while a rule stays with an outbound that a save drops. -/
structure Careful (s : NodeStore) (e : Request × DiskAnswer) : Prop where
  active : ¬TakesAway s s.activeNodeTag e.1
  targets : ∀ tag, StaysWith s tag → ¬TakesAway s tag e.1
  notEmpty : e.1 ≠ .setActiveNode []
  kept : Saves e.1 → ∀ tag, StaysWith s tag → IsKept s.nodes tag

/-! ## Lists of nodes -/

theorem hasTag_append {nodes : List VmNode} {tag : ByteString} (h : HasTag nodes tag)
    (more : List VmNode) : HasTag (nodes ++ more) tag := by
  obtain ⟨n, hn, ht⟩ := h
  exact ⟨n, List.mem_append_left more hn, ht⟩

/-- After a removal a tag is still there unless it was that of the one node removed. -/
theorem hasTag_eraseP {nodes : List VmNode} {tag' tag : ByteString} (h : HasTag nodes tag)
    (hkeep : tag = tag' → 1 < nodes.countP (·.tag = tag)) :
    HasTag (nodes.eraseP (·.tag = tag')) tag := by
  rcases List.exists_or_eq_self_of_eraseP (fun n : VmNode ↦ decide (n.tag = tag')) nodes with
    hsame | ⟨n, before, after, -, hn, rfl, hsplit⟩
  · rwa [hsame]
  have htag' : n.tag = tag' := by simpa using hn
  rw [hsplit]
  by_cases htag : n.tag = tag
  · -- the removed node had the tag, so another one has it
    have hcount := hkeep (htag.symm.trans htag')
    rw [List.countP_append, List.countP_cons_of_pos (by simpa using htag)] at hcount
    have hpos : 0 < (before ++ after).countP (·.tag = tag) := by
      rw [List.countP_append]
      omega
    obtain ⟨m, hm, ht⟩ := List.countP_pos_iff.mp hpos
    exact ⟨m, hm, by simpa using ht⟩
  · obtain ⟨m, hm, ht⟩ := h
    rcases List.mem_append.mp hm with hm | hm
    · exact ⟨m, List.mem_append_left after hm, ht⟩
    · rcases List.mem_cons.mp hm with rfl | hm
      · exact absurd ht htag
      · exact ⟨m, List.mem_append_right before hm, ht⟩

/-- A replacement keeps what a removal would keep. -/
theorem mem_replaceNode_of_mem_eraseP {nodes : List VmNode} {oldTag : ByteString}
    {node n : VmNode} (h : n ∈ nodes.eraseP (·.tag = oldTag)) :
    n ∈ replaceNode oldTag node nodes := by
  induction nodes with
  | nil => exact h
  | cons m nodes ih =>
    rw [replaceNode]
    by_cases hm : m.tag = oldTag
    · rw [List.eraseP_cons_of_pos (by simpa using hm)] at h
      rw [if_pos hm]
      exact List.mem_cons_of_mem node h
    · rw [List.eraseP_cons_of_neg (by simpa using hm)] at h
      rw [if_neg hm]
      rcases List.mem_cons.mp h with rfl | h
      · exact List.mem_cons_self
      · exact List.mem_cons_of_mem m (ih h)

theorem mem_replaceNode {nodes : List VmNode} {oldTag : ByteString} (node : VmNode)
    (h : HasTag nodes oldTag) : node ∈ replaceNode oldTag node nodes := by
  induction nodes with
  | nil =>
    obtain ⟨m, hm, -⟩ := h
    exact absurd hm List.not_mem_nil
  | cons m nodes ih =>
    rw [replaceNode]
    by_cases hm : m.tag = oldTag
    · rw [if_pos hm]
      exact List.mem_cons_self
    · rw [if_neg hm]
      obtain ⟨n, hn, ht⟩ := h
      rcases List.mem_cons.mp hn with rfl | hn
      · exact absurd ht hm
      · exact List.mem_cons_of_mem m (ih ⟨n, hn, ht⟩)

/-- After a replacement a tag is still there unless it was that of the one node replaced. -/
theorem hasTag_replaceNode {nodes : List VmNode} {oldTag tag : ByteString} {node : VmNode}
    (h : HasTag nodes tag)
    (hkeep : tag = oldTag → node.tag = tag ∨ 1 < nodes.countP (·.tag = tag)) :
    HasTag (replaceNode oldTag node nodes) tag := by
  by_cases hnew : tag = oldTag ∧ node.tag = tag
  · exact ⟨node, mem_replaceNode node (hnew.1 ▸ h), hnew.2⟩
  · obtain ⟨n, hn, ht⟩ := hasTag_eraseP h fun heq ↦
      (hkeep heq).resolve_left fun hnode ↦ hnew ⟨heq, hnode⟩
    exact ⟨n, mem_replaceNode_of_mem_eraseP hn, ht⟩

/-! ## What a save writes -/

/-- The outbounds of a configuration that was built. -/
theorem exists_outbound_of_isKept {nodes : List VmNode} {existing config : Json}
    {activeTag tag : ByteString} (hconfig : Built nodes existing activeTag config)
    (h : IsKept nodes tag) :
    ∃ o ∈ (config.member? (ofString "outbounds")).elim [] Json.arrayItems,
      o.member? (ofString "tag") = some (.string tag) := by
  rw [hconfig.outbounds]
  rcases h with ⟨n, hn, rfl⟩ | rfl | rfl
  · refine ⟨_, List.mem_append_left _ (List.mem_map_of_mem hn), ?_⟩
    simp [buildVmessOutbound]
  · exact ⟨_, List.mem_append_right _ List.mem_cons_self, by simp⟩
  · exact ⟨_, List.mem_append_right _ (List.mem_cons_of_mem _ List.mem_cons_self), by simp⟩

/-- The targets of the rules that the builder writes for an active tag: that tag, and those of the
rules it left alone. -/
theorem targets_newRules {activeTag tag : ByteString} {rules : List Json} {r : Json}
    (hr : r ∈ newRules activeTag rules) (htag : Targets r tag) :
    tag = activeTag ∨ ∃ r' ∈ rules, ¬Owned r' ∧ Targets r' tag := by
  have hmap : r ∈ rules.map (retarget activeTag) := by
    rw [newRules] at hr
    split at hr
    · exact hr
    · rcases List.mem_append.mp hr with hr | hr
      · rw [defaultRule, List.mem_cons, List.mem_cons, List.mem_singleton] at hr
        rcases hr with rfl | rfl | rfl <;> cases htag
      · exact hr
  obtain ⟨r', hr', rfl⟩ := List.mem_map.mp hmap
  by_cases ho : Owned r'
  · rw [retarget, if_pos ho] at htag
    exact .inl (htag.unique (targets_setTag activeTag r'))
  · rw [retarget, if_neg ho] at htag
    exact .inr ⟨r', hr', ho, htag⟩

/-- A configuration built for a tag that a node has, with the other rules for outbounds that are
written, names its own outbounds only. -/
theorem targetsExist_of_built {nodes : List VmNode} {existing config : Json}
    {activeTag : ByteString}
    (hconfig : Built nodes existing activeTag config) (hne : activeTag ≠ [])
    (hactive : HasTag nodes activeTag)
    (hkept : ∀ r ∈ routingRules existing, ¬Owned r → ∀ tag, Targets r tag → IsKept nodes tag) :
    TargetsExist config := by
  intro r hr tag htag
  refine exists_outbound_of_isKept hconfig ?_
  rw [hconfig.rules, if_neg (effectiveTag_ne_nil nodes hne), effectiveTag_of_ne_nil nodes hne] at hr
  rcases targets_newRules hr htag with rfl | ⟨r', hr', ho, htag'⟩
  · exact .inl hactive
  · exact hkept r' hr' ho tag htag'

/-- A save changes files only: the configuration is the one from before or one that was built. -/
structure Saved (s t : NodeStore) : Prop where
  nodes : t.nodes = s.nodes
  activeNodeTag : t.activeNodeTag = s.activeNodeTag
  config : t.config = s.config ∨ ∃ config, t.config = .json config ∧
    buildFullConfig s.nodes (readConfig s.config) s.activeNodeTag = .ok config

theorem saved_saveToConfig (disk : DiskAnswer) (s : NodeStore) :
    Saved s (saveToConfig disk s).2 := by
  have hkept : Saved s s := ⟨rfl, rfl, .inl rfl⟩
  rw [saveToConfig]
  split
  · exact hkept
  · rename_i config hconfig
    have hwritten : ∀ remarks, Saved s { s with config := .json config, remarks := remarks } :=
      fun _ ↦ ⟨rfl, rfl, .inr ⟨config, rfl, hconfig⟩⟩
    split
    · exact hkept
    · split
      · exact hkept
      · split
        · exact hkept
        · split
          · exact hkept
          · simp only
            split
            · exact hwritten s.remarks
            · split
              · exact hwritten _
              · exact hwritten _

/-- A save that reports a failure has changed nothing. -/
theorem eq_of_saveToConfig_failed {disk : DiskAnswer} {s t : NodeStore} {errorMsg : ByteString}
    (h : saveToConfig disk s = (.failed errorMsg, t)) : t = s := by
  rw [saveToConfig] at h
  split at h
  · cases h
  · split at h
    · exact (Prod.mk.inj h).2.symm
    · split at h
      · exact (Prod.mk.inj h).2.symm
      · split at h
        · cases h
        · split at h
          · exact (Prod.mk.inj h).2.symm
          · simp only at h
            split at h
            · cases h
            · split at h
              · cases h
              · cases h

/-! ## One request -/

/-- The invariant of a run. -/
structure Invariant (s : NodeStore) : Prop where
  pointing : Pointing s
  active_ne_nil : s.activeNodeTag ≠ []

/-- Only the list of nodes changes, and the active tag stays in it. -/
theorem Invariant.withNodes {s : NodeStore} (h : Invariant s) {nodes : List VmNode}
    (hactive : HasTag nodes s.activeNodeTag) : Invariant { s with nodes := nodes } :=
  ⟨⟨hactive, h.pointing.routed⟩, h.active_ne_nil⟩

/-- A save of a list that has the active tag, and the tags that rules stay with. -/
theorem Invariant.saved {s t : NodeStore} (h : Invariant s) {nodes : List VmNode}
    (hactive : HasTag nodes s.activeNodeTag) (hkept : ∀ tag, StaysWith s tag → IsKept nodes tag)
    (hsaved : Saved { s with nodes := nodes } t) : Invariant t := by
  have hactive' : HasTag t.nodes t.activeNodeTag := by
    rw [hsaved.nodes, hsaved.activeNodeTag]
    exact hactive
  have hne : t.activeNodeTag ≠ [] := by
    rw [hsaved.activeNodeTag]
    exact h.active_ne_nil
  refine ⟨⟨hactive', ?_⟩, hne⟩
  rcases hsaved.config with hconfig | ⟨config, hconfig, hbuild⟩
  · rw [hconfig]
    exact h.pointing.routed
  · rw [hconfig]
    exact targetsExist_of_built (built_of_ok hbuild) h.active_ne_nil hactive
      fun r hr ho tag htag ↦ hkept tag ⟨r, hr, ho, htag⟩

/-- The tags that rules stay with are kept when the list keeps its tags. -/
theorem isKept_of_hasTag {s : NodeStore} {nodes : List VmNode}
    (hkept : ∀ tag, StaysWith s tag → IsKept s.nodes tag)
    (h : ∀ tag, StaysWith s tag → HasTag s.nodes tag → HasTag nodes tag) :
    ∀ tag, StaysWith s tag → IsKept nodes tag := by
  intro tag hstays
  rcases hkept tag hstays with hnode | hother
  · exact .inl (h tag hstays hnode)
  · exact .inr hother

variable {s : NodeStore} {disk : DiskAnswer}

theorem Invariant.addNode (h : Invariant s) {node : VmNode}
    (hc : Careful s (.addNode node, disk)) : Invariant (s.addNode disk node).2 := by
  rw [NodeStore.addNode]
  split
  · exact h
  · split
    · exact h
    · have hsaved := saved_saveToConfig disk { s with nodes := s.nodes ++ [node] }
      split
      · rename_i errorMsg t hsave
        obtain rfl := eq_of_saveToConfig_failed hsave
        rw [List.dropLast_concat]
        exact h
      · exact h.saved (hasTag_append h.pointing.active _) (isKept_of_hasTag (hc.kept trivial)
          fun tag _ htag ↦ hasTag_append htag _) hsaved

theorem Invariant.updateNode (h : Invariant s) {oldTag : ByteString} {node : VmNode}
    (hc : Careful s (.updateNode oldTag node, disk)) :
    Invariant (s.updateNode disk oldTag node).2 := by
  rw [NodeStore.updateNode]
  split
  · exact h
  · rename_i hvalid
    split
    · exact h
    · rename_i hunique
      split
      · exact h
      · rename_i backup hbackup
        have hkeeps : ∀ tag, ¬TakesAway s tag (.updateNode oldTag node) → HasTag s.nodes tag →
            HasTag (replaceNode oldTag node s.nodes) tag := by
          intro tag hnot htag
          refine hasTag_replaceNode htag fun heq ↦ ?_
          by_contra hno
          push Not at hno
          exact hnot ⟨heq, hno.1, hno.2, not_not.mp hvalid, by simpa using hunique⟩
        have hactive := hkeeps _ hc.active h.pointing.active
        have hsaved :=
          saved_saveToConfig disk { s with nodes := replaceNode oldTag node s.nodes }
        split
        · rename_i errorMsg t hsave
          obtain rfl := eq_of_saveToConfig_failed hsave
          -- Where the new tag is the active one it was the old one too.
          refine h.withNodes (hasTag_replaceNode hactive fun heq ↦ .inl ?_)
          obtain ⟨n, hn, ht⟩ := h.pointing.active
          rw [Bool.not_eq_true', Bool.not_eq_false, isTagUnique, List.all_eq_true] at hunique
          have hold : n.tag = oldTag := by simpa [ht, heq] using hunique n hn
          rw [key_eq_of_find? hbackup, ← hold, ht]
        · exact h.saved hactive (isKept_of_hasTag (hc.kept trivial)
            fun tag hstays htag ↦ hkeeps tag (hc.targets tag hstays) htag) hsaved

theorem Invariant.removeNode (h : Invariant s) {tag : ByteString}
    (hc : Careful s (.removeNode tag, disk)) : Invariant (s.removeNode disk tag).2 := by
  rw [NodeStore.removeNode]
  split
  · exact h
  · rename_i hlength
    split
    · exact h
    · rename_i backup hbackup
      have hkeeps : ∀ tag', ¬TakesAway s tag' (.removeNode tag) → HasTag s.nodes tag' →
          HasTag (s.nodes.eraseP (·.tag = tag)) tag' := by
        intro tag' hnot htag
        refine hasTag_eraseP htag fun heq ↦ ?_
        by_contra hno
        exact hnot ⟨heq, Nat.le_of_not_lt hno, Nat.lt_of_not_le hlength⟩
      have hactive := hkeeps _ hc.active h.pointing.active
      have hsaved := saved_saveToConfig disk { s with nodes := s.nodes.eraseP (·.tag = tag) }
      split
      · rename_i errorMsg t hsave
        obtain rfl := eq_of_saveToConfig_failed hsave
        exact h.withNodes (hasTag_append hactive _)
      · exact h.saved hactive (isKept_of_hasTag (hc.kept trivial)
          fun tag' hstays htag ↦ hkeeps tag' (hc.targets tag' hstays) htag) hsaved

theorem Invariant.setActiveNode (h : Invariant s) {tag : ByteString}
    (hc : Careful s (.setActiveNode tag, disk)) : Invariant (s.setActiveNode tag).2 := by
  rw [NodeStore.setActiveNode]
  split
  · rename_i hany
    obtain ⟨n, hn, ht⟩ := List.any_eq_true.mp hany
    have hne : tag ≠ [] := fun heq ↦ hc.notEmpty (by rw [heq])
    exact ⟨⟨⟨n, hn, by simpa using ht⟩, h.pointing.routed⟩, hne⟩
  · exact h

theorem Invariant.applyConfig (h : Invariant s) (hc : Careful s (.applyConfig, disk)) :
    Invariant (s.applyConfig disk).2 :=
  h.saved h.pointing.active (hc.kept trivial) (saved_saveToConfig disk s)

theorem Invariant.importFromLink (h : Invariant s) (lib : LinkLibrary) {vmessLink : ByteString}
    (hc : Careful s (.importFromLink vmessLink, disk)) :
    Invariant (s.importFromLink lib disk vmessLink).2 := by
  rw [NodeStore.importFromLink]
  split
  · exact h
  · exact h
  · rename_i node _
    simp only
    split
    · exact h
    · have hsaved := saved_saveToConfig disk
        { s with nodes := s.nodes ++ [{ node with tag := s.generateAutoTag }] }
      have hinv := h.saved (hasTag_append h.pointing.active _) (isKept_of_hasTag (hc.kept trivial)
          fun tag _ htag ↦ hasTag_append htag _) hsaved
      split
      · rename_i t hsave
        rw [hsave] at hinv
        exact hinv
      · rename_i errorMsg t hsave
        obtain rfl := eq_of_saveToConfig_failed hsave
        split
        · rw [List.dropLast_concat]
          exact h
        · exact h.withNodes (hasTag_append h.pointing.active _)
      · rename_i e t hsave
        rw [hsave] at hinv
        exact hinv

/-- Where nothing is picked, nothing is moved. -/
theorem pickNodes_of_unknown {tags : List ByteString} {nodes : List VmNode}
    (h : ∀ tag ∈ tags, ¬HasTag nodes tag) : pickNodes tags nodes = ([], nodes) := by
  induction tags with
  | nil => rfl
  | cons tag tags ih =>
    rw [List.forall_mem_cons] at h
    rw [pickNodes, find?_tag_eq_none_iff.mpr h.1]
    exact ih h.2

/-- Picking nodes leaves every tag in one of the two lists. -/
theorem hasTag_pickNodes {tags : List ByteString} {tag : ByteString} : ∀ {nodes : List VmNode},
    HasTag nodes tag →
      HasTag (pickNodes tags nodes).1 tag ∨ HasTag (pickNodes tags nodes).2 tag := by
  induction tags with
  | nil => exact fun h ↦ .inr h
  | cons tag' tags ih =>
    intro nodes h
    rw [pickNodes]
    split
    · exact ih h
    · rename_i n hn
      have hntag : n.tag = tag' := key_eq_of_find? hn
      by_cases heq : tag = tag'
      · exact .inl ⟨n, List.mem_cons_self, hntag.trans heq.symm⟩
      · rcases ih (hasTag_replaceNode h fun heq' ↦ absurd heq' heq) with hpicked | hrest
        · obtain ⟨m, hm, ht⟩ := hpicked
          exact .inl ⟨m, List.mem_cons_of_mem n hm, ht⟩
        · exact .inr hrest

theorem hasTag_appendMissing {rest : List VmNode} {tag : ByteString} :
    ∀ {reordered : List VmNode}, HasTag reordered tag ∨ HasTag rest tag →
      HasTag (appendMissing reordered rest) tag := by
  induction rest with
  | nil =>
    rintro reordered (h | ⟨n, hn, -⟩)
    · exact h
    · exact absurd hn List.not_mem_nil
  | cons n rest ih =>
    rintro reordered h
    rw [appendMissing]
    split
    · rename_i hany
      refine ih ?_
      rcases h with h | ⟨m, hm, ht⟩
      · exact .inl h
      · rcases List.mem_cons.mp hm with rfl | hm
        · obtain ⟨m', hm', ht'⟩ := List.any_eq_true.mp hany
          exact .inl ⟨m', hm', by rw [← ht]; simpa using ht'⟩
        · exact .inr ⟨m, hm, ht⟩
    · refine ih ?_
      rcases h with h | ⟨m, hm, ht⟩
      · exact .inl (hasTag_append h _)
      · rcases List.mem_cons.mp hm with rfl | hm
        · exact .inl ⟨m, List.mem_append_right _ List.mem_cons_self, ht⟩
        · exact .inr ⟨m, hm, ht⟩

theorem Invariant.reorderNodes (h : Invariant s) (orderedTags : List ByteString) :
    Invariant (s.reorderNodes orderedTags).2 :=
  h.withNodes (hasTag_appendMissing (hasTag_pickNodes h.pointing.active))

/-! ## The nodes of a configuration that was loaded -/

/-- A node that was read has a tag. -/
theorem tag_ne_nil_of_parseOutbound {ob : Json} {node : VmNode}
    (h : parseOutbound ob = .ok (some node)) : node.tag ≠ [] := by
  obtain ⟨tag, vnext, vs, port, hne, -, -, hhead⟩ := head_parseOutbound h
  rwa [(Prod.mk.inj hhead).1]

theorem tag_ne_nil_of_parseOutbounds {obs : List Json} : ∀ {nodes : List VmNode},
    parseOutbounds obs = .ok nodes → ∀ n ∈ nodes, n.tag ≠ [] := by
  induction obs with
  | nil =>
    intro nodes h n hn
    obtain rfl := Except.ok.inj h
    exact absurd hn List.not_mem_nil
  | cons ob obs ih =>
    intro nodes h n hn
    rw [parseOutbounds] at h
    obtain ⟨protocol, -, h⟩ := Json.bind_eq_ok.mp h
    split at h
    · simp only [Json.bind_eq_ok] at h
      obtain ⟨node, hnode, rest, hrest, h⟩ := h
      rw [← Except.ok.inj h] at hn
      rcases List.mem_append.mp hn with hn | hn
      · obtain rfl := Option.mem_toList.mp hn
        exact tag_ne_nil_of_parseOutbound hnode
      · exact ih hrest n hn
    · simp only [Json.ok_bind, Json.bind_eq_ok] at h
      obtain ⟨rest, hrest, h⟩ := h
      rw [← Except.ok.inj h] at hn
      exact ih hrest n hn

theorem withRemark_tag {remarks : Json} {node node' : VmNode}
    (h : withRemark remarks node = .ok node') : node'.tag = node.tag := by
  rw [withRemark] at h
  split at h
  · obtain ⟨remark, -, rfl⟩ := Json.map_eq_ok.mp h
    rfl
  · rw [Except.ok.inj h]

theorem hasTag_of_mapM_withRemark {remarks : Json} {nodes : List VmNode} {tag : ByteString} :
    ∀ {nodes' : List VmNode}, nodes.mapM (withRemark remarks) = .ok nodes' → HasTag nodes' tag →
      HasTag nodes tag := by
  induction nodes with
  | nil =>
    intro nodes' h htag
    obtain rfl := Except.ok.inj h
    exact htag
  | cons node nodes ih =>
    intro nodes' h htag
    rw [List.mapM_cons] at h
    simp only [Json.bind_eq_ok] at h
    obtain ⟨node', hnode', rest, hrest, h⟩ := h
    obtain rfl := Except.ok.inj h
    obtain ⟨m, hm, ht⟩ := htag
    rcases List.mem_cons.mp hm with rfl | hm
    · exact ⟨node, List.mem_cons_self, (withRemark_tag hnode').symm.trans ht⟩
    · obtain ⟨m', hm', ht'⟩ := ih hrest ⟨m, hm, ht⟩
      exact ⟨m', List.mem_cons_of_mem node hm', ht'⟩

/-- In a loaded store only a node with a tag can be active. -/
theorem ne_nil_of_loadFromConfig {s₀ s : NodeStore} {remarks : Json}
    (h : loadFromConfig s₀ remarks = .ok s) {tag : ByteString} (htag : HasTag s.nodes tag) :
    tag ≠ [] := by
  rw [loadFromConfig] at h
  simp only at h
  split at h
  · obtain rfl := Except.ok.inj h
    obtain ⟨n, hn, -⟩ := htag
    exact absurd hn List.not_mem_nil
  · simp only [Json.bind_eq_ok] at h
    obtain ⟨nodes, hnodes, nodes', hnodes', found, -, h⟩ := h
    obtain rfl := Except.ok.inj h
    obtain ⟨n, hn, rfl⟩ := hasTag_of_mapM_withRemark hnodes' htag
    exact tag_ne_nil_of_parseOutbounds hnodes n hn

/-! ## A run -/

theorem Invariant.step {lib : LinkLibrary} {e : Request × DiskAnswer} {t : NodeStore}
    (h : Invariant s) (hc : Careful s e) (hstep : step lib s e = .ok t) : Invariant t := by
  obtain rfl := Except.ok.inj hstep
  obtain ⟨request, disk⟩ := e
  cases request with
  | addNode node => exact h.addNode hc
  | updateNode oldTag node => exact h.updateNode hc
  | removeNode tag => exact h.removeNode hc
  | reorderNodes orderedTags => exact h.reorderNodes orderedTags
  | setActiveNode tag => exact h.setActiveNode hc
  | applyConfig => exact h.applyConfig hc
  | importFromLink vmessLink => exact h.importFromLink lib hc

/-- From a loaded store whose routing is in order, a run whose requests are all careful keeps it in
order throughout. -/
theorem pointing_throughout (lib : LinkLibrary) {s₀ s : NodeStore} {remarks : Json}
    (hload : loadFromConfig s₀ remarks = .ok s) (hs : Pointing s)
    {es : List (Request × DiskAnswer)} (h : Along (step lib) Careful s es) :
    Throughout (step lib) Pointing s es :=
  h.throughout (fun _ hi ↦ Invariant.pointing hi) (fun _ _ _ hi hc hstep ↦ hi.step hc hstep)
    ⟨hs, ne_nil_of_loadFromConfig hload hs.active⟩

/-! ## Two nodes, one of them active -/

def vmessNode (tag : String) : VmNode where
  tag := ofString tag
  address := ofString "1.1.1.1"
  userId := ofString "01234567-89ab-cdef-0123-456789abcdef"

/-- Only the tag of such a node can be refused. -/
theorem validate_vmessNode {tag : String} (h : validateTag (ofString tag) = []) :
    validate (vmessNode tag) true = [] := by
  refine validate_eq_nil_iff.mpr
    ⟨h, ?_, rfl, validateUuid_sample, rfl, rfl, rfl, rfl, rfl, rfl⟩
  change validateAddress (ofString "1.1.1.1") = []
  decide +kernel

def vmessRule : Json :=
  .ofFields [("type", .string (ofString "field")), ("outboundTag", .string (ofString "vmess-1"))]

def twoNodeConfig : Json :=
  .ofFields [("outbounds", .array (buildOutbounds [vmessNode "vmess-1", vmessNode "vmess-2"])),
    ("routing", .ofFields [("rules", .array [vmessRule])])]

/-- The store that is loaded from this configuration. -/
def twoNodeStore : NodeStore where
  nodes := [vmessNode "vmess-1", vmessNode "vmess-2"]
  activeNodeTag := ofString "vmess-1"
  config := .json twoNodeConfig

/-- A library without which no link can be read. -/
def noLibrary : LinkLibrary where
  decodeBlock _ := none
  parse _ := .error []

theorem routingRules_twoNodeConfig : routingRules twoNodeConfig = [vmessRule] := by
  simp [routingRules, twoNodeConfig, Json.arrayItems]

theorem outbounds_twoNodeConfig : twoNodeConfig.member? (ofString "outbounds")
    = some (.array (buildOutbounds [vmessNode "vmess-1", vmessNode "vmess-2"])) := by
  simp [twoNodeConfig]

theorem targets_vmessRule_iff {tag : ByteString} :
    Targets vmessRule tag ↔ tag = ofString "vmess-1" := by
  simp [Targets, vmessRule, eq_comm]

theorem loadFromConfig_twoNodeConfig :
    loadFromConfig { config := .json twoNodeConfig } .null = .ok twoNodeStore := by
  have hactive : activeTagOf (routingRules twoNodeConfig) = .ok (some (ofString "vmess-1")) := by
    rw [routingRules_twoNodeConfig]
    rfl
  have hnodes : ([vmessNode "vmess-1", vmessNode "vmess-2"].filter (·.tag ≠ [])).map reread
      = [vmessNode "vmess-1", vmessNode "vmess-2"] := by decide +kernel
  simp only [loadFromConfig, readConfig, hactive, outbounds_twoNodeConfig, Option.elim_some,
    Json.arrayItems, parseOutbounds_build, hnodes, Json.ok_bind]
  rfl

theorem validate_twoNodeStore : ∀ n ∈ twoNodeStore.nodes, validate n true = [] := by
  change ∀ n ∈ [vmessNode "vmess-1", vmessNode "vmess-2"], _
  rw [List.forall_mem_cons, List.forall_mem_singleton]
  exact ⟨validate_vmessNode (by decide +kernel), validate_vmessNode (by decide +kernel)⟩

theorem pointing_twoNodeStore : Pointing twoNodeStore := by
  refine ⟨⟨_, List.mem_cons_self, rfl⟩, ?_⟩
  intro r hr tag htag
  change r ∈ routingRules twoNodeConfig at hr
  change ∃ o ∈ (twoNodeConfig.member? (ofString "outbounds")).elim [] Json.arrayItems, _
  rw [routingRules_twoNodeConfig, List.mem_singleton] at hr
  obtain rfl := hr
  rw [outbounds_twoNodeConfig, targets_vmessRule_iff.mp htag]
  exact ⟨_, List.mem_cons_self, by simp [buildVmessOutbound, vmessNode]⟩

/-- The node that is not active can be removed. -/
theorem removing_the_other_node :
    Throughout (step noLibrary) Pointing twoNodeStore [(.removeNode (ofString "vmess-2"), {})] := by
  have hnone : ∀ tag, ¬StaysWith twoNodeStore tag := by
    rintro tag ⟨r, hr, hno, -⟩
    change r ∈ routingRules twoNodeConfig at hr
    rw [routingRules_twoNodeConfig, List.mem_singleton] at hr
    exact hno (hr ▸ ⟨_, targets_vmessRule_iff.mpr rfl, by decide⟩)
  refine pointing_throughout noLibrary loadFromConfig_twoNodeConfig pointing_twoNodeStore
    ⟨⟨fun h ↦ absurd h.1 (by decide), fun tag h ↦ absurd h (hnone tag), nofun, ?_⟩,
      fun _ _ ↦ trivial⟩
  exact fun _ tag h ↦ absurd h (hnone tag)

/-- Removing the active node leaves the active tag without a node. -/
theorem removing_the_active_node :
    loadFromConfig { config := .json twoNodeConfig } .null = .ok twoNodeStore ∧
      Pointing twoNodeStore ∧
      ∃ t, run (step noLibrary) twoNodeStore [(.removeNode (ofString "vmess-1"), {})] = .ok t ∧
        ¬Pointing t := by
  refine ⟨loadFromConfig_twoNodeConfig, pointing_twoNodeStore, _, rfl, fun h ↦ ?_⟩
  have hno : (twoNodeStore.removeNode {} (ofString "vmess-1")).2.nodes.all (·.tag ≠
      (twoNodeStore.removeNode {} (ofString "vmess-1")).2.activeNodeTag) := by decide +kernel
  obtain ⟨n, hn, ht⟩ := h.active
  have hne := List.all_eq_true.mp hno n hn
  rw [decide_eq_true_iff] at hne
  exact hne ht

end NodeStore

end LanProxyGateway
