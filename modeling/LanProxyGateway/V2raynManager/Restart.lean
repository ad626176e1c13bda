import LanProxyGateway.V2raynManager.NodeEdits
import LanProxyGateway.V2raynManager.Switching

/-!
# Does the node store survive a restart?

A save spreads the store over two files, and a load puts it together again: the nodes from the
outbounds, their remarks from the file of the remarks, and the active tag from the routing rules.
The nodes come back as they were, in their order, but for settings that they do not use.

The active tag comes back only if it can be found. A load takes the first outbound tag with the
prefix `vmess-` among the rules; where there is none it takes the first node. So a tag without the
prefix is lost unless it is that of the first node. And a configuration in which the builder found
no rule of its own has its default rule in front, which is no object, so that the load throws.
-/

open Foundation ByteString

namespace LanProxyGateway

namespace NodeStore

open VmConfigBuilder VmNodeValidator VmLinkCodec

/-! ## The remarks -/

/-- A node as it comes back: with its remark, and with the settings that it uses. -/
def restored (node : VmNode) : VmNode := { selected node with remark := node.remark }

/-- The remark of a node is in the file under its tag, unless it is empty. -/
theorem remark_remarksJson {nodes : List VmNode} (hdistinct : (nodes.map (·.tag)).Nodup)
    {node : VmNode} (hnode : node ∈ nodes) :
    ((remarksJson nodes).member? (ofString "remarks")).bind (Json.member? node.tag) =
      if node.remark = [] then none else some (.string node.remark) := by
  rw [remarksJson]
  simp only [Json.member?_ofFields_cons, String.reduceEq, if_false, if_true, Option.bind_some,
    Json.member?_object]
  by_cases hremark : node.remark = []
  · rw [if_pos hremark, OrderedMap.get?_foldl_set_of_ne]
    · rfl
    · intro n hn htag
      obtain ⟨hmem, hne⟩ := List.mem_filter.mp hn
      obtain rfl := List.inj_on_of_nodup_map hdistinct hmem hnode htag
      exact absurd hremark (by simpa using hne)
  · rw [if_neg hremark]
    have hfiltered : ((nodes.filter fun n ↦ n.remark ≠ []).map (·.tag)).Nodup :=
      hdistinct.sublist (List.filter_sublist.map _)
    exact OrderedMap.get?_foldl_set_of_mem (f := fun n : VmNode ↦ n.tag)
      (g := fun n ↦ Json.string n.remark) hfiltered
      (List.mem_filter.mpr ⟨hnode, by simpa using hremark⟩)

/-- The remarks that were written are put to their nodes. -/
theorem mapM_withRemark {nodes : List VmNode} (hdistinct : (nodes.map (·.tag)).Nodup) :
    (nodes.map selected).mapM (withRemark (remarksJson nodes)) = .ok (nodes.map restored) := by
  have key : ∀ l : List VmNode, (∀ n ∈ l, n ∈ nodes) →
      (l.map selected).mapM (withRemark (remarksJson nodes)) = .ok (l.map restored) := by
    intro l
    induction l with
    | nil => exact fun _ ↦ rfl
    | cons node l ih =>
      intro hl
      rw [List.forall_mem_cons] at hl
      have hnode : withRemark (remarksJson nodes) (selected node) = .ok (restored node) := by
        have hremark := remark_remarksJson hdistinct hl.1
        rw [withRemark]
        by_cases hnil : node.remark = []
        · rw [if_pos hnil] at hremark
          simp only [selected, hremark, restored, hnil]
        · rw [if_neg hnil] at hremark
          simp only [selected, hremark, restored, Json.getString_string, Json.orThrow_some,
            Json.map_ok]
      rw [List.map_cons, List.mapM_cons, hnode, ih hl.2]
      rfl
  exact key nodes fun _ hn ↦ hn

/-! ## The active tag -/

/-- The tag of a rule of its own that the builder sent elsewhere. -/
theorem ruleTag_retarget {activeTag : ByteString} {rule : Json} (howned : Owned rule) :
    ruleTag (retarget activeTag rule) = .ok activeTag := by
  rw [retarget, if_pos howned]
  exact ruleTag_of_targets (targets_setTag activeTag rule)

/-- A rule that is not the builder's own has no tag with the prefix. -/
theorem activeTagOf_cons_of_not_owned {rule : Json} {rules : List Json} (hread : Readable rule)
    (howned : ¬Owned rule) : activeTagOf (rule :: rules) = activeTagOf rules := by
  obtain ⟨tag, htag⟩ := hread
  have hno : ¬isVmessTag tag := fun hv ↦ howned ((owned_iff_of_ruleTag htag).mpr hv)
  rw [activeTagOf, htag, Json.ok_bind, if_neg hno]

theorem activeTagOf_of_not_owned {rules : List Json} (hread : ∀ r ∈ rules, Readable r)
    (hno : ∀ r ∈ rules, ¬Owned r) : activeTagOf rules = .ok none := by
  induction rules with
  | nil => rfl
  | cons rule rules ih =>
    rw [List.forall_mem_cons] at hread hno
    rw [activeTagOf_cons_of_not_owned hread.1 hno.1, ih hread.2 hno.2]

/-- A tag that the builder sent its rules to is found again when it has the prefix. -/
theorem activeTagOf_retarget {activeTag : ByteString} {rules : List Json}
    (hread : ∀ r ∈ rules, Readable r) (howned : ∃ r ∈ rules, Owned r) :
    activeTagOf (rules.map (retarget activeTag)) =
      .ok (if isVmessTag activeTag then some activeTag else none) := by
  by_cases hv : isVmessTag activeTag
  · rw [if_pos hv]
    induction rules with
    | nil =>
      obtain ⟨r, hr, -⟩ := howned
      exact absurd hr List.not_mem_nil
    | cons rule rules ih =>
      rw [List.forall_mem_cons] at hread
      rw [List.map_cons]
      by_cases ho : Owned rule
      · rw [activeTagOf, ruleTag_retarget ho, Json.ok_bind, if_pos hv]
      · rw [List.exists_mem_cons_iff, or_iff_right ho] at howned
        have hsame : retarget activeTag rule = rule := if_neg ho
        rw [hsame, activeTagOf_cons_of_not_owned hread.1 ho, ih hread.2 howned]
  · rw [if_neg hv]
    apply activeTagOf_of_not_owned
    · rw [List.forall_mem_map]
      exact fun r hr ↦ readable_retarget activeTag (hread r hr)
    · rw [List.forall_mem_map]
      exact fun r _ ↦ not_owned_retarget hv r

/-! ## Save and load -/

variable {s t : NodeStore} {disk : DiskAnswer}

/-- The files after a save that succeeds and writes both. -/
theorem files_of_save (hopens : disk.opensRemarks = true)
    (h : saveToConfig disk s = (.done (), t)) : ∃ config,
      buildFullConfig s.nodes (readConfig s.config) s.activeNodeTag = .ok config ∧
        t.config = .json config ∧ t.remarks = .json (remarksJson s.nodes) := by
  rw [saveToConfig] at h
  split at h
  · cases h
  · rename_i config hconfig
    simp only [hopens, Bool.not_true, Bool.false_eq_true, if_false] at h
    split_ifs at h
    · cases h
    · cases h
    · cases h
    · cases h
    · cases h
    · refine ⟨config, hconfig, ?_⟩
      rw [← (Prod.mk.inj h).2]
      exact ⟨rfl, rfl⟩

/-- The outbounds of valid nodes are read back. -/
theorem reread_of_validate {nodes : List VmNode} {isV5Core : Bool}
    (hvalid : ∀ n ∈ nodes, validate n isV5Core = []) :
    (nodes.filter (·.tag ≠ [])).map reread = nodes.map selected := by
  have htags : ∀ n ∈ nodes, n.tag ≠ [] := fun n hn ↦
    (validate_eq_nil_iff.mp (hvalid n hn)).tag_ne_nil
  rw [List.filter_eq_self.mpr fun n hn ↦ by simpa using htags n hn]
  exact List.map_congr_left fun n hn ↦ reread_of_valid (validate_eq_nil_iff.mp (hvalid n hn))

/-- The active tag that a fresh process finds. -/
def foundTag (s : NodeStore) : ByteString :=
  if isVmessTag s.activeNodeTag then s.activeNodeTag else s.nodes.head?.elim [] VmNode.tag

/-- Where the builder found a rule of its own, the nodes come back. -/
theorem loadFromConfig_of_owned (hvalid : ∀ n ∈ s.nodes, validate n s.isV5Core = [])
    (hdistinct : (s.nodes.map (·.tag)).Nodup) (hactive : s.activeNodeTag ≠ [])
    (howned : ∃ r ∈ routingRules (readConfig s.config), Owned r) {config : Json}
    (h : buildFullConfig s.nodes (readConfig s.config) s.activeNodeTag = .ok config) :
    ∃ u, loadFromConfig { config := .json config } (remarksJson s.nodes) = .ok u ∧
      u.nodes = s.nodes.map restored ∧ u.activeNodeTag = foundTag s := by
  have hbuilt := built_of_ok h
  have hread := hbuilt.readable (effectiveTag_ne_nil s.nodes hactive)
  have hrules : activeTagOf (routingRules config) =
      .ok (if isVmessTag s.activeNodeTag then some s.activeNodeTag else none) := by
    rw [hbuilt.rules, if_neg (effectiveTag_ne_nil s.nodes hactive),
      effectiveTag_of_ne_nil s.nodes hactive, newRules_of_owned howned]
    exact activeTagOf_retarget hread howned
  have hload : loadFromConfig { config := .json config } (remarksJson s.nodes) =
      .ok { nodes := s.nodes.map restored
            activeNodeTag := effectiveTag (s.nodes.map restored)
              ((if isVmessTag s.activeNodeTag then some s.activeNodeTag else none).getD [])
            config := .json config } := by
    simp only [loadFromConfig, readConfig, hbuilt.isObject, hbuilt.outbounds, Bool.not_true,
      Bool.false_eq_true, if_false, Option.elim_some, Json.arrayItems, parseOutbounds_build,
      reread_of_validate hvalid, mapM_withRemark hdistinct, hrules, Json.ok_bind]
  refine ⟨_, hload, rfl, ?_⟩
  rw [foundTag]
  by_cases hv : isVmessTag s.activeNodeTag
  · rw [if_pos hv, if_pos hv, Option.getD_some, effectiveTag_of_ne_nil _ hactive]
  · rw [if_neg hv, if_neg hv, Option.getD_none, effectiveTag, if_pos rfl, List.head?_map]
    rcases s.nodes.head? with _ | n <;> rfl

/-- Where it found none, the load meets the default rule and throws. -/
theorem loadFromConfig_of_not_owned (hvalid : ∀ n ∈ s.nodes, validate n s.isV5Core = [])
    (hdistinct : (s.nodes.map (·.tag)).Nodup) (hactive : s.activeNodeTag ≠ [])
    (howned : ¬∃ r ∈ routingRules (readConfig s.config), Owned r) {config : Json}
    (h : buildFullConfig s.nodes (readConfig s.config) s.activeNodeTag = .ok config) :
    loadFromConfig { config := .json config } (remarksJson s.nodes) = .error .typeError := by
  have hbuilt := built_of_ok h
  have hrules : activeTagOf (routingRules config) = .error .typeError := by
    rw [hbuilt.rules, if_neg (effectiveTag_ne_nil s.nodes hactive), newRules, if_neg howned]
    rfl
  simp only [loadFromConfig, readConfig, hbuilt.isObject, hbuilt.outbounds, Bool.not_true,
    Bool.false_eq_true, if_false, Option.elim_some, Json.arrayItems, parseOutbounds_build,
    reread_of_validate hvalid, mapM_withRemark hdistinct, hrules, Json.ok_bind]
  rfl

/-! ## The exact condition -/

/-- A fresh process that finds the files of `t` has the nodes and the active tag of `s`. -/
def SurvivesRestart (s t : NodeStore) : Prop :=
  ∃ u, loadFromConfig { config := t.config } (readConfig t.remarks) = .ok u ∧
    u.nodes = s.nodes.map restored ∧ u.activeNodeTag = s.activeNodeTag

/-- A saved store survives a restart exactly when the file had a rule for a `vmess-` outbound, and
the active tag has that prefix itself or is the tag of the first node. -/
theorem survivesRestart_iff (hvalid : ∀ n ∈ s.nodes, validate n s.isV5Core = [])
    (hdistinct : (s.nodes.map (·.tag)).Nodup) (hactive : HasTag s.nodes s.activeNodeTag)
    (hopens : disk.opensRemarks = true) (hsave : saveToConfig disk s = (.done (), t)) :
    SurvivesRestart s t ↔ (∃ r ∈ routingRules (readConfig s.config), Owned r) ∧
      (isVmessTag s.activeNodeTag ∨ s.nodes.head?.map VmNode.tag = some s.activeNodeTag) := by
  obtain ⟨config, hbuild, hconfig, hremarks⟩ := files_of_save hopens hsave
  have hne : s.activeNodeTag ≠ [] := by
    obtain ⟨n, hn, htag⟩ := hactive
    rw [← htag]
    exact (validate_eq_nil_iff.mp (hvalid n hn)).tag_ne_nil
  have hfound : foundTag s = s.activeNodeTag ↔
      isVmessTag s.activeNodeTag ∨ s.nodes.head?.map VmNode.tag = some s.activeNodeTag := by
    rw [foundTag]
    by_cases hv : isVmessTag s.activeNodeTag
    · rw [if_pos hv]
      exact iff_of_true rfl (.inl hv)
    · rw [if_neg hv, or_iff_right hv]
      rcases s.nodes.head? with _ | n
      · exact iff_of_false (Ne.symm hne) nofun
      · exact Option.some_inj.symm
  rw [SurvivesRestart, hconfig, hremarks, readConfig, ← hfound]
  by_cases howned : ∃ r ∈ routingRules (readConfig s.config), Owned r
  · obtain ⟨u, hload, hnodes, htag⟩ := loadFromConfig_of_owned hvalid hdistinct hne howned hbuild
    rw [hload]
    constructor
    · rintro ⟨u', hu', -, htag'⟩
      obtain rfl := Except.ok.inj hu'
      exact ⟨howned, htag.symm.trans htag'⟩
    · rintro ⟨-, hsame⟩
      exact ⟨u, rfl, hnodes, htag.trans hsame⟩
  · rw [loadFromConfig_of_not_owned hvalid hdistinct hne howned hbuild]
    refine iff_of_false ?_ fun h ↦ howned h.1
    rintro ⟨u, hu, -⟩
    cases hu

theorem twoNodeStore_survives :
    SurvivesRestart twoNodeStore (saveToConfig {} twoNodeStore).2 := by
  have hsave : (saveToConfig {} twoNodeStore).1 = .done () := rfl
  refine (survivesRestart_iff validate_twoNodeStore (by decide +kernel)
    pointing_twoNodeStore.active rfl (Prod.ext hsave rfl)).mpr ⟨?_, .inl (by decide)⟩
  change ∃ r ∈ routingRules twoNodeConfig, Owned r
  rw [routingRules_twoNodeConfig]
  exact ⟨vmessRule, List.mem_cons_self, _, targets_vmessRule_iff.mpr rfl, by decide⟩

/-- The second node is active, and its tag does not have the prefix. -/
def hkStore : NodeStore where
  nodes := [vmessNode "vmess-1", hkNode]
  activeNodeTag := ofString "hk"
  config := .json twoNodeConfig

/-- After the restart the first node is active. -/
theorem hkStore_does_not_survive :
    (∀ n ∈ hkStore.nodes, validate n true = []) ∧ (hkStore.nodes.map (·.tag)).Nodup ∧
      HasTag hkStore.nodes hkStore.activeNodeTag ∧
      (readConfig hkStore.config).isObject ∧
      (∀ r ∈ routingRules (readConfig hkStore.config), r.isObject) ∧
      (saveToConfig {} hkStore).1 = .done () ∧
      ¬SurvivesRestart hkStore (saveToConfig {} hkStore).2 := by
  have hvalid : ∀ n ∈ hkStore.nodes, validate n true = [] := by
    change ∀ n ∈ [vmessNode "vmess-1", vmessNode "hk"], _
    rw [List.forall_mem_cons, List.forall_mem_singleton]
    exact ⟨validate_vmessNode (by decide +kernel), validate_vmessNode (by decide +kernel)⟩
  have hdistinct : (hkStore.nodes.map (·.tag)).Nodup := by decide +kernel
  have hactive : HasTag hkStore.nodes hkStore.activeNodeTag :=
    ⟨hkNode, List.mem_cons_of_mem _ List.mem_cons_self, rfl⟩
  have hrules : routingRules (readConfig hkStore.config) = [vmessRule] := routingRules_twoNodeConfig
  have hsave : (saveToConfig {} hkStore).1 = .done () := rfl
  refine ⟨hvalid, hdistinct, hactive, rfl, ?_, hsave, ?_⟩
  · rw [hrules, List.forall_mem_singleton]
    rfl
  · have howned : ∃ r ∈ routingRules (readConfig hkStore.config), Owned r := by
      rw [hrules]
      exact ⟨vmessRule, List.mem_cons_self, _, targets_vmessRule_iff.mpr rfl, by decide⟩
    have hpair : saveToConfig {} hkStore = (.done (), (saveToConfig {} hkStore).2) :=
      Prod.ext hsave rfl
    obtain ⟨config, hbuild, hconfig, hremarks⟩ := files_of_save rfl hpair
    obtain ⟨u, hload, -, htag⟩ :=
      loadFromConfig_of_owned hvalid hdistinct (by decide) howned hbuild
    rintro ⟨u', hload', -, htag'⟩
    rw [hconfig, hremarks] at hload'
    obtain rfl := Except.ok.inj (hload.symm.trans hload')
    exact absurd (htag.symm.trans htag') (by decide)

end NodeStore

end LanProxyGateway
