import LanProxyGateway.V2raynManager.OutboundCodec
import LanProxyGateway.V2raynManager.Switching

/-!
# Is the generated configuration well formed?

The rules of a configuration that the builder returns should be objects, one of them a rule of type
`field` for the active tag, the rules that were not the builder's own should still be there, and the
next load and the next build should accept the result. `WellFormed` says so.

The default rule does not survive being written as a braced list, so a configuration without a rule
for a `vmess-` outbound comes out with three arrays in front of its rules; a rule for a `vmess-`
outbound of another type than `field` is sent to the active tag but stays of that type. That is all
that can go wrong (`wellFormed_iff`).
-/

open Foundation ByteString

namespace LanProxyGateway

namespace NodeStore

open VmConfigBuilder VmNodeValidator VmLinkCodec

/-- A rule of the only type that v2ray knows. -/
def IsField (rule : Json) : Prop := rule.member? (ofString "type") =
    some (.string (ofString "field"))

/-- All remarks in the file are strings, as `save_to_config` writes them. -/
def RemarksAreStrings (remarks : Json) : Prop :=
  ∀ tag v, (remarks.member? (ofString "remarks")).bind (Json.member? tag) = some v →
    ∃ remark, v = .string remark

/-- The configuration is what v2ray and the next load and build can use. -/
structure WellFormed (existing : Json) (tag : ByteString) (config : Json) : Prop where
  isArray : ∃ rules,
    (config.member? (ofString "routing")).bind (Json.member? (ofString "rules")) =
      some (.array rules)
  areObjects : ∀ r ∈ routingRules config, r.isObject
  forActiveTag : ∃ r ∈ routingRules config, IsField r ∧ Targets r tag
  /-- The rules that were not the builder's own, in their order. -/
  kept : ((routingRules existing).filter fun r ↦ ¬Owned r).Sublist (routingRules config)
  loads : ∀ (s : NodeStore) remarks, RemarksAreStrings remarks →
    ∃ t, loadFromConfig { s with config := .json config } remarks = .ok t
  builds : ∀ nodes tag', ∃ config', buildFullConfig nodes config tag' = .ok config'

/-! ## Rules -/

/-- A tag can be read from an object whose `outboundTag`, if it has one, is a string. -/
theorem readable_iff_isObject {rule : Json} : Readable rule ↔
    rule.isObject ∧ ∀ v, rule.member? (ofString "outboundTag") = some v → ∃ tag,
      v = .string tag := by
  by_cases hobj : rule.isObject
  · rw [readable_iff, Json.value_of_isObject _ _ _ hobj]
    rcases rule.member? (ofString "outboundTag") with _ | v
    · simp [hobj]
    · cases v <;> simp [hobj, Json.getString]
  · refine iff_of_false (fun h ↦ ?_) fun h ↦ hobj h.1
    rw [readable_iff] at h
    cases rule with
    | object ms => exact hobj rfl
    | _ => cases h

/-- Sending a rule somewhere else does not change its type. -/
theorem isField_retarget_iff (tag : ByteString) (rule : Json) :
    IsField (retarget tag rule) ↔ IsField rule := by
  have hkeys : ofString "outboundTag" ≠ ofString "type" := by decide
  rw [retarget]
  split
  · rw [IsField, setTag, Json.member?_object, OrderedMap.get?_set_of_ne hkeys,
      ← Json.member?_eq_get?_members]
    rfl
  · exact Iff.rfl

theorem targets_retarget_iff (tag : ByteString) (rule : Json) :
    Targets (retarget tag rule) tag ↔ Targets rule tag ∨ Owned rule := by
  rw [retarget]
  split
  · rename_i h
    exact ⟨fun _ ↦ .inr h, fun _ ↦ targets_setTag tag rule⟩
  · rename_i h
    exact (or_iff_left h).symm

/-- The rules that are not the builder's own stay where they are. -/
theorem filter_sublist_map_retarget (tag : ByteString) (rules : List Json) :
    (rules.filter fun r ↦ ¬Owned r).Sublist (rules.map (retarget tag)) := by
  induction rules with
  | nil => exact List.Sublist.refl []
  | cons rule rules ih =>
    rw [List.map_cons]
    by_cases h : Owned rule
    · rw [List.filter_cons_of_neg (by simpa using h)]
      exact ih.cons _
    · rw [List.filter_cons_of_pos (by simpa using h), retarget, if_neg h]
      exact ih.cons_cons rule

/-! ## The next load and the next build -/

theorem exists_activeTagOf {rules : List Json} (h : ∀ r ∈ rules, Readable r) :
    ∃ found, activeTagOf rules = .ok found := by
  induction rules with
  | nil => exact ⟨none, rfl⟩
  | cons rule rules ih =>
    rw [List.forall_mem_cons] at h
    obtain ⟨⟨tag, htag⟩, hrest⟩ := h
    rw [activeTagOf, htag, Json.ok_bind]
    split
    · exact ⟨some tag, rfl⟩
    · exact ih hrest

theorem exists_mapM_withRemark {remarks : Json} (h : RemarksAreStrings remarks)
    (nodes : List VmNode) : ∃ nodes', nodes.mapM (withRemark remarks) = .ok nodes' := by
  induction nodes with
  | nil => exact ⟨[], rfl⟩
  | cons node nodes ih =>
    obtain ⟨nodes', hnodes'⟩ := ih
    have hnode : ∃ node', withRemark remarks node = .ok node' := by
      rw [withRemark]
      rcases hv : (remarks.member? (ofString "remarks")).bind (Json.member? node.tag) with _ | v
      · exact ⟨node, rfl⟩
      · obtain ⟨remark, rfl⟩ := h node.tag v hv
        exact ⟨_, rfl⟩
    obtain ⟨node', hnode'⟩ := hnode
    rw [List.mapM_cons, hnode', hnodes']
    exact ⟨_, rfl⟩

/-- A configuration that the builder returned is loaded if the tags of its rules can be read. -/
theorem exists_loadFromConfig {nodes : List VmNode} {existing : Json} {tag : ByteString}
    {config : Json} (hconfig : Built nodes existing tag config)
    (hread : ∀ r ∈ routingRules config, Readable r) (s : NodeStore) {remarks : Json}
    (hremarks : RemarksAreStrings remarks) :
    ∃ t, loadFromConfig { s with config := .json config } remarks = .ok t := by
  obtain ⟨nodes', hnodes'⟩ :=
    exists_mapM_withRemark hremarks ((nodes.filter (·.tag ≠ [])).map reread)
  obtain ⟨found, hfound⟩ := exists_activeTagOf hread
  simp only [loadFromConfig, readConfig, hconfig.isObject, hconfig.outbounds, Bool.not_true,
    Bool.false_eq_true, if_false, Option.elim_some, Json.arrayItems, parseOutbounds_build,
    Json.ok_bind, hnodes', hfound]
  exact ⟨_, rfl⟩

theorem exists_buildFullConfig {config : Json} (hread : ∀ r ∈ routingRules config, Readable r)
    (nodes : List VmNode) (tag : ByteString) :
    ∃ config', buildFullConfig nodes config tag = .ok config' := by
  by_cases htag : effectiveTag nodes tag = []
  · exact ⟨_, buildFullConfig_of_no_tag htag⟩
  · exact ⟨_, buildFullConfig_of_readable htag hread⟩

/-! ## The exact condition -/

/-- Where the rules are rewritten at all, one of them is the builder's own, and one of type `field`
is for the active tag or becomes so. -/
def Accommodates (rules : List Json) (tag : ByteString) : Prop :=
  (tag = [] ∨ ∃ r ∈ rules, Owned r) ∧
    ∃ r ∈ rules, IsField r ∧ (Targets r tag ∨ tag ≠ [] ∧ Owned r)

variable {nodes : List VmNode} {existing : Json} {tag : ByteString}

/-- Without an active tag the rules stay as they are. -/
theorem wellFormed_iff_of_no_tag (hread : ∀ r ∈ routingRules existing, Readable r)
    (htag : effectiveTag nodes tag = []) {config : Json}
      (hconfig : Built nodes existing tag config) :
    WellFormed existing [] config ↔ ∃ r ∈ routingRules existing, IsField r ∧ Targets r [] := by
  have hrules : routingRules config = routingRules existing := by rw [hconfig.rules, if_pos htag]
  have hread' : ∀ r ∈ routingRules config, Readable r := hrules ▸ hread
  constructor
  · intro h
    rw [← hrules]
    exact h.forActiveTag
  · rintro ⟨r, hr, hfield, htarget⟩
    exact {
      isArray := isArray_of_mem_routingRules (hrules.symm ▸ hr)
      areObjects := fun r hr ↦ (readable_iff_isObject.mp (hread' r hr)).1
      forActiveTag := ⟨r, hrules.symm ▸ hr, hfield, htarget⟩
      kept := hrules.symm ▸ List.filter_sublist
      loads := fun s remarks hremarks ↦ exists_loadFromConfig hconfig hread' s hremarks
      builds := exists_buildFullConfig hread' }

/-- With an active tag and a rule of its own, the builder sends that rule to the active tag. -/
theorem wellFormed_iff_of_owned (hread : ∀ r ∈ routingRules existing, Readable r)
    (htag : effectiveTag nodes tag ≠ []) (howned : ∃ r ∈ routingRules existing, Owned r)
    {config : Json} (hconfig : Built nodes existing tag config) :
    WellFormed existing (effectiveTag nodes tag) config ↔ ∃ r ∈ routingRules existing,
      IsField r ∧ (Targets r (effectiveTag nodes tag) ∨ Owned r) := by
  have hrules : routingRules config =
      (routingRules existing).map (retarget (effectiveTag nodes tag)) := by
    rw [hconfig.rules, if_neg htag, newRules_of_owned howned]
  have hread' : ∀ r ∈ routingRules config, Readable r := by
    rw [hrules, List.forall_mem_map]
    exact fun r hr ↦ readable_retarget _ (hread r hr)
  constructor
  · intro h
    obtain ⟨r', hr', hfield, htarget⟩ := h.forActiveTag
    rw [hrules] at hr'
    obtain ⟨r, hr, rfl⟩ := List.mem_map.mp hr'
    exact ⟨r, hr, (isField_retarget_iff _ r).mp hfield, (targets_retarget_iff _ r).mp htarget⟩
  · rintro ⟨r, hr, hfield, htarget⟩
    have hmem : retarget (effectiveTag nodes tag) r ∈ routingRules config :=
      hrules.symm ▸ List.mem_map_of_mem hr
    exact {
      isArray := isArray_of_mem_routingRules hmem
      areObjects := fun r hr ↦ (readable_iff_isObject.mp (hread' r hr)).1
      forActiveTag := ⟨_, hmem, (isField_retarget_iff _ r).mpr hfield,
        (targets_retarget_iff _ r).mpr htarget⟩
      kept := hrules.symm ▸ filter_sublist_map_retarget _ _
      loads := fun s remarks hremarks ↦ exists_loadFromConfig hconfig hread' s hremarks
      builds := exists_buildFullConfig hread' }

/-- With an active tag and no rule of its own, the builder inserts arrays. -/
theorem not_wellFormed_of_not_owned (htag : effectiveTag nodes tag ≠ [])
    (howned : ¬∃ r ∈ routingRules existing, Owned r) {config : Json}
    (hconfig : Built nodes existing tag config) :
    ¬WellFormed existing (effectiveTag nodes tag) config := by
  intro h
  have hmem : .array [.string (ofString "type"), .string (ofString "field")] ∈
      routingRules config := by
    rw [hconfig.rules, if_neg htag, newRules, if_neg howned]
    exact List.mem_append_left _ List.mem_cons_self
  have hobject := h.areObjects _ hmem
  cases hobject

/-- The builder returns a well-formed configuration exactly when the rules it finds accommodate the
active tag. -/
theorem wellFormed_iff (hread : ∀ r ∈ routingRules existing, Readable r) :
    (∃ config, buildFullConfig nodes existing tag = .ok config ∧
      WellFormed existing (effectiveTag nodes tag) config) ↔
      Accommodates (routingRules existing) (effectiveTag nodes tag) := by
  obtain ⟨config, hconfig⟩ := exists_buildFullConfig hread nodes tag
  have hbuilt := built_of_ok hconfig
  have hunique : (∃ config, buildFullConfig nodes existing tag = .ok config ∧
      WellFormed existing (effectiveTag nodes tag) config) ↔
      WellFormed existing (effectiveTag nodes tag) config := by
    constructor
    · rintro ⟨config', hconfig', h⟩
      obtain rfl := Except.ok.inj (hconfig.symm.trans hconfig')
      exact h
    · exact fun h ↦ ⟨config, hconfig, h⟩
  rw [hunique, Accommodates]
  by_cases htag : effectiveTag nodes tag = []
  · rw [htag, wellFormed_iff_of_no_tag hread htag hbuilt]
    simp
  · by_cases howned : ∃ r ∈ routingRules existing, Owned r
    · rw [wellFormed_iff_of_owned hread htag howned hbuilt]
      simp only [howned, or_true, ne_eq, htag, not_false_eq_true, true_and]
    · refine iff_of_false (not_wellFormed_of_not_owned htag howned hbuilt) ?_
      rintro ⟨htag' | howned', -⟩
      · exact htag htag'
      · exact howned howned'

/-- A configuration with one rule for `vmess-1` comes out well formed. -/
theorem wellFormed_vmessRuleConfig :
    ∃ config, buildFullConfig [hkNode] vmessRuleConfig [] = .ok config ∧
      WellFormed vmessRuleConfig (effectiveTag [hkNode] []) config := by
  refine (wellFormed_iff (by decide +kernel)).mpr ⟨.inr (by decide +kernel), ?_⟩
  exact ⟨_, List.mem_cons_self, rfl, .inr ⟨by decide, ofString "vmess-1", rfl, by decide⟩⟩

/-- On a fresh install there is no configuration, and the one that is generated is not well
formed. -/
theorem fresh_install_not_wellFormed :
    ¬∃ config, buildFullConfig [hkNode] .null [] = .ok config ∧
      WellFormed .null (effectiveTag [hkNode] []) config := by
  rintro ⟨config, hconfig, h⟩
  exact not_wellFormed_of_not_owned (by decide) (by decide) (built_of_ok hconfig) h

/-- The second save of a fresh install throws. -/
example : (run (buildFullConfig [hkNode]) .null [[], []]).toOption.isNone := by decide +kernel

end NodeStore

end LanProxyGateway
