import LanProxyGateway.Foundation.Run
import LanProxyGateway.V2raynManager.ConfigBuilder

/-!
# Does a switch of the active node forget the one before it?

Saving the configuration for one node after another should leave the file that saving it for the
last one alone would have left; saving it twice for the same node is the special case that the file
does not change. A chain of switches is a run of `buildFullConfig nodes`, whose states are the
configurations and whose events are the tags.

The builder finds its own rules by the prefix `vmess-` of their outbound, which a tag need not have.
After a switch to a tag with the prefix the rules are found again and the next switch forgets this
one (`forgets_of_isVmessTag`). After a switch to any other tag there are no rules to be found: the
next one puts a default rule in front (`rules_after_lost`), and since that rule arrives as three
arrays the one after it throws. So the chain forgets exactly when all tags but the last have the
prefix (`switches_forget_iff`).
-/

open Foundation ByteString

namespace LanProxyGateway

namespace VmConfigBuilder

/-! ## One rule, retargeted twice -/

theorem setTag_setTag (a b : ByteString) (rule : Json) :
    setTag b (setTag a rule) = setTag b rule := by
  rw [setTag, setTag, setTag, Json.members, OrderedMap.set_set]

/-- A rule sent to a tag with the prefix is found again. -/
theorem owned_retarget_iff {a : ByteString} (ha : isVmessTag a) {rule : Json} :
    Owned (retarget a rule) ↔ Owned rule := by
  rw [retarget]
  by_cases h : Owned rule
  · rw [if_pos h]
    exact ⟨fun _ ↦ h, fun _ ↦ ⟨a, targets_setTag a rule, ha⟩⟩
  · rw [if_neg h]

/-- A rule sent to any other tag is lost. -/
theorem not_owned_retarget {a : ByteString} (ha : ¬isVmessTag a) (rule : Json) :
    ¬Owned (retarget a rule) := by
  rw [retarget]
  by_cases h : Owned rule
  · rw [if_pos h]
    rintro ⟨t, ht, hv⟩
    exact ha ((targets_setTag a rule).unique ht ▸ hv)
  · rw [if_neg h]
    exact h

theorem retarget_retarget {a : ByteString} (ha : isVmessTag a) (b : ByteString) (rule : Json) :
    retarget b (retarget a rule) = retarget b rule := by
  by_cases h : Owned rule
  · rw [retarget, if_pos ((owned_retarget_iff ha).mpr h), retarget, if_pos h, retarget, if_pos h,
      setTag_setTag]
  · rw [retarget, if_neg fun h' ↦ h ((owned_retarget_iff ha).mp h'), retarget, if_neg h, retarget,
      if_neg h]

/-- No tag can be read from the default rule. -/
theorem not_readable_of_mem_defaultRule {a : ByteString} {rule : Json}
    (h : rule ∈ defaultRule a) : ¬Readable rule := by
  rw [defaultRule, List.mem_cons, List.mem_cons, List.mem_singleton] at h
  rintro ⟨t, ht⟩
  rcases h with rfl | rfl | rfl <;> cases ht

/-! ## One switch -/

/-- All tags can be read, and some rule is the builder's own. -/
structure Ready (config : Json) : Prop where
  readable : ∀ r ∈ routingRules config, Readable r
  owned : ∃ r ∈ routingRules config, Owned r

/-- The tags can be read, but no rule is the builder's own. -/
structure Lost (config : Json) : Prop where
  readable : ∀ r ∈ routingRules config, Readable r
  notOwned : ¬∃ r ∈ routingRules config, Owned r

variable {nodes : List VmNode} {config : Json}

/-- Switching in a configuration with rules of its own. -/
theorem Ready.build (h : Ready config) {a : ByteString} (ha : a ≠ []) :
    buildFullConfig nodes config a =
      .ok (assemble nodes config.members ((routingRules config).map (retarget a))) := by
  rw [buildFullConfig_of_readable (effectiveTag_ne_nil nodes ha) h.readable,
    effectiveTag_of_ne_nil nodes ha, newRules_of_owned h.owned]

/-- A switch to a tag with the prefix is forgotten by the next one. -/
theorem forgets_of_isVmessTag (h : Ready config) {a : ByteString} (ha : isVmessTag a) :
    ∃ config', buildFullConfig nodes config a = .ok config' ∧ Ready config' ∧
      ∀ b, b ≠ [] → buildFullConfig nodes config' b = buildFullConfig nodes config b := by
  refine ⟨_, h.build (isVmessTag_ne_nil ha), ?_⟩
  have hready : Ready (assemble nodes config.members ((routingRules config).map (retarget a))) := by
    constructor
    · rw [routingRules_assemble, List.forall_mem_map]
      exact fun r hr ↦ readable_retarget a (h.readable r hr)
    · obtain ⟨r, hr, ho⟩ := h.owned
      rw [routingRules_assemble]
      exact ⟨_, List.mem_map_of_mem hr, (owned_retarget_iff ha).mpr ho⟩
  refine ⟨hready, fun b hb ↦ ?_⟩
  rw [hready.build hb, h.build hb, assemble_assemble, routingRules_assemble, List.map_map]
  congr 2
  exact List.map_congr_left fun r _ ↦ retarget_retarget ha b r

/-- A switch to any other tag loses the rules. -/
theorem lost_of_not_isVmessTag (h : Ready config) {a : ByteString} (hne : a ≠ [])
    (ha : ¬isVmessTag a) : ∃ config', buildFullConfig nodes config a = .ok config' ∧ Lost config' ∧
      (routingRules config').length = (routingRules config).length := by
  refine ⟨_, h.build hne, ⟨?_, ?_⟩, ?_⟩
  · rw [routingRules_assemble, List.forall_mem_map]
    exact fun r hr ↦ readable_retarget a (h.readable r hr)
  · rw [routingRules_assemble]
    rintro ⟨r, hr, ho⟩
    obtain ⟨r', -, rfl⟩ := List.mem_map.mp hr
    exact not_owned_retarget ha r' ho
  · rw [routingRules_assemble, List.length_map]

/-- The switch after that adds three elements to the rules, and nothing can be read from them. -/
theorem rules_after_lost (h : Lost config) {b : ByteString} (hb : b ≠ []) :
    ∃ config', buildFullConfig nodes config b = .ok config' ∧
      (routingRules config').length = (routingRules config).length + 3 ∧
      ∃ r ∈ routingRules config', ¬Readable r := by
  refine ⟨_, buildFullConfig_of_readable (effectiveTag_ne_nil nodes hb) h.readable, ?_, ?_⟩
  · rw [routingRules_assemble, newRules, if_neg h.notOwned, List.length_append, List.length_map,
      defaultRule, Nat.add_comm]
    rfl
  · rw [routingRules_assemble, newRules, if_neg h.notOwned, effectiveTag_of_ne_nil nodes hb]
    have hmem : .array [.string (ofString "type"), .string (ofString "field")] ∈ defaultRule b :=
      List.mem_cons_self
    exact ⟨_, List.mem_append_left _ hmem, not_readable_of_mem_defaultRule hmem⟩

/-! ## A chain of switches -/

/-- A chain that passes through a tag without the prefix ends in another configuration, or in an
exception. -/
theorem not_forgets_of_lost (h : Ready config) {a : ByteString} (hne : a ≠ []) (ha : ¬isVmessTag a)
    {as : List ByteString} (has : ∀ a' ∈ as, a' ≠ []) {b : ByteString} (hb : b ≠ []) :
    run (buildFullConfig nodes) config (a :: as ++ [b]) ≠ buildFullConfig nodes config b := by
  obtain ⟨config', hconfig', hlost, hlen⟩ := lost_of_not_isVmessTag h hne ha
  rw [h.build hb, List.cons_append, run_cons, hconfig']
  cases as with
  | nil =>
    obtain ⟨config'', hconfig'', hlen', -⟩ := rules_after_lost hlost hb
    intro heq
    have hlast : run (buildFullConfig nodes) config' [b] = .ok config'' := by
      rw [run_cons, hconfig'']
      rfl
    obtain rfl := Except.ok.inj (hlast.symm.trans heq)
    rw [routingRules_assemble, List.length_map] at hlen'
    omega
  | cons a' as =>
    rw [List.forall_mem_cons] at has
    obtain ⟨config'', hconfig'', -, hno⟩ := rules_after_lost hlost has.1
    intro heq
    -- The default rule is in the way of whatever comes next.
    have hnext : ∀ c cs, c ≠ [] →
        run (buildFullConfig nodes) config'' (c :: cs) = .error .typeError := by
      intro c cs hc
      rw [run_cons, buildFullConfig_of_not_readable (effectiveTag_ne_nil nodes hc) hno]
      rfl
    have hrun : run (buildFullConfig nodes) config' (a' :: as ++ [b]) = .error .typeError := by
      rw [List.cons_append, run_cons, hconfig'']
      cases as with
      | nil => exact hnext b [] hb
      | cons c cs => exact hnext c (cs ++ [b]) (has.2 c List.mem_cons_self)
    cases hrun.symm.trans heq

theorem not_forgets {tags : List ByteString} {b : ByteString} (hb : b ≠ []) :
    ∀ {config : Json}, Ready config → (∀ a ∈ tags, a ≠ []) → (∃ a ∈ tags, ¬isVmessTag a) →
    run (buildFullConfig nodes) config (tags ++ [b]) ≠ buildFullConfig nodes config b := by
  induction tags with
  | nil => exact fun _ _ ⟨a, ha, _⟩ ↦ absurd ha List.not_mem_nil
  | cons a tags ih =>
    intro config h htags hlost
    rw [List.forall_mem_cons] at htags
    by_cases ha : isVmessTag a
    · obtain ⟨config', hconfig', hready, hforgets⟩ := forgets_of_isVmessTag h ha
      rw [List.exists_mem_cons_iff, or_iff_right (not_not_intro ha)] at hlost
      rw [List.cons_append, run_cons, hconfig', ← hforgets b hb]
      exact ih hready htags.2 hlost
    · exact not_forgets_of_lost h htags.1 ha htags.2 hb

/-- A chain of switches ends where switching to its last tag directly ends exactly when all tags
before the last have the prefix, or when a tag in the file cannot be read and every switch
throws. -/
theorem switches_forget_iff {tags : List ByteString} {b : ByteString}
    (htags : ∀ a ∈ tags, VmNodeValidator.validateTag a = [])
    (hb : VmNodeValidator.validateTag b = []) (howned : ∃ r ∈ routingRules config, Owned r) :
    run (buildFullConfig nodes) config (tags ++ [b]) = buildFullConfig nodes config b ↔
      (∀ a ∈ tags, isVmessTag a) ∨ ∃ r ∈ routingRules config, ¬Readable r := by
  have hne : ∀ a ∈ tags, a ≠ [] := fun a ha ↦ VmNodeValidator.ne_nil_of_validateTag (htags a ha)
  have hbne : b ≠ [] := VmNodeValidator.ne_nil_of_validateTag hb
  by_cases hread : ∃ r ∈ routingRules config, ¬Readable r
  · refine ⟨fun _ ↦ .inr hread, fun _ ↦ ?_⟩
    have hthrow : ∀ c, c ≠ [] → buildFullConfig nodes config c = .error .typeError := fun c hc ↦
      buildFullConfig_of_not_readable (effectiveTag_ne_nil nodes hc) hread
    rw [hthrow b hbne]
    cases tags with
    | nil => rw [List.nil_append, run_cons, hthrow b hbne]; rfl
    | cons a tags =>
      rw [List.cons_append, run_cons, hthrow a (hne a List.mem_cons_self)]
      rfl
  · have hready : Ready config := ⟨by simpa using hread, howned⟩
    rw [or_iff_left hread]
    constructor
    · intro heq
      by_contra hlost
      push Not at hlost
      exact not_forgets hbne hready hne hlost heq
    · exact run_concat_of_forgets (fun c a hc ha ↦ forgets_of_isVmessTag hc ha) hbne hready

/-- A node with a tag of its own. -/
def hkNode : VmNode where
  tag := ofString "hk"
  address := ofString "1.1.1.1"
  userId := ofString "01234567-89ab-cdef-0123-456789abcdef"

/-- One rule, for the node that v2ray used so far. -/
def vmessRuleConfig : Json :=
  .ofFields [("routing", .ofFields [("rules", .array [
    .ofFields [("type", .string (ofString "field")),
      ("outboundTag", .string (ofString "vmess-1"))]])])]

/-- From `vmess-1` to the other node and nothing is left of `vmess-1`. -/
theorem switches_forget_vmess_1 :
    run (buildFullConfig [hkNode]) vmessRuleConfig ([ofString "vmess-1"] ++ [ofString "hk"])
      = buildFullConfig [hkNode] vmessRuleConfig (ofString "hk") :=
  (switches_forget_iff (by decide +kernel) (by decide +kernel) (by decide +kernel)).mpr
    (.inl (by decide +kernel))

/-- Saving twice for a node whose tag is `hk` does not leave what saving once leaves. -/
theorem resaving_changes_config :
    VmNodeValidator.validate hkNode true = [] ∧
      (∀ r ∈ routingRules vmessRuleConfig, r.isObject) ∧
      (∃ r ∈ routingRules vmessRuleConfig, Owned r) ∧
      run (buildFullConfig [hkNode]) vmessRuleConfig [hkNode.tag, hkNode.tag]
        ≠ buildFullConfig [hkNode] vmessRuleConfig hkNode.tag := by
  have hvalid : VmNodeValidator.validate hkNode true = [] := VmNodeValidator.validate_eq_nil_iff.mpr
    ⟨by decide +kernel, by decide +kernel, rfl, VmNodeValidator.validateUuid_sample, rfl, rfl, rfl,
      rfl, rfl, rfl⟩
  refine ⟨hvalid, by decide +kernel, by decide +kernel, fun heq ↦ ?_⟩
  have hrules := congrArg (fun x ↦ x.toOption.map fun c ↦ (routingRules c).length) heq
  exact absurd hrules (by decide +kernel)

end VmConfigBuilder

end LanProxyGateway
