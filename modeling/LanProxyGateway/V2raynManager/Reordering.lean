import LanProxyGateway.V2raynManager.ActiveNode
import Mathlib.Data.List.Dedup
import Mathlib.Data.List.Perm.Lattice

/-!
# Does reordering lose or add nodes?

`reorder_nodes` is to put the nodes it is told about in front, in the order it is told, and to leave
the others behind them (`inOrder`, a permutation by `inOrder_perm`). Its second loop runs over the
old list, where the nodes that the first loop has moved away are still there, without their strings;
the first of them has a tag that no other node has, the empty one, and is appended. So the list
grows by a node without a tag whenever there is something to reorder.
-/

open Foundation ByteString

namespace LanProxyGateway

namespace NodeStore

/-- The tags in the order in which they are first mentioned. -/
def firstMentions (orderedTags : List ByteString) : List ByteString :=
  orderedTags.reverse.dedup.reverse

/-- The nodes that are listed, in the order of the list, and behind them the others. -/
def inOrder (orderedTags : List ByteString) (nodes : List VmNode) : List VmNode :=
  (firstMentions orderedTags).filterMap (fun tag ↦ nodes.find? (·.tag = tag)) ++
    nodes.filter (·.tag ∉ orderedTags)

variable {orderedTags : List ByteString} {nodes : List VmNode} {s : NodeStore}

theorem mem_firstMentions {tag : ByteString} :
    tag ∈ firstMentions orderedTags ↔ tag ∈ orderedTags := by
  rw [firstMentions, List.mem_reverse, List.mem_dedup, List.mem_reverse]

/-- Nothing is lost and nothing is added. -/
theorem inOrder_perm (hdistinct : (nodes.map (·.tag)).Nodup) :
    (inOrder orderedTags nodes).Perm nodes := by
  have hlisted : ((firstMentions orderedTags).filterMap
      fun tag ↦ nodes.find? (·.tag = tag)).Perm (nodes.filter (·.tag ∈ orderedTags)) := by
    have hmentions : (firstMentions orderedTags).Nodup :=
      List.nodup_reverse.mpr (List.nodup_dedup _)
    refine (List.perm_ext_iff_of_nodup ?_ (hdistinct.of_map.filter _)).mpr fun n ↦ ?_
    · refine hmentions.filterMap fun tag tag' n hn hn' ↦ ?_
      rw [Option.mem_def, find?_key_eq_some_iff hdistinct] at hn hn'
      exact hn.2.symm.trans hn'.2
    · rw [List.mem_filterMap, List.mem_filter, decide_eq_true_eq]
      constructor
      · rintro ⟨tag, htag, hfind⟩
        obtain ⟨hn, rfl⟩ := (find?_key_eq_some_iff hdistinct).mp hfind
        exact ⟨hn, mem_firstMentions.mp htag⟩
      · rintro ⟨hn, htag⟩
        exact ⟨n.tag, mem_firstMentions.mpr htag, (find?_key_eq_some_iff hdistinct).mpr ⟨hn, rfl⟩⟩
  have hsplit := List.filter_append_perm (fun n : VmNode ↦ decide (n.tag ∈ orderedTags)) nodes
  simp only [← decide_not] at hsplit
  exact (hlisted.append_right _).trans hsplit

/-- What `reorder_nodes` is to do. -/
structure Reorders (s : NodeStore) (orderedTags : List ByteString) : Prop where
  perm : (s.reorderNodes orderedTags).2.nodes.Perm s.nodes
  inOrder : (s.reorderNodes orderedTags).2.nodes = inOrder orderedTags s.nodes

/-! ## What is left of a node that was moved -/

/-- A node without a tag stays. -/
theorem hasTag_nil_pickNodes : ∀ {nodes : List VmNode}, HasTag nodes [] →
    HasTag (pickNodes orderedTags nodes).2 [] := by
  induction orderedTags with
  | nil => exact fun h ↦ h
  | cons tag tags ih =>
    intro nodes h
    rw [pickNodes]
    split
    · exact ih h
    · exact ih (hasTag_replaceNode h fun _ ↦ .inl rfl)

/-- A node that is picked leaves one without a tag behind. -/
theorem hasTag_nil_of_picked : ∀ {nodes : List VmNode},
    (∃ tag ∈ orderedTags, HasTag nodes tag) → HasTag (pickNodes orderedTags nodes).2 [] := by
  induction orderedTags with
  | nil => exact fun ⟨_, h, _⟩ ↦ absurd h List.not_mem_nil
  | cons tag' tags ih =>
    rintro nodes ⟨tag, htag, hnode⟩
    rw [pickNodes]
    split
    · rename_i hfind
      refine ih ⟨tag, (List.mem_cons.mp htag).resolve_left ?_, hnode⟩
      rintro rfl
      exact find?_tag_eq_none_iff.mp hfind hnode
    · rename_i n hfind
      refine hasTag_nil_pickNodes ⟨movedFrom n, mem_replaceNode _ ?_, rfl⟩
      exact ⟨n, List.mem_of_find?_eq_some hfind, key_eq_of_find? hfind⟩

/-! ## The exact condition -/

/-- The second loop copies a list whose tags are distinct and new. -/
theorem appendMissing_of_new {rest : List VmNode} : ∀ {reordered : List VmNode},
    ((reordered ++ rest).map (·.tag)).Nodup → appendMissing reordered rest = reordered ++ rest := by
  induction rest with
  | nil => exact fun _ ↦ (List.append_nil _).symm
  | cons n rest ih =>
    intro reordered h
    have hnew : reordered.any (·.tag = n.tag) = false := by
      rw [List.map_append, List.nodup_append] at h
      refine List.any_eq_false.mpr fun m hm ↦ ?_
      have hn : n.tag ∈ (n :: rest).map (·.tag) := List.mem_map_of_mem List.mem_cons_self
      have hne := h.2.2 m.tag (List.mem_map_of_mem hm) n.tag hn
      simpa using hne
    rw [appendMissing, hnew, if_neg (by decide), ih, List.append_assoc]
    · rfl
    · rwa [List.append_assoc]

theorem inOrder_of_unknown (h : ∀ tag ∈ orderedTags, ¬HasTag nodes tag) :
    inOrder orderedTags nodes = nodes := by
  have hlisted : (firstMentions orderedTags).filterMap
      (fun tag ↦ nodes.find? (·.tag = tag)) = [] := by
    refine List.filterMap_eq_nil_iff.mpr fun tag htag ↦ ?_
    exact find?_tag_eq_none_iff.mpr (h tag (mem_firstMentions.mp htag))
  have hothers : nodes.filter (·.tag ∉ orderedTags) = nodes :=
    List.filter_eq_self.mpr fun n hn ↦ by simpa using fun htag ↦ h n.tag htag ⟨n, hn, rfl⟩
  rw [inOrder, hlisted, hothers, List.nil_append]

/-- **When reordering is a permutation.** When there is nothing to reorder. -/
theorem reorders_iff (hdistinct : (s.nodes.map (·.tag)).Nodup) (htags : ∀ n ∈ s.nodes, n.tag ≠ [])
    (orderedTags : List ByteString) :
    Reorders s orderedTags ↔ ∀ tag ∈ orderedTags, ∀ n ∈ s.nodes, n.tag ≠ tag := by
  have hunknown : (∀ tag ∈ orderedTags, ∀ n ∈ s.nodes, n.tag ≠ tag) ↔
      ∀ tag ∈ orderedTags, ¬HasTag s.nodes tag :=
    forall₂_congr fun tag _ ↦ ⟨fun h ⟨n, hn, ht⟩ ↦ h n hn ht, fun h n hn ht ↦ h ⟨n, hn, ht⟩⟩
  rw [hunknown]
  constructor
  · intro h tag htag hnode
    have hnil : HasTag (s.reorderNodes orderedTags).2.nodes [] :=
      hasTag_appendMissing (.inr (hasTag_nil_of_picked ⟨tag, htag, hnode⟩))
    obtain ⟨n, hn, ht⟩ := hnil
    exact htags n (h.perm.mem_iff.mp hn) ht
  · intro h
    have hnodes : (s.reorderNodes orderedTags).2.nodes = inOrder orderedTags s.nodes := by
      rw [inOrder_of_unknown h, reorderNodes, pickNodes_of_unknown h]
      exact appendMissing_of_new hdistinct
    exact ⟨hnodes ▸ inOrder_perm hdistinct, hnodes⟩

/-- Two nodes. -/
def hkAndJp : NodeStore where
  nodes := [{ tag := ofString "hk" }, { tag := ofString "jp" }]

/-- Asking for a node that is not there. -/
theorem reorders_unknown_tag : Reorders hkAndJp [ofString "us"] :=
  (reorders_iff (by decide) (by decide) _).mpr (by decide)

/-- The two nodes in the other order, and a third. -/
theorem swapped_not_reordered : (hkAndJp.nodes.map (·.tag)).Nodup ∧
    (∀ n ∈ hkAndJp.nodes, n.tag ≠ []) ∧ ¬Reorders hkAndJp [ofString "jp", ofString "hk"] := by
  refine ⟨by decide, by decide, fun h ↦ ?_⟩
  have hlength := h.perm.length_eq
  revert hlength
  decide

end NodeStore

end LanProxyGateway
