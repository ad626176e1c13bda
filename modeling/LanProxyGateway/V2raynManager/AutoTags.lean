import LanProxyGateway.Foundation.CInt
import LanProxyGateway.V2raynManager.ActiveNode

/-!
# The tag that an import gives

`generate_auto_tag` counts up from one until no node has the tag, in a loop that has no bound of its
own. `autoTagLoop` is that loop with the number of iterations it is given, and with an `int` for a
counter; it can come to its last iteration, and it can count too far.

It does neither: the tags are different, so that among one more than there are nodes one is free,
and the loop stops at the first of them (`exists_isAutoTag`). Hence what the manager uses,
`generateAutoTag`, is a tag that no node has.
-/

open Foundation ByteString

namespace LanProxyGateway

namespace NodeStore

open VmNodeValidator

/-- `"vmess-" + std::to_string(n)`. -/
def autoTag (n : ℕ) : ByteString := ofString "vmess-" ++ toDecimal n

theorem autoTag_injective : Function.Injective autoTag := fun _ _ h ↦
  toDecimal_inj.mp (List.append_cancel_left h)

theorem validateTag_autoTag (n : ℕ) : validateTag (autoTag n) = [] := by
  have hprefix : ∀ c ∈ ofString "vmess-", c ∈ Regex.letters ++ Regex.digits ++ ofString "_-" := by
    decide +kernel
  rw [validateTag_eq_nil_iff]
  refine ⟨List.append_ne_nil_of_left_ne_nil (by decide) _, fun c hc ↦ ?_⟩
  rcases List.mem_append.mp hc with hc | hc
  · exact hprefix c hc
  · have hdigit := Regex.mem_digits_iff.mpr (bounds_of_mem_toDecimal hc)
    exact List.mem_append_left _ (List.mem_append_right _ hdigit)

/-- Some number from one on, and not more of them than there are nodes, gives a free tag. -/
theorem exists_least_autoTag (nodes : List VmNode) : ∃ k, 1 ≤ k ∧ k ≤ nodes.length + 1 ∧
    ¬HasTag nodes (autoTag k) ∧ ∀ j, 1 ≤ j → j < k → HasTag nodes (autoTag j) := by
  have hinj : Function.Injective fun k ↦ autoTag (k + 1) :=
    autoTag_injective.comp (add_left_injective 1)
  obtain ⟨k, hk, hfree, htaken⟩ := exists_least_not_mem hinj (nodes.map (·.tag))
  rw [List.length_map] at hk
  have hmem : ∀ tag, tag ∈ nodes.map (·.tag) ↔ HasTag nodes tag := fun _ ↦ List.mem_map
  rw [hmem] at hfree
  refine ⟨k + 1, by omega, by omega, hfree, fun j hj hjk ↦ ?_⟩
  have := (hmem _).mp (htaken (j - 1) (by omega))
  rwa [Nat.sub_add_cancel hj] at this

/-- `std::find_if(...) == m_nodes.end()`, the other way round. -/
theorem any_tag_iff {nodes : List VmNode} {tag : ByteString} :
    nodes.any (·.tag = tag) = true ↔ HasTag nodes tag := by
  rw [List.any_eq_true]
  simp only [decide_eq_true_eq]
  rfl

/-! ## The search -/

/-- Given enough to try, the search ends at the first free tag. -/
theorem firstFreeTag_eq {nodes : List VmNode} {k : ℕ} (hfree : ¬HasTag nodes (autoTag k))
    {fuel n : ℕ} (htaken : ∀ j, n ≤ j → j < k → HasTag nodes (autoTag j)) (hn : n ≤ k)
    (hk : k ≤ n + fuel) : firstFreeTag nodes fuel n = autoTag k := by
  induction fuel generalizing n with
  | zero =>
    obtain rfl : n = k := by omega
    rfl
  | succ fuel ih =>
    rw [firstFreeTag, ← autoTag]
    rcases hn.eq_or_lt with rfl | hlt
    · exact if_neg (mt any_tag_iff.mp hfree)
    · refine (if_pos (any_tag_iff.mpr (htaken n le_rfl hlt))).trans ?_
      exact ih (fun j hj hjk ↦ htaken j (by omega) hjk) hlt (by omega)

/-- `generateAutoTag` is the first free tag. -/
theorem generateAutoTag_eq (s : NodeStore) : ∃ k, 1 ≤ k ∧ k ≤ s.nodes.length + 1 ∧
    s.generateAutoTag = autoTag k ∧ ¬HasTag s.nodes (autoTag k) ∧
      ∀ j, 1 ≤ j → j < k → HasTag s.nodes (autoTag j) := by
  obtain ⟨k, hpos, hle, hfree, htaken⟩ := exists_least_autoTag s.nodes
  refine ⟨k, hpos, hle, firstFreeTag_eq hfree htaken hpos (by omega), hfree, htaken⟩

theorem generateAutoTag_free (s : NodeStore) : ∀ n ∈ s.nodes, n.tag ≠ s.generateAutoTag := by
  obtain ⟨k, -, -, heq, hfree, -⟩ := generateAutoTag_eq s
  intro n hn htag
  exact hfree ⟨n, hn, heq ▸ htag⟩

/-! ## The loop -/

section Loop

variable {nodes : List VmNode} {k m : ℕ}


/-- How far the loop of `generate_auto_tag` has come. -/
inductive AutoTagLoop
  /-- The iterations are used up. -/
  | searching
  /-- `n++` at the greatest `int`. -/
  | overflow
  | returned (tag : ByteString)
  deriving DecidableEq

/-- The loop of `vm_node_manager::generate_auto_tag`, for so many iterations, from a counter on. -/
def autoTagLoop (nodes : List VmNode) : ℕ → CInt → AutoTagLoop
  | 0, _ => .searching
  | iterations + 1, n =>
    let tag := ofString "vmess-" ++ intToDecimal n.val
    if nodes.find? (·.tag = tag) = none then .returned tag
    else
      match n.add? (.ofInt 1) with
      | none => .overflow
      | some n => autoTagLoop nodes iterations n

/-- One iteration over a tag that is taken. -/
theorem autoTagLoop_step (htaken : HasTag nodes (autoTag m)) (hlt : m < 2147483647)
    (iterations : ℕ) : autoTagLoop nodes (iterations + 1) (.ofInt m) =
      autoTagLoop nodes iterations (.ofInt ((m + 1 : ℕ) : Int)) := by
  have hval : (CInt.ofInt m).val = m := CInt.val_ofInt ⟨by omega, by omega⟩
  have hone : (CInt.ofInt 1).val = 1 := CInt.val_ofInt ⟨by omega, by omega⟩
  have hnext : (CInt.ofInt m).add? (.ofInt 1) = some (.ofInt ((m + 1 : ℕ) : Int)) := by
    rw [CInt.add?, CInt.checked_eq_some_iff, CInt.val_ofInt ⟨by omega, by omega⟩, hval, hone]
    rfl
  have hsearch : nodes.find? (·.tag = autoTag m) ≠ none := fun h ↦ find?_tag_eq_none_iff.mp h htaken
  rw [autoTagLoop, hval, intToDecimal_natCast, ← autoTag, if_neg hsearch, hnext]

theorem autoTagLoop_last (hfree : ¬HasTag nodes (autoTag m)) (hle : m ≤ 2147483647)
    (iterations : ℕ) : autoTagLoop nodes (iterations + 1) (.ofInt m) = .returned (autoTag m) := by
  have hval : (CInt.ofInt m).val = m := CInt.val_ofInt ⟨by omega, by omega⟩
  rw [autoTagLoop, hval, intToDecimal_natCast, ← autoTag,
    if_pos (find?_tag_eq_none_iff.mpr hfree)]

/-- The loop tries every number up to the first that is free, and then returns. -/
theorem autoTagLoop_eq (hfree : ¬HasTag nodes (autoTag k)) (hk : k ≤ 2147483647)
    {iterations : ℕ} (htaken : ∀ j, m ≤ j → j < k → HasTag nodes (autoTag j)) (hm : m ≤ k) :
    autoTagLoop nodes iterations (.ofInt m) =
      if m + iterations ≤ k then .searching else .returned (autoTag k) := by
  induction iterations generalizing m with
  | zero => exact (if_pos hm).symm
  | succ iterations ih =>
    rcases hm.eq_or_lt with rfl | hlt
    · rw [if_neg (by omega), autoTagLoop_last hfree hk]
    · rw [autoTagLoop_step (htaken m le_rfl hlt) (by omega),
        ih (fun j hj hjk ↦ htaken j (by omega) hjk) hlt, Nat.succ_add_eq_add_succ]

/-- What is said of the number of an automatic tag. -/
structure IsAutoTag (nodes : List VmNode) (k : ℕ) : Prop where
  pos : 1 ≤ k
  le : k ≤ nodes.length + 1
  /-- The loop returns in its iteration number `k`, with no overflow before. -/
  loop : ∀ iterations, autoTagLoop nodes iterations (.ofInt 1) =
    if iterations < k then .searching else .returned (autoTag k)
  /-- It is the tag that an import uses. -/
  generated : ∀ s : NodeStore, s.nodes = nodes → s.generateAutoTag = autoTag k
  fresh : ∀ n ∈ nodes, n.tag ≠ autoTag k
  least : ∀ j, 1 ≤ j → j < k → ∃ n ∈ nodes, n.tag = autoTag j
  valid : validateTag (autoTag k) = []

/-- **An automatic tag is fresh, least and valid**, and the loop has it after one iteration more
than there are nodes at the latest. -/
theorem exists_isAutoTag (nodes : List VmNode) (hlength : nodes.length < 2 ^ 31 - 1) :
    ∃ k, IsAutoTag nodes k := by
  obtain ⟨k, hpos, hle, hfree, htaken⟩ := exists_least_autoTag nodes
  refine ⟨k, hpos, hle, fun iterations ↦ ?_, ?_, fun n hn htag ↦ hfree ⟨n, hn, htag⟩, htaken,
    validateTag_autoTag k⟩
  · have hiff : 1 + iterations ≤ k ↔ iterations < k := by omega
    rw [← if_congr hiff rfl rfl]
    exact autoTagLoop_eq (m := 1) hfree (by omega) htaken hpos
  · rintro s rfl
    exact firstFreeTag_eq hfree htaken hpos (by omega)

theorem exists_isAutoTag_gap :
    ∃ k, IsAutoTag [{ tag := ofString "vmess-1" }, { tag := ofString "vmess-3" }] k :=
  exists_isAutoTag _ (by decide)

example : autoTagLoop [{ tag := ofString "vmess-1" }, { tag := ofString "vmess-3" }] 3 (.ofInt 1) =
    .returned (ofString "vmess-2") := by decide

end Loop

end NodeStore

end LanProxyGateway
