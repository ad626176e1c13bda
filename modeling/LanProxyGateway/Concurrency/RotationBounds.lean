import LanProxyGateway.Concurrency.WeightedRotation
import LanProxyGateway.Foundation.CInt
import LanProxyGateway.Foundation.PlacedCredits
import Mathlib.Data.List.GetD

/-!
# The weighted rotation does not overflow

`do_weighted_round_robin` adds and subtracts `int`s in a vector whose numbers belong to the places
in the list of candidates. Candidates come and go, so the vector is cut off and filled up with
zeros, and its numbers do not sum to zero any more. They are credits of places, all the same, and
with weights from 1 to 100 and never more than `N` candidates they stay within `100 * N ^ 2`.
-/

open Foundation

namespace LanProxyGateway

namespace NodeBalancer

open PlacedCredits

variable {b b' : NodeBalancer} {cs : List NodeLoadInfo} {N : ℕ}

/-! ## The vector as credits -/

/-- The number at a place, zero where there is none. -/
def credits (b : NodeBalancer) : ℕ → ℤ := fun i ↦ b.wrrCurrentWeights.getD i 0

theorem resize_eq_map (n : ℕ) (v : List Int) :
    resize n v = (List.range n).map fun i ↦ v.getD i 0 := by
  refine List.ext_getElem? fun i ↦ ?_
  rw [resize, List.getElem?_map, List.getElem?_append, List.getElem?_take, List.length_take,
    List.getElem?_replicate]
  by_cases hn : i < n
  · rw [List.getElem?_range hn, Option.map_some]
    by_cases hv : i < v.length
    · simp [hn, hv]
    · rw [if_neg (by omega), if_pos (by omega), List.getD_eq_default _ _ (by omega)]
  · have hnone : (List.range n)[i]? = none := by
      rw [List.getElem?_eq_none]
      rw [List.length_range]
      omega
    rw [hnone, if_neg (by omega), if_neg (by omega), Option.map_none]

theorem getD_map_range (n : ℕ) (f : ℕ → ℤ) (i : ℕ) :
    ((List.range n).map f).getD i 0 = if i < n then f i else 0 := by
  split_ifs with hi
  · simp [hi]
  · exact List.getD_eq_default _ _ (by simpa using hi)

/-- The weights of the candidates are those the balancer accepts. -/
def AcceptedWeights (cs : List NodeLoadInfo) : Prop := ∀ c ∈ cs, 1 ≤ c.weight ∧ c.weight ≤ 100

theorem weightAt_bounds (hw : AcceptedWeights cs) {i : ℕ} (hi : i < cs.length) :
    1 ≤ weightAt cs i ∧ weightAt cs i ≤ 100 := by
  rw [weightAt, List.getElem?_eq_getElem hi]
  exact hw _ (List.getElem_mem hi)

theorem totalWeight_bounds (hw : AcceptedWeights cs) :
    cs.length ≤ totalWeight cs ∧ totalWeight cs ≤ 100 * cs.length := by
  induction cs with
  | nil => exact ⟨le_rfl, le_rfl⟩
  | cons c cs ih =>
    obtain ⟨hc, hcs⟩ := List.forall_mem_cons.mp hw
    obtain ⟨hlo, hhi⟩ := ih hcs
    rw [totalWeight, List.map_cons, List.sum_cons, ← totalWeight, List.length_cons]
    push_cast
    omega

theorem sum_weightAt (cs : List NodeLoadInfo) :
    ∑ i ∈ Finset.range cs.length, weightAt cs i = totalWeight cs := by
  rw [totalWeight, ← map_weightAt cs]
  rfl

theorem weights_weightAt (hw : AcceptedWeights cs) (hlength : cs.length ≤ N) :
    Weights cs.length (50 * N) (weightAt cs) where
  nonneg i hi := (zero_le_one' ℤ).trans (weightAt_bounds hw hi).1
  total := by
    rw [sum_weightAt]
    have hbound := (totalWeight_bounds hw).2
    omega

/-! ## A pick as a turn -/

theorem credits_doWeightedRoundRobin (b : NodeBalancer) (htotal : totalWeight cs ≠ 0) :
    ∃ k, Picks cs.length k (weightAt cs) b.credits ∧
      (b.doWeightedRoundRobin cs).2.credits = settle cs.length k (weightAt cs) b.credits := by
  have hne : List.range cs.length ≠ [] := by
    rw [ne_eq, List.range_eq_nil]
    intro hnil
    rw [List.length_eq_zero_iff.mp hnil] at htotal
    exact htotal rfl
  have hraise : ∀ i < cs.length, SmoothRotation.raise (List.range cs.length) (weightAt cs)
      b.credits i = earn cs.length (weightAt cs) b.credits i := by
    intro i hi
    rw [SmoothRotation.raise_of_mem (List.mem_range.mpr hi), earn, if_pos hi]
  obtain ⟨k, hk, hbest, -, hturn⟩ := SmoothRotation.exists_turn_eq hne b.credits
  have hlt := List.mem_range.mp hk
  refine ⟨k, ⟨hlt, fun i hi ↦ ?_⟩, funext fun i ↦ ?_⟩
  · rw [← hraise i hi, ← hraise k hlt]
    exact hbest i (List.mem_range.mpr hi)
  · obtain ⟨-, -, hcurrent⟩ := doWeightedRoundRobin_turn (b := b) List.nodup_range
      (map_weightAt cs).symm (resize_eq_map cs.length b.wrrCurrentWeights) htotal
    have hsum : SmoothRotation.total (List.range cs.length) (weightAt cs) =
        ∑ i ∈ Finset.range cs.length, weightAt cs i := rfl
    rw [credits, hcurrent, getD_map_range]
    split_ifs with hi
    · rw [show (fun i ↦ b.wrrCurrentWeights.getD i 0) = b.credits from rfl, hturn]
      by_cases hik : i = k
      · rw [hik, Function.update_self, settle_self, hraise k hlt, hsum]
      · rw [Function.update_of_ne hik, settle_of_ne hik, hraise i hi]
    · have hik : i ≠ k := fun heq ↦ hi (heq ▸ hlt)
      rw [settle_of_ne hik, earn, if_neg hi]

/-- **The step lemma.** A pick keeps the credits within the bounds. -/
theorem within_doWeightedRoundRobin (hc : Within N (50 * N) b.credits) (hw : AcceptedWeights cs)
    (hlength : cs.length ≤ N) :
    Within N (50 * N) (b.doWeightedRoundRobin cs).2.credits := by
  have hh : (0 : ℤ) ≤ 50 * N := by omega
  by_cases htotal : totalWeight cs = 0
  · have hkeep : (b.doWeightedRoundRobin cs).2.credits = keep cs.length b.credits := by
      funext i
      rw [doWeightedRoundRobin_of_zero htotal, credits, resize_eq_map, getD_map_range]
      rfl
    rw [hkeep]
    exact hc.keep hh _
  · obtain ⟨k, hpicks, hsettle⟩ := b.credits_doWeightedRoundRobin htotal
    rw [hsettle]
    exact hc.settle hh hlength (weights_weightAt hw hlength) hpicks

theorem length_doWeightedRoundRobin (b : NodeBalancer) (cs : List NodeLoadInfo) :
    (b.doWeightedRoundRobin cs).2.wrrCurrentWeights.length = cs.length := by
  have hresize : (resize cs.length b.wrrCurrentWeights).length = cs.length := by
    rw [resize_eq_map, List.length_map, List.length_range]
  by_cases htotal : totalWeight cs = 0
  · rw [doWeightedRoundRobin_of_zero htotal]
    exact hresize
  · rw [doWeightedRoundRobin_of_ne htotal, List.length_modify, List.length_zipWith, hresize,
      List.length_map, min_self]

/-- All sums and differences of a pick are `int`s. -/
structure NoOverflow (b : NodeBalancer) (cs : List NodeLoadInfo) : Prop where
  /-- `total_weight`, after each turn of its loop. -/
  totals : ∀ pre, pre <+: cs → CInt.Fits (totalWeight pre)
  earned : ∀ x ∈ List.zipWith (· + ·) (resize cs.length b.wrrCurrentWeights) (cs.map (·.weight)),
    CInt.Fits x
  settled : ∀ x ∈ (b.doWeightedRoundRobin cs).2.wrrCurrentWeights, CInt.Fits x

theorem fits_of_within {credit : ℕ → ℤ} (hc : Within N (50 * N) credit)
    (hN : 100 * N ^ 2 ≤ 2147483647) {i : ℕ} (hi : i < N) {x : ℤ} (hlo : credit i ≤ x)
    (hhi : x ≤ credit i + 100) : CInt.Fits x := by
  have hcast : 100 * (N : ℤ) ^ 2 ≤ 2147483647 := by exact_mod_cast hN
  have hpos : (1 : ℤ) ≤ N := by omega
  have hle := hc.le hi
  have hge := hc.ge hi
  have hupper : 2 * (50 * (N : ℤ)) * (N - 1) = 100 * (N : ℤ) ^ 2 - 100 * N := by ring
  have hlower : 50 * (N : ℤ) * (2 * N - 1) = 100 * (N : ℤ) ^ 2 - 50 * N := by ring
  rw [hupper] at hle
  rw [hlower] at hge
  constructor
  · linarith
  · linarith

theorem noOverflow_of_within (hc : Within N (50 * N) b.credits) (hw : AcceptedWeights cs)
    (hlength : cs.length ≤ N) (hN : 100 * N ^ 2 ≤ 2147483647) : NoOverflow b cs where
  totals pre hpre := by
    obtain ⟨hlo, hhi⟩ := totalWeight_bounds fun c hmem ↦ hw c (hpre.mem hmem)
    have hle : pre.length ≤ N := hpre.length_le.trans hlength
    have hsquare : N ≤ N ^ 2 := Nat.le_self_pow (by decide) N
    constructor
    · omega
    · omega
  earned x hx := by
    rw [resize_eq_map, ← map_weightAt cs, List.zipWith_map, List.zipWith_self, List.mem_map] at hx
    obtain ⟨i, hi, rfl⟩ := hx
    have hi := List.mem_range.mp hi
    obtain ⟨hlo, hhi⟩ := weightAt_bounds hw hi
    refine fits_of_within hc hN (hi.trans_le hlength) (i := i) ?_ ?_
    · rw [credits]
      omega
    · rw [credits]
      omega
  settled x hx := by
    have hafter := within_doWeightedRoundRobin hc hw hlength
    obtain ⟨i, hi, rfl⟩ := List.mem_iff_getElem.mp hx
    have hplace : (b.doWeightedRoundRobin cs).2.credits i =
        (b.doWeightedRoundRobin cs).2.wrrCurrentWeights[i] := by
      rw [credits, List.getD_eq_getElem _ _ hi]
    have hsize := b.length_doWeightedRoundRobin cs
    exact fits_of_within hafter hN (by omega) hplace.le (by omega)

/-! ## What else the balancer does -/

/-- The rotation is where it was, with the weights it had. -/
structure SameRotation (b b' : NodeBalancer) : Prop where
  nodeWeights : b'.nodeWeights = b.nodeWeights
  current : b'.wrrCurrentWeights = b.wrrCurrentWeights

theorem SameRotation.refl (b : NodeBalancer) : SameRotation b b := ⟨rfl, rfl⟩

theorem SameRotation.trans {b'' : NodeBalancer} (h : SameRotation b b')
    (h' : SameRotation b' b'') : SameRotation b b'' :=
  ⟨h'.nodeWeights.trans h.nodeWeights, h'.current.trans h.current⟩

theorem SameRotation.credits (h : SameRotation b b') : b'.credits = b.credits := by
  unfold NodeBalancer.credits
  rw [h.current]

variable {health : NodeHealthChecker} {nodes : List VmNode} {excludeTags : List ByteString}
  {now : SteadyTime} {clientIp : ByteString}

theorem sameRotation_affinityNode {o : Option ByteString}
    (h : b.affinityNode health now clientIp = .ok (o, b')) : SameRotation b b' := by
  rw [affinityNode] at h
  split at h
  · obtain ⟨-, rfl⟩ := Prod.mk.inj (Except.ok.inj h)
    exact .refl b
  · obtain ⟨found, -, h⟩ := exists_of_bind_eq_ok h
    cases found with
    | none =>
      obtain ⟨-, rfl⟩ := Prod.mk.inj (Except.ok.inj h)
      exact .refl b
    | some tag =>
      dsimp only at h
      split at h
      · obtain ⟨-, rfl⟩ := Prod.mk.inj (Except.ok.inj h)
        exact .refl b
      · obtain ⟨affinity, -, h⟩ := exists_of_bind_eq_ok h
        obtain ⟨-, rfl⟩ := Prod.mk.inj (Except.ok.inj h)
        exact ⟨rfl, rfl⟩

theorem sameRotation_remember {selected : Option ByteString} {strategyUsed : ByteString}
    {o : Option Schedule} (h : b.remember now clientIp selected strategyUsed = .ok (o, b')) :
    SameRotation b b' := by
  simp only [remember] at h
  cases selected with
  | none =>
    obtain ⟨-, rfl⟩ := Prod.mk.inj (Except.ok.inj h)
    exact .refl b
  | some tag =>
    dsimp only at h
    split at h
    · obtain ⟨-, rfl⟩ := Prod.mk.inj (Except.ok.inj h)
      exact .refl b
    · obtain ⟨affinity, -, h⟩ := exists_of_bind_eq_ok h
      obtain ⟨-, rfl⟩ := Prod.mk.inj (Except.ok.inj h)
      exact ⟨rfl, rfl⟩

/-- The weight of a node is between 1 and 100. -/
def AcceptsWeights (b : NodeBalancer) : Prop :=
  ∀ tag w, b.nodeWeights.lookup tag = some w → 1 ≤ w ∧ w ≤ 100

theorem SameRotation.acceptsWeights (h : SameRotation b b') (hb : b.AcceptsWeights) :
    b'.AcceptsWeights := by
  rwa [AcceptsWeights, h.nodeWeights]

theorem acceptsWeights_setNodeWeight (h : b.AcceptsWeights) {weight : Int} (hlo : 1 ≤ weight)
    (hhi : weight ≤ 100) (tag : ByteString) : (b.setNodeWeight tag weight).AcceptsWeights := by
  intro tag' w hw
  rw [setNodeWeight] at hw
  by_cases heq : tag' = tag
  · rw [heq, AList.lookup_insert] at hw
    obtain rfl := Option.some.inj hw
    exact ⟨hlo, hhi⟩
  · rw [AList.lookup_insert_ne heq] at hw
    exact h tag' w hw

theorem acceptedWeights_getCandidates (h : b.AcceptsWeights) :
    AcceptedWeights (b.getCandidates health nodes excludeTags) := by
  intro c hc
  obtain ⟨n, -, hn⟩ := List.mem_filterMap.mp hc
  rw [candidate] at hn
  split_ifs at hn
  obtain rfl := Option.some.inj hn
  cases hw : b.nodeWeights.lookup n.tag with
  | none => exact ⟨(by decide : (1 : Int) ≤ 100), le_refl (100 : Int)⟩
  | some w => exact h n.tag w hw

theorem length_getCandidates_le :
    (b.getCandidates health nodes excludeTags).length ≤ nodes.length :=
  List.length_filterMap_le _ _

/-- What the rotation keeps: its credits are within the bounds, and its weights are accepted. -/
structure Bounded (N : ℕ) (b : NodeBalancer) : Prop where
  within : Within N (50 * N) b.credits
  weights : b.AcceptsWeights

theorem bounded_start (hcurrent : b.wrrCurrentWeights = []) (hweights : b.nodeWeights = ∅) :
    Bounded N b where
  within := by
    have hzero : b.credits = 0 := by
      funext i
      rw [credits, hcurrent]
      rfl
    have hroom : (0 : ℤ) ≤ 50 * N * (N - 1) := by
      cases N with
      | zero => simp
      | succ n =>
        push_cast
        exact mul_nonneg (by omega) (by omega)
    rw [hzero]
    exact within_zero (by omega) hroom
  weights tag w hw := by
    rw [hweights, AList.lookup_empty] at hw
    cases hw

theorem Bounded.same (h : Bounded N b) (hsame : SameRotation b b') : Bounded N b' where
  within := hsame.credits ▸ h.within
  weights := hsame.acceptsWeights h.weights

theorem Bounded.choose (h : Bounded N b) (hw : AcceptedWeights cs) (hlength : cs.length ≤ N) :
    Bounded N (b.choose cs).2 := by
  rw [NodeBalancer.choose]
  split
  · exact h.same ⟨rfl, rfl⟩
  · refine ⟨within_doWeightedRoundRobin h.within hw hlength, ?_⟩
    rw [doWeightedRoundRobin]
    dsimp only
    split_ifs
    · exact h.weights
    · exact h.weights
  · exact h
  · exact h

/-- **The two choices** keep the rotation within its bounds. -/
theorem Bounded.selectNode (h : Bounded N b) (hnodes : nodes.length ≤ N) {o : Option Schedule}
    (hb : b.selectNode health nodes now clientIp = .ok (o, b')) : Bounded N b' := by
  rw [NodeBalancer.selectNode] at hb
  obtain ⟨⟨found, b₁⟩, hfound, hb⟩ := exists_of_bind_eq_ok hb
  have h₁ : Bounded N b₁ := h.same (sameRotation_affinityNode hfound)
  cases found with
  | some tag =>
    obtain ⟨-, rfl⟩ := Prod.mk.inj (Except.ok.inj hb)
    exact h₁
  | none =>
    dsimp only at hb
    split at hb
    · obtain ⟨-, rfl⟩ := Prod.mk.inj (Except.ok.inj hb)
      exact h₁
    · exact (h₁.choose (acceptedWeights_getCandidates h₁.weights)
        (length_getCandidates_le.trans hnodes)).same (sameRotation_remember hb)

theorem Bounded.selectFallbackNode (h : Bounded N b) {o : Option Schedule}
    (hb : b.selectFallbackNode health nodes now clientIp excludeTags = .ok (o, b')) :
    Bounded N b' := by
  rw [NodeBalancer.selectFallbackNode] at hb
  split at hb
  · obtain ⟨-, rfl⟩ := Prod.mk.inj (Except.ok.inj hb)
    exact h
  · exact h.same (sameRotation_remember hb)

end NodeBalancer

end LanProxyGateway
