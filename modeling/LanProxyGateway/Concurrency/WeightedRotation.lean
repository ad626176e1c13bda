import LanProxyGateway.Concurrency.NodeBalancer
import LanProxyGateway.Foundation.SmoothRotation

/-!
# Weighted round robin

`do_weighted_round_robin` is a smooth rotation whose credits are kept by position. While the
candidates stay the same that makes no difference, and each is picked exactly as often as its weight
says (`proportional`). When they change, whoever stands at a position takes over its credit: the
credits stay with the nodes only where candidates leave from the end and strangers come to it
(`credits_kept`).
-/

open Foundation ByteString

namespace LanProxyGateway

namespace NodeBalancer

open SmoothRotation

section Positions

variable {κ : Type} {keys : List κ} {k : κ}

/-- The loop for the best position follows the search for the best key. -/
theorem getElem?_bestFrom (f : κ → ℤ) {rest : List κ} : ∀ {i best : ℕ} {k : κ},
    keys[best]? = some k → keys.drop i = rest → keys[bestFrom i best (f k) (rest.map f)]? =
      some (rest.foldl (fun k' c ↦ if f k' < f c then c else k') k) := by
  induction rest with
  | nil => exact fun hbest _ ↦ hbest
  | cons c rest ih =>
    intro i best k hbest hdrop
    have hc : keys[i]? = some c := by
      rw [← List.head?_drop, hdrop]
      rfl
    have hdrop' : keys.drop (i + 1) = rest := by
      rw [← List.tail_drop, hdrop]
      rfl
    rw [List.map_cons, bestFrom, List.foldl_cons]
    split
    · exact ih hc hdrop'
    · exact ih hbest hdrop'

theorem getElem?_bestIndex (f : κ → ℤ) (keys : List κ) :
    keys[bestIndex (keys.map f)]? = firstMax f keys := by
  cases keys with
  | nil => rfl
  | cons k keys => exact (getElem?_bestFrom f rfl rfl).trans (firstMax_cons f k keys).symm

variable [DecidableEq κ] {f : κ → ℤ}

/-- To change the number at the position of a key is to change that of the key. -/
theorem modify_map (hnodup : keys.Nodup) {i : ℕ} (hi : keys[i]? = some k) (g : ℤ → ℤ) :
    (keys.map f).modify i g = keys.map (Function.update f k (g (f k))) := by
  refine List.ext_getElem? fun j ↦ ?_
  rw [List.getElem?_modify, List.getElem?_map, List.getElem?_map]
  rcases hj : keys[j]? with _ | k'
  · simp
  obtain ⟨hlt, -⟩ := List.getElem?_eq_some_iff.mp hi
  by_cases heq : i = j
  · subst heq
    obtain rfl : k = k' := Option.some.inj (hi.symm.trans hj)
    simp
  · have hne : k' ≠ k := by
      rintro rfl
      exact heq ((List.getElem?_inj hlt hnodup).mp (hi.trans hj.symm))
    simp [heq, hne]

end Positions

/-! ## A pick is a turn -/

/-- The position that `do_weighted_round_robin` picks. -/
def weightedPosition (b : NodeBalancer) (cs : List NodeLoadInfo) : ℕ :=
  bestIndex (List.zipWith (· + ·) (resize cs.length b.wrrCurrentWeights) (cs.map (·.weight)))

def totalWeight (cs : List NodeLoadInfo) : Int := (cs.map (·.weight)).sum

variable {κ : Type} [DecidableEq κ] {keys : List κ} {weight credit : κ → ℤ} {b : NodeBalancer}
  {cs : List NodeLoadInfo}

theorem doWeightedRoundRobin_of_zero (h : totalWeight cs = 0) : b.doWeightedRoundRobin cs =
    (cs.head?.map (·.tag), { b with
      wrrCurrentWeights := resize cs.length b.wrrCurrentWeights }) := if_pos h

theorem doWeightedRoundRobin_of_ne (h : totalWeight cs ≠ 0) : b.doWeightedRoundRobin cs =
    (cs[b.weightedPosition cs]?.map (·.tag), { b with
      wrrCurrentWeights := (List.zipWith (· + ·) (resize cs.length b.wrrCurrentWeights)
        (cs.map (·.weight))).modify (b.weightedPosition cs) (· - totalWeight cs) }) := if_neg h

/-- **A pick is a turn of the keys at the positions**, if the numbers there are their credits. -/
theorem doWeightedRoundRobin_turn (hnodup : keys.Nodup)
    (hweights : cs.map (·.weight) = keys.map weight)
    (hcurrent : resize cs.length b.wrrCurrentWeights = keys.map credit)
    (htotal : totalWeight cs ≠ 0) :
    (turn keys weight credit).1 = keys[b.weightedPosition cs]? ∧
      (b.doWeightedRoundRobin cs).1 = cs[b.weightedPosition cs]?.map (·.tag) ∧
      (b.doWeightedRoundRobin cs).2.wrrCurrentWeights =
        keys.map (turn keys weight credit).2 := by
  have hne : keys ≠ [] := by
    rintro rfl
    exact htotal (congrArg List.sum hweights)
  have hraised : List.zipWith (· + ·) (resize cs.length b.wrrCurrentWeights) (cs.map (·.weight)) =
      keys.map (raise keys weight credit) := by
    rw [hcurrent, hweights, List.zipWith_map, List.zipWith_self]
    exact List.map_congr_left fun k hk ↦ (raise_of_mem hk).symm
  have hposition : keys[b.weightedPosition cs]? = firstMax (raise keys weight credit) keys := by
    rw [weightedPosition, hraised, getElem?_bestIndex]
  have hsome : firstMax (raise keys weight credit) keys ≠ none :=
    fun hnone ↦ hne (firstMax_eq_none.mp hnone)
  obtain ⟨k, hk⟩ := Option.ne_none_iff_exists'.mp hsome
  obtain ⟨hpick, hcredit⟩ := turn_of_firstMax hk
  have hsum : totalWeight cs = total keys weight := congrArg List.sum hweights
  rw [doWeightedRoundRobin_of_ne htotal, hpick, hcredit, hposition, hk]
  refine ⟨rfl, rfl, ?_⟩
  simp only [hraised, hsum]
  exact modify_map hnodup (hposition.trans hk) _

/-! ## Candidates that stay -/

/-- The balancer after some picks among the same candidates. -/
def afterPicks (b : NodeBalancer) (cs : List NodeLoadInfo) (n : ℕ) : NodeBalancer :=
  (fun b ↦ (b.doWeightedRoundRobin cs).2)^[n] b

/-- The weight of the candidate at a position. -/
def weightAt (cs : List NodeLoadInfo) (i : ℕ) : Int := (cs[i]?.map (·.weight)).getD 0

theorem map_weightAt (cs : List NodeLoadInfo) :
    (List.range cs.length).map (weightAt cs) = cs.map (·.weight) := by
  refine List.ext_getElem? fun i ↦ ?_
  rw [List.getElem?_map, List.getElem?_map]
  by_cases hi : i < cs.length
  · rw [List.getElem?_range hi, List.getElem?_eq_getElem hi]
    simp [weightAt, hi]
  · rw [List.getElem?_eq_none (by simpa using hi), List.getElem?_eq_none (not_lt.mp hi)]
    rfl

theorem resize_of_length {n : ℕ} {v : List Int} (h : v.length = n) : resize n v = v := by
  subst h
  rw [resize, List.take_length, Nat.sub_self, List.replicate_zero, List.append_nil]

theorem resize_of_zero {n : ℕ} {v : List Int} (h : ∀ w ∈ v, w = 0) :
    resize n v = (List.range n).map fun _ ↦ 0 := by
  have hzero : ∀ w ∈ resize n v, w = 0 := by
    intro w hw
    rw [resize, List.mem_append] at hw
    rcases hw with hw | hw
    · exact h w (List.mem_of_mem_take hw)
    · exact List.eq_of_mem_replicate hw
  rw [List.eq_replicate_of_mem hzero, length_resize, List.map_const', List.length_range]

/-- The current weights are the credits of the positions. -/
theorem resize_afterPicks (hzero : ∀ w ∈ b.wrrCurrentWeights, w = 0) (htotal : totalWeight cs ≠ 0)
    (n : ℕ) : resize cs.length (b.afterPicks cs n).wrrCurrentWeights =
      (List.range cs.length).map (after (List.range cs.length) (weightAt cs) n) := by
  induction n with
  | zero => exact resize_of_zero hzero
  | succ n ih =>
    obtain ⟨-, -, hcurrent⟩ :=
      doWeightedRoundRobin_turn List.nodup_range (map_weightAt cs).symm ih htotal
    rw [afterPicks, Function.iterate_succ_apply', ← afterPicks, hcurrent, ← after_succ]
    exact resize_of_length (by rw [List.length_map, List.length_range])

/-- **Every pick is a turn of the positions.** -/
theorem afterPicks_turn (hzero : ∀ w ∈ b.wrrCurrentWeights, w = 0) (htotal : totalWeight cs ≠ 0)
    (n : ℕ) : pick (List.range cs.length) (weightAt cs) n =
        (List.range cs.length)[(b.afterPicks cs n).weightedPosition cs]? ∧
      ((b.afterPicks cs n).doWeightedRoundRobin cs).1 =
        cs[(b.afterPicks cs n).weightedPosition cs]?.map (·.tag) ∧
      (b.afterPicks cs (n + 1)).wrrCurrentWeights =
        (List.range cs.length).map (after (List.range cs.length) (weightAt cs) (n + 1)) := by
  obtain ⟨hpick, hreturned, hcurrent⟩ := doWeightedRoundRobin_turn List.nodup_range
    (map_weightAt cs).symm (resize_afterPicks hzero htotal n) htotal
  refine ⟨hpick, hreturned, ?_⟩
  rw [afterPicks, Function.iterate_succ_apply', ← afterPicks, hcurrent, ← after_succ]

/-- What the picks among candidates that stay look like. -/
structure Proportional (b : NodeBalancer) (cs : List NodeLoadInfo) : Prop where
  /-- Every pick is that of a position. -/
  picks : ∀ n, ∃ c, cs[(b.afterPicks cs n).weightedPosition cs]? = some c ∧
    ((b.afterPicks cs n).doWeightedRoundRobin cs).1 = some c.tag
  /-- Among as many picks as the weights sum to, each position has as many as its weight says. -/
  shares : ∀ i c, cs[i]? = some c → ∀ n,
    (Nat.count (fun m ↦ (b.afterPicks cs (n + m)).weightedPosition cs = i)
      (totalWeight cs).toNat : Int) = c.weight
  settled : ∀ w ∈ (b.afterPicks cs (totalWeight cs).toNat).wrrCurrentWeights, w = 0
  sum : ∀ n, (b.afterPicks cs n).wrrCurrentWeights.sum = 0
  bound : ∀ n, ∀ w ∈ (b.afterPicks cs n).wrrCurrentWeights, -totalWeight cs < w

theorem totalWeight_pos (hne : cs ≠ []) (hweights : ∀ c ∈ cs, 1 ≤ c.weight) :
    0 < totalWeight cs := by
  cases cs with
  | nil => exact absurd rfl hne
  | cons c cs =>
    rw [List.forall_mem_cons] at hweights
    have hnonneg : 0 ≤ (cs.map (·.weight)).sum := by
      refine List.sum_nonneg fun w hw ↦ ?_
      obtain ⟨c, hc, rfl⟩ := List.mem_map.mp hw
      exact Int.le_of_lt (hweights.2 c hc)
    rw [totalWeight, List.map_cons, List.sum_cons]
    exact Int.add_pos_of_pos_of_nonneg hweights.1 hnonneg

theorem weightedPosition_lt (b : NodeBalancer) (hne : cs ≠ []) :
    b.weightedPosition cs < cs.length := by
  have hlength : (List.zipWith (· + ·) (resize cs.length b.wrrCurrentWeights)
      (cs.map (·.weight))).length = cs.length := by
    rw [List.length_zipWith, length_resize, List.length_map, Nat.min_self]
  refine (bestIndex_lt ?_).trans_eq hlength
  rw [hlength]
  exact List.length_pos_iff.mpr hne

theorem total_weightAt (cs : List NodeLoadInfo) :
    total (List.range cs.length) (weightAt cs) = totalWeight cs :=
  congrArg List.sum (map_weightAt cs)

theorem weightAt_nonneg (hweights : ∀ c ∈ cs, 1 ≤ c.weight) {i : ℕ}
    (hi : i ∈ List.range cs.length) : 0 ≤ weightAt cs i := by
  rw [List.mem_range] at hi
  rw [weightAt, List.getElem?_eq_getElem hi]
  exact Int.le_of_lt (hweights _ (List.getElem_mem hi))

/-- The current weights themselves, or zeros of which there may be more or less. -/
theorem wrrCurrentWeights_afterPicks (hzero : ∀ w ∈ b.wrrCurrentWeights, w = 0)
    (htotal : totalWeight cs ≠ 0) (n : ℕ) :
    (∀ w ∈ (b.afterPicks cs n).wrrCurrentWeights, w = 0) ∨
      (b.afterPicks cs n).wrrCurrentWeights =
        (List.range cs.length).map (after (List.range cs.length) (weightAt cs) n) := by
  cases n with
  | zero => exact .inl hzero
  | succ n => exact .inr (afterPicks_turn hzero htotal n).2.2

/-- **Weighted round robin is exactly proportional**, among the same candidates and from no credits
and debts. -/
theorem proportional (b : NodeBalancer) (cs : List NodeLoadInfo) (hne : cs ≠ [])
    (hweights : ∀ c ∈ cs, 1 ≤ c.weight ∧ c.weight ≤ 100)
    (hzero : ∀ w ∈ b.wrrCurrentWeights, w = 0) : Proportional b cs := by
  have hpos : 0 < totalWeight cs := totalWeight_pos hne fun c hc ↦ (hweights c hc).1
  have hnonneg : ∀ i ∈ List.range cs.length, 0 ≤ weightAt cs i :=
    fun i ↦ weightAt_nonneg fun c hc ↦ (hweights c hc).1
  have htotal : 0 < total (List.range cs.length) (weightAt cs) := (total_weightAt cs).symm ▸ hpos
  have hcycle : cycle (List.range cs.length) (weightAt cs) = (totalWeight cs).toNat :=
    congrArg Int.toNat (total_weightAt cs)
  have hbalanced := balanced_after List.nodup_range hnonneg htotal
  have hlt := fun n ↦ weightedPosition_lt (b.afterPicks cs n) hne
  have hpick : ∀ n, pick (List.range cs.length) (weightAt cs) n =
      some ((b.afterPicks cs n).weightedPosition cs) := fun n ↦
    (afterPicks_turn hzero hpos.ne' n).1.trans (List.getElem?_range (hlt n))
  constructor
  case picks =>
    intro n
    refine ⟨_, List.getElem?_eq_getElem (hlt n), ?_⟩
    rw [(afterPicks_turn hzero hpos.ne' n).2.1, List.getElem?_eq_getElem (hlt n)]
    rfl
  case shares =>
    intro i c hi n
    have hmem : i ∈ List.range cs.length :=
      List.mem_range.mpr (List.getElem?_eq_some_iff.mp hi).1
    have hcount := count_picks List.nodup_range hnonneg htotal hmem n
    simp only [hpick, Option.some.injEq, hcycle, weightAt, hi, Option.map_some,
      Option.getD_some] at hcount
    exact hcount
  case settled =>
    rcases wrrCurrentWeights_afterPicks hzero hpos.ne' (totalWeight cs).toNat with h | h
    · exact h
    · rw [h, ← hcycle, after_total List.nodup_range hnonneg htotal]
      intro w hw
      obtain ⟨i, -, rfl⟩ := List.mem_map.mp hw
      rfl
  case sum =>
    intro n
    rcases wrrCurrentWeights_afterPicks hzero hpos.ne' n with h | h
    · exact List.sum_eq_zero h
    · rw [h]
      exact (hbalanced n).sum
  case bound =>
    intro n w hw
    rcases wrrCurrentWeights_afterPicks hzero hpos.ne' n with h | h
    · rw [h w hw]
      exact Int.neg_neg_of_pos hpos
    · rw [h] at hw
      obtain ⟨i, hi, rfl⟩ := List.mem_map.mp hw
      rw [← total_weightAt]
      exact (hbalanced n).bound i hi

/-- Three candidates with the weights five, one and one, of a balancer that has picked nothing
yet. -/
def sampleCandidates : List NodeLoadInfo :=
  [{ tag := ofString "a", weight := 5 }, { tag := ofString "b", weight := 1 },
    { tag := ofString "c", weight := 1 }]

theorem proportional_sampleCandidates : Proportional {} sampleCandidates :=
  proportional {} sampleCandidates (List.cons_ne_nil _ _) (by decide)
    fun _ hw ↦ absurd hw List.not_mem_nil

/-- The picks of the first are spread over the cycle. -/
example : (List.range 7).map (fun n ↦
    (({} : NodeBalancer).afterPicks sampleCandidates n).weightedPosition sampleCandidates) =
    [0, 0, 1, 0, 2, 0, 0] := by decide

/-! ## Candidates that come and go -/

/-- The weight of the candidate with a tag. -/
def weightOf (cs : List NodeLoadInfo) (tag : ByteString) : Int :=
  ((cs.find? (·.tag = tag)).map (·.weight)).getD 0

theorem map_weightOf (hnodup : (cs.map (·.tag)).Nodup) :
    cs.map (·.weight) = (cs.map (·.tag)).map (weightOf cs) := by
  rw [List.map_map]
  refine List.map_congr_left fun c hc ↦ ?_
  have hfound := (find?_key_eq_some_iff hnodup).mpr ⟨hc, rfl⟩
  rw [Function.comp_apply, weightOf, hfound]
  rfl

/-- The rotation as it is meant: each node has its own credit. Without weights there is nothing to
share out. -/
def creditTurn (credit : ByteString → ℤ) (cs : List NodeLoadInfo) :
    Option ByteString × (ByteString → ℤ) :=
  if totalWeight cs = 0 then (cs.head?.map (·.tag), credit)
  else turn (cs.map (·.tag)) (weightOf cs) credit

/-- A balancer, the credits that the nodes should have, the nodes of the last call and those of any
call so far. -/
structure Rotation where
  balancer : NodeBalancer
  credit : ByteString → ℤ := 0
  last : List ByteString := []
  seen : List ByteString := []

namespace Rotation

/-- A call with some candidates. -/
def call (r : Rotation) (cs : List NodeLoadInfo) : Rotation where
  balancer := (r.balancer.doWeightedRoundRobin cs).2
  credit := (creditTurn r.credit cs).2
  last := cs.map (·.tag)
  seen := cs.map (·.tag) ++ r.seen

/-- The tags that the calls of a history return. -/
def picks (r : Rotation) : List (List NodeLoadInfo) → List (Option ByteString)
  | [] => []
  | cs :: history => (r.balancer.doWeightedRoundRobin cs).1 :: (r.call cs).picks history

/-- The tags that they should return. -/
def creditPicks (r : Rotation) : List (List NodeLoadInfo) → List (Option ByteString)
  | [] => []
  | cs :: history => (creditTurn r.credit cs).1 :: (r.call cs).creditPicks history

/-- Nodes keep their positions: some of the last leave, or some come behind them that have never
been there. -/
def KeepsPlaces (r : Rotation) (cs : List NodeLoadInfo) : Prop :=
  (cs.map (·.tag)).Nodup ∧ (cs.map (·.tag) <+: r.last ∨
    ∃ new, cs.map (·.tag) = r.last ++ new ∧ ∀ tag ∈ new, tag ∉ r.seen)

/-- Every call of a history keeps the places. -/
def Settled (r : Rotation) : List (List NodeLoadInfo) → Prop
  | [] => True
  | cs :: history => r.KeepsPlaces cs ∧ (r.call cs).Settled history

/-- The number at each position is the credit of the node that stood there at the last call. -/
structure Owned (r : Rotation) : Prop where
  weights : r.balancer.wrrCurrentWeights = r.last.map r.credit
  seen : r.last ⊆ r.seen
  strangers : ∀ tag, tag ∉ r.seen → r.credit tag = 0

variable {r : Rotation} {history : List (List NodeLoadInfo)}

/-- The candidates find their own credits. -/
theorem Owned.resize_eq (h : r.Owned) (hplaces : r.KeepsPlaces cs) :
    resize cs.length r.balancer.wrrCurrentWeights = (cs.map (·.tag)).map r.credit := by
  have hlength : cs.length = (cs.map (·.tag)).length := (List.length_map _).symm
  rw [h.weights, hlength]
  rcases hplaces.2 with ⟨gone, hgone⟩ | ⟨new, hnew, hstrangers⟩
  · rw [← hgone, resize, List.map_append, List.take_left' (List.length_map _),
      Nat.sub_eq_zero_of_le, List.replicate_zero, List.append_nil]
    simp only [List.length_append, List.length_map]
    exact Nat.le_add_right _ _
  · have hzero : new.map r.credit = List.replicate new.length 0 := by
      refine List.eq_replicate_iff.mpr ⟨List.length_map _, fun w hw ↦ ?_⟩
      obtain ⟨tag, htag, rfl⟩ := List.mem_map.mp hw
      exact h.strangers tag (hstrangers tag htag)
    rw [hnew, resize, List.map_append, hzero, List.length_append, List.length_map,
      Nat.add_sub_cancel_left, List.take_of_length_le]
    rw [List.length_map]
    exact Nat.le_add_right _ _

/-- **A call that keeps the places** picks whom it should, and the credits stay with the nodes. -/
theorem Owned.call (h : r.Owned) (hplaces : r.KeepsPlaces cs) :
    (r.balancer.doWeightedRoundRobin cs).1 = (creditTurn r.credit cs).1 ∧ (r.call cs).Owned := by
  have hcurrent := h.resize_eq hplaces
  have hseen : (r.call cs).last ⊆ (r.call cs).seen := List.subset_append_left _ _
  by_cases htotal : totalWeight cs = 0
  · have hcredit : creditTurn r.credit cs = (cs.head?.map (·.tag), r.credit) := if_pos htotal
    rw [doWeightedRoundRobin_of_zero htotal, hcredit]
    refine ⟨rfl, ?_, hseen, fun tag htag ↦ ?_⟩
    · simp only [Rotation.call, doWeightedRoundRobin_of_zero htotal, hcredit, hcurrent]
    · simp only [Rotation.call, hcredit]
      exact h.strangers tag fun hmem ↦ htag (List.mem_append_right _ hmem)
  · have hcredit : creditTurn r.credit cs = turn (cs.map (·.tag)) (weightOf cs) r.credit :=
      if_neg htotal
    obtain ⟨hpick, hreturned, hweights⟩ :=
      doWeightedRoundRobin_turn hplaces.1 (map_weightOf hplaces.1) hcurrent htotal
    refine ⟨?_, ?_, hseen, fun tag htag ↦ ?_⟩
    · rw [hcredit, hreturned, hpick, List.getElem?_map]
    · simp only [Rotation.call, hcredit]
      exact hweights
    · obtain ⟨hnot, hstranger⟩ := not_or.mp (List.mem_append.not.mp htag)
      simp only [Rotation.call, hcredit, turn_of_not_mem hnot]
      exact h.strangers tag hstranger

theorem Owned.picks_eq (h : r.Owned) (hsettled : r.Settled history) :
    r.picks history = r.creditPicks history ∧ (history.foldl Rotation.call r).Owned := by
  induction history generalizing r with
  | nil => exact ⟨rfl, h⟩
  | cons cs history ih =>
    obtain ⟨hpick, howned⟩ := h.call hsettled.1
    obtain ⟨hpicks, hlast⟩ := ih howned hsettled.2
    exact ⟨congrArg₂ List.cons hpick hpicks, hlast⟩

theorem Settled.of_append {pre post : List (List NodeLoadInfo)} (h : r.Settled (pre ++ post)) :
    r.Settled pre := by
  induction pre generalizing r with
  | nil => trivial
  | cons cs pre ih => exact ⟨h.1, ih h.2⟩

/-- A balancer that has not picked yet. -/
theorem owned_start (hnone : b.wrrCurrentWeights = []) : Owned { balancer := b } :=
  ⟨hnone, List.nil_subset _, fun _ _ ↦ rfl⟩

/-- **When the credits belong to the nodes.** In every history whose calls keep the places, the
picks are those of the rotation with a credit for each node, and after every call the numbers at the
positions are the credits of the nodes there. -/
theorem credits_kept (b : NodeBalancer) (hnone : b.wrrCurrentWeights = [])
    (history : List (List NodeLoadInfo)) (hsettled : Settled { balancer := b } history) :
    picks { balancer := b } history = creditPicks { balancer := b } history ∧
      ∀ pre, pre <+: history → (pre.foldl call { balancer := b }).Owned := by
  refine ⟨((owned_start hnone).picks_eq hsettled).1, ?_⟩
  rintro pre ⟨post, rfl⟩
  exact ((owned_start hnone).picks_eq hsettled.of_append).2

/-- Two nodes, and the first of them again without the second. -/
def sampleHistory : List (List NodeLoadInfo) :=
  [[{ tag := ofString "a" }, { tag := ofString "b" }], [{ tag := ofString "a" }],
    [{ tag := ofString "a" }, { tag := ofString "c" }]]

theorem credits_kept_sampleHistory :
    picks { balancer := {} } sampleHistory = creditPicks { balancer := {} } sampleHistory ∧
      ∀ pre, pre <+: sampleHistory → (pre.foldl call { balancer := {} }).Owned := by
  refine credits_kept {} rfl sampleHistory ⟨?_, ?_, ?_, trivial⟩
  · exact ⟨by decide, .inr ⟨_, rfl, by decide⟩⟩
  · exact ⟨by decide, .inl ⟨[ofString "b"], rfl⟩⟩
  · exact ⟨by decide, .inr ⟨[ofString "c"], rfl, by decide⟩⟩

/-- The first of two nodes goes after it has been picked, and the second one pays its debt. -/
theorem inherits_sampleHistory :
    picks { balancer := {} } [[{ tag := ofString "a" }, { tag := ofString "b" }],
      [{ tag := ofString "b" }, { tag := ofString "c" }]] ≠
    creditPicks { balancer := {} } [[{ tag := ofString "a" }, { tag := ofString "b" }],
      [{ tag := ofString "b" }, { tag := ofString "c" }]] := by
  decide

end Rotation

end NodeBalancer

end LanProxyGateway
