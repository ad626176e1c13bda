import LanProxyGateway.Concurrency.NodeBalancer
import LanProxyGateway.Foundation.Extremes

/-!
# The lowest latency

`do_lowest_latency` keeps the candidates whose latency is within ten of the least measured one, and
of these takes the one with the fewest connections. A latency that has not been measured is zero,
which is within ten of anything: the candidate is kept, and chosen unless another has fewer
connections. And where no latency has been measured the least is `INT_MAX`, to which ten is added.
-/

open Foundation

namespace LanProxyGateway

namespace NodeBalancer

variable {cs : List NodeLoadInfo} {c d m : NodeLoadInfo}

/-! ## The node behind the tag -/

/-- The node with the fewest connections, the first of several. -/
def leastConnected (cs : List NodeLoadInfo) : Option NodeLoadInfo :=
  firstMin (·.activeConnections) cs

theorem doLeastConnections_eq (cs : List NodeLoadInfo) :
    doLeastConnections cs = (leastConnected cs).map (·.tag) := by
  cases cs with
  | nil => rfl
  | cons first rest =>
    rw [leastConnected, firstMin_cons]
    rfl

/-- `low_latency`. -/
def lowLatency (cs : List NodeLoadInfo) : List NodeLoadInfo :=
  cs.filter (·.latencyMs ≤ Json.castInt (minLatency cs + 10))

/-- The node whose tag `do_lowest_latency` returns. -/
def lowestLatencyNode (cs : List NodeLoadInfo) : Option NodeLoadInfo :=
  if (lowLatency cs).isEmpty then leastConnected cs else leastConnected (lowLatency cs)

theorem doLowestLatency_eq (cs : List NodeLoadInfo) :
    doLowestLatency cs = (lowestLatencyNode cs).map (·.tag) := by
  rw [doLowestLatency, lowestLatencyNode, apply_ite (Option.map _), ← doLeastConnections_eq,
    ← doLeastConnections_eq]
  rfl

/-! ## The least measured latency -/

/-- The latency has been measured, and none that has is smaller by more than ten. -/
def NearLowest (cs : List NodeLoadInfo) (c : NodeLoadInfo) : Prop :=
  0 < c.latencyMs ∧ ∀ d ∈ cs, 0 < d.latencyMs → c.latencyMs ≤ d.latencyMs + 10

/-- The loop, from some bound on. -/
def leastFrom (least : Int) (cs : List NodeLoadInfo) : Int :=
  cs.foldl (fun least c ↦
    if 0 < c.latencyMs ∧ c.latencyMs < least then c.latencyMs else least) least

theorem leastFrom_cons (least : Int) (c : NodeLoadInfo) (cs : List NodeLoadInfo) :
    leastFrom least (c :: cs) =
      leastFrom (if 0 < c.latencyMs ∧ c.latencyMs < least then c.latencyMs else least) cs := rfl

theorem leastFrom_le (cs : List NodeLoadInfo) (least : Int) : leastFrom least cs ≤ least := by
  induction cs generalizing least with
  | nil => exact le_refl least
  | cons c cs ih =>
    rw [leastFrom_cons]
    refine (ih _).trans ?_
    split
    · rename_i hlt
      exact hlt.2.le
    · exact le_refl least

theorem leastFrom_le_latency (hc : c ∈ cs) (hmeasured : 0 < c.latencyMs) (least : Int) :
    leastFrom least cs ≤ c.latencyMs := by
  induction cs generalizing least with
  | nil => exact absurd hc List.not_mem_nil
  | cons d cs ih =>
    rw [leastFrom_cons]
    obtain rfl | hc := List.mem_cons.mp hc
    · refine (leastFrom_le cs _).trans ?_
      split
      · exact le_refl c.latencyMs
      · rename_i hnot
        exact not_lt.mp fun hlt ↦ hnot ⟨hmeasured, hlt⟩
    · exact ih hc _

theorem leastFrom_mem (cs : List NodeLoadInfo) (least : Int) : leastFrom least cs = least ∨
    ∃ c ∈ cs, 0 < c.latencyMs ∧ c.latencyMs = leastFrom least cs := by
  induction cs generalizing least with
  | nil => exact .inl rfl
  | cons c cs ih =>
    rw [leastFrom_cons]
    obtain heq | ⟨d, hd, hfound⟩ := ih (if 0 < c.latencyMs ∧ c.latencyMs < least then c.latencyMs
      else least)
    · rw [heq]
      split
      · rename_i hlt
        exact .inr ⟨c, List.mem_cons_self, hlt.1, rfl⟩
      · exact .inl rfl
    · exact .inr ⟨d, List.mem_cons_of_mem c hd, hfound⟩

theorem minLatency_le (hc : c ∈ cs) (hmeasured : 0 < c.latencyMs) :
    minLatency cs ≤ c.latencyMs := leastFrom_le_latency hc hmeasured 2147483647

theorem exists_minLatency (h : minLatency cs + 10 ≤ 2147483647) :
    ∃ c ∈ cs, 0 < c.latencyMs ∧ c.latencyMs = minLatency cs := by
  refine (leastFrom_mem cs 2147483647).resolve_left fun hmax ↦ ?_
  have hmax : minLatency cs = 2147483647 := hmax
  omega

/-- The addition is one of `int` exactly if some latency leaves room for it. -/
theorem minLatency_add_le_iff : minLatency cs + 10 ≤ 2147483647 ↔
    ∃ c ∈ cs, 0 < c.latencyMs ∧ c.latencyMs ≤ 2147483637 := by
  constructor
  · intro h
    obtain ⟨c, hc, hmeasured, heq⟩ := exists_minLatency h
    exact ⟨c, hc, hmeasured, by omega⟩
  · rintro ⟨c, hc, hmeasured, hle⟩
    have := minLatency_le hc hmeasured
    omega

/-- A candidate is kept if it is near the lowest, or has not been measured. -/
theorem mem_lowLatency_iff (h : minLatency cs + 10 ≤ 2147483647) :
    c ∈ lowLatency cs ↔ c ∈ cs ∧ (NearLowest cs c ∨ c.latencyMs ≤ 0) := by
  obtain ⟨least, hleast, hmeasured, heq⟩ := exists_minLatency h
  rw [lowLatency, List.mem_filter, decide_eq_true_eq, Json.castInt_of_bounds (by omega) h]
  refine and_congr_right fun hc ↦ ⟨fun hle ↦ ?_, ?_⟩
  · obtain hzero | hpos := le_or_gt c.latencyMs 0
    · exact .inr hzero
    · refine .inl ⟨hpos, fun d hd hd' ↦ hle.trans ?_⟩
      exact Int.add_le_add_right (minLatency_le hd hd') 10
  · rintro (hnear | hzero)
    · rw [← heq]
      exact hnear.2 least hleast hmeasured
    · omega

/-! ## The choice -/

/-- What the choice of the lowest latency should be. -/
structure ChoosesLowLatency (cs : List NodeLoadInfo) : Prop where
  /-- `min_latency + 10` is an `int`. -/
  noOverflow : minLatency cs + 10 ≤ 2147483647
  measured : (∃ c ∈ cs, 0 < c.latencyMs) → ∃ c ∈ cs, lowestLatencyNode cs = some c ∧
    doLowestLatency cs = some c.tag ∧ NearLowest cs c ∧
    ∀ d ∈ cs, NearLowest cs d → c.activeConnections ≤ d.activeConnections
  unmeasured : (∀ c ∈ cs, c.latencyMs ≤ 0) → doLowestLatency cs = doLeastConnections cs

/-- A candidate that is near the lowest has fewer connections than another, or as many and stands
before it. -/
def Beaten (cs : List NodeLoadInfo) (d : NodeLoadInfo) : Prop :=
  ∃ c ∈ cs, NearLowest cs c ∧ (c.activeConnections < d.activeConnections ∨
    c.activeConnections = d.activeConnections ∧ cs.idxOf c < cs.idxOf d)

/-- A filter keeps the order of what it keeps. -/
theorem idxOf_le_of_filter {α : Type} [DecidableEq α] {p : α → Bool} {a b : α} {l : List α}
    (h : (l.filter p).idxOf a ≤ (l.filter p).idxOf b) (hb : p b) :
    l.idxOf a ≤ l.idxOf b := by
  induction l with
  | nil => exact le_refl _
  | cons x l ih =>
    rw [List.filter_cons] at h
    by_cases hxa : x = a
    · rw [List.idxOf_cons_eq l hxa]
      exact Nat.zero_le _
    rw [List.idxOf_cons_ne l hxa]
    by_cases hxb : x = b
    · subst hxb
      rw [if_pos hb, List.idxOf_cons_ne _ hxa, List.idxOf_cons_self] at h
      exact absurd h (Nat.not_succ_le_zero _)
    rw [List.idxOf_cons_ne l hxb]
    split at h
    · rw [List.idxOf_cons_ne _ hxa, List.idxOf_cons_ne _ hxb] at h
      exact Nat.succ_le_succ (ih (Nat.le_of_succ_le_succ h))
    · exact Nat.succ_le_succ (ih h)

theorem lowLatency_ne_nil (h : minLatency cs + 10 ≤ 2147483647) : lowLatency cs ≠ [] := by
  obtain ⟨c, hc, hmeasured, heq⟩ := exists_minLatency h
  refine List.ne_nil_of_mem ((mem_lowLatency_iff h).mpr ⟨hc, .inl ⟨hmeasured, fun d hd hd' ↦ ?_⟩⟩)
  have := minLatency_le hd hd'
  omega

theorem lowestLatencyNode_eq (h : minLatency cs + 10 ≤ 2147483647) :
    lowestLatencyNode cs = leastConnected (lowLatency cs) :=
  if_neg fun hempty ↦ lowLatency_ne_nil h (List.isEmpty_iff.mp hempty)

theorem exists_lowestLatencyNode (h : minLatency cs + 10 ≤ 2147483647) :
    ∃ m, lowestLatencyNode cs = some m := by
  rw [lowestLatencyNode_eq h, ← Option.ne_none_iff_exists', leastConnected, Ne, firstMin_eq_none]
  exact lowLatency_ne_nil h

/-- The node that is chosen is not beaten by one that has been kept. -/
theorem not_beaten (h : minLatency cs + 10 ≤ 2147483647) (hm : lowestLatencyNode cs = some m) :
    ¬ Beaten cs m := by
  rw [lowestLatencyNode_eq h, leastConnected, firstMin_eq_some_iff] at hm
  obtain ⟨hmem, hleast, hfirst⟩ := hm
  rintro ⟨c, hc, hnear, hlt | ⟨heq, hlt⟩⟩
  · exact hlt.not_ge (hleast c ((mem_lowLatency_iff h).mpr ⟨hc, .inl hnear⟩))
  · have hkept : c ∈ lowLatency cs := (mem_lowLatency_iff h).mpr ⟨hc, .inl hnear⟩
    have hle := hfirst c hkept heq.le
    exact hlt.not_ge (idxOf_le_of_filter hle (List.mem_filter.mp hkept).2)

/-- **When the lowest latency is chosen.** Some latency has been measured, and each node whose
latency has not been is beaten by one near the lowest. -/
theorem choosesLowLatency_iff (cs : List NodeLoadInfo) : ChoosesLowLatency cs ↔
    (∃ c ∈ cs, 0 < c.latencyMs ∧ c.latencyMs ≤ 2147483637) ∧
      ∀ d ∈ cs, d.latencyMs ≤ 0 → Beaten cs d := by
  rw [← minLatency_add_le_iff]
  constructor
  · intro hchooses
    refine ⟨hchooses.noOverflow, fun d hd hzero ↦ ?_⟩
    obtain ⟨least, hleast, hmeasured, -⟩ := exists_minLatency hchooses.noOverflow
    obtain ⟨c, hc, hnode, -, hnear, -⟩ := hchooses.measured ⟨least, hleast, hmeasured⟩
    rw [lowestLatencyNode_eq hchooses.noOverflow, leastConnected, firstMin_eq_some_iff] at hnode
    obtain ⟨hmem, hfewest, hfirst⟩ := hnode
    have hkept : d ∈ lowLatency cs := (mem_lowLatency_iff hchooses.noOverflow).mpr ⟨hd, .inr hzero⟩
    refine ⟨c, hc, hnear, (hfewest d hkept).lt_or_eq.imp_right fun heq ↦ ⟨heq, ?_⟩⟩
    have hle := idxOf_le_of_filter (hfirst d hkept heq.ge) (List.mem_filter.mp hkept).2
    refine lt_of_le_of_ne hle fun hidx ↦ ?_
    obtain rfl := (List.idxOf_inj hc).mp hidx
    exact hnear.1.not_ge hzero
  · rintro ⟨hover, hbeaten⟩
    obtain ⟨least, hleast, hmeasured, -⟩ := exists_minLatency hover
    refine ⟨hover, fun _ ↦ ?_, fun hall ↦ absurd (hall least hleast) hmeasured.not_ge⟩
    obtain ⟨m, hm⟩ := exists_lowestLatencyNode hover
    have hmin := hm
    rw [lowestLatencyNode_eq hover, leastConnected, firstMin_eq_some_iff] at hmin
    obtain ⟨hmem, hfewest, -⟩ := hmin
    obtain ⟨hmcs, hnear | hzero⟩ := (mem_lowLatency_iff hover).mp hmem
    · refine ⟨m, hmcs, hm, ?_, hnear, fun d hd hd' ↦ ?_⟩
      · rw [doLowestLatency_eq, hm, Option.map_some]
      · exact hfewest d ((mem_lowLatency_iff hover).mpr ⟨hd, .inl hd'⟩)
    · exact absurd (hbeaten m hmcs hzero) (not_beaten hover hm)

/-- A node that has been measured, and one that has not and has no connections. -/
def sampleMixed : List NodeLoadInfo :=
  [{ tag := ByteString.ofString "a", latencyMs := 50, activeConnections := 3 },
    { tag := ByteString.ofString "b" }]

/-- The one that has not been measured is chosen, and where none has been the sum overflows. -/
theorem not_choosesLowLatency_sampleMixed : ¬ ChoosesLowLatency sampleMixed ∧
    ¬ ChoosesLowLatency [{ tag := ByteString.ofString "b" }] := by
  constructor
  · intro h
    obtain ⟨c, -, hnode, -, hnear, -⟩ := h.measured ⟨_, List.mem_cons_self, by decide⟩
    have hb : lowestLatencyNode sampleMixed = some { tag := ByteString.ofString "b" } := by decide
    obtain rfl := Option.some.inj (hnode.symm.trans hb)
    exact absurd hnear.1 (by decide)
  · intro h
    exact absurd h.noOverflow (by decide)

end NodeBalancer

end LanProxyGateway
