import LanProxyGateway.Concurrency.IpAffinityTable
import LanProxyGateway.Foundation.Run

/-!
# Do the list and the index of the affinity table agree?

They do as long as nothing is cleaned up. A cleanup takes the address of every expired record out of
the index and leaves the record in the list, where it takes up room; when the client comes back
there is a second record of its address. The one cleanup that does no harm is a cleanup that finds
nothing to do.

The loop that makes room for a new record empties the list and then asks for its last element when
there is no room for one record. So a table for no records cannot take the first.
-/

open Foundation

namespace LanProxyGateway

namespace IpAffinityTable

/-! ## The representation -/

/-- The list and the index hold the same addresses, each once, and an entry of the index leads to
the node of its address. -/
structure Sound (t : IpAffinityTable) : Prop where
  addresses : (t.lru.map (·.clientIp)).Nodup
  index : ∀ ip it, t.index.lookup ip = some it ↔
    ∃ node ∈ t.lru, node.clientIp = ip ∧ node.iterator = it
  recency : t.lru.Pairwise fun a b ↦ b.lastAccess ≤ a.lastAccess
  length_le : (t.lru.length : Int) ≤ max t.maxRecords 0

/-- What is known of a sound table besides: no two nodes have one iterator, and every access is
past. -/
structure Kept (now : SteadyTime) (t : IpAffinityTable) : Prop extends Sound t where
  iterators : (t.lru.map (·.iterator)).Nodup
  fresh : ∀ node ∈ t.lru, node.iterator < t.fresh
  past : ∀ node ∈ t.lru, node.lastAccess ≤ now

variable {now : SteadyTime} {t u : IpAffinityTable} {gone kept : List LruNode} {node : LruNode}
  {ip : ByteString} {it : Iterator}

theorem Kept.mono {now' : SteadyTime} (h : Kept now t) (hle : now ≤ now') : Kept now' t where
  toSound := h.toSound
  iterators := h.iterators
  fresh := h.fresh
  past node hnode := (h.past node hnode).trans hle

theorem Kept.lookup_eq_none_iff (h : Kept now t) :
    t.index.lookup ip = none ↔ ip ∉ t.lru.map (·.clientIp) := by
  rw [Option.eq_none_iff_forall_ne_some, List.mem_map]
  constructor
  · rintro hnone ⟨node, hnode, rfl⟩
    exact hnone node.iterator ((h.index _ _).mpr ⟨node, hnode, rfl, rfl⟩)
  · rintro hnot it hsome
    obtain ⟨node, hnode, hip, -⟩ := (h.index _ _).mp hsome
    exact hnot ⟨node, hnode, hip⟩

/-- An entry of the index is followed to the node of its address. -/
theorem Kept.deref (h : Kept now t) (hindex : t.index.lookup ip = some it) :
    ∃ node ∈ t.lru, node.clientIp = ip ∧ node.iterator = it ∧ t.deref it = .ok node := by
  obtain ⟨node, hnode, rfl, rfl⟩ := (h.index _ _).mp hindex
  obtain ⟨found, hfound, hiterator, hderef⟩ := exists_deref_eq hnode
  obtain rfl := List.inj_on_of_nodup_map h.iterators hfound hnode hiterator
  exact ⟨found, hfound, rfl, rfl, hderef⟩

/-! ## Nodes that leave and nodes that come -/

/-- Some nodes leave the list and their addresses the index. -/
theorem Kept.remove (h : Kept now t) (hperm : (gone ++ kept).Perm t.lru) (hsub : kept.Sublist t.lru)
    (hlru : u.lru = kept) (hmax : u.maxRecords = t.maxRecords) (hfresh : u.fresh = t.fresh)
    (hindex : ∀ ip, u.index.lookup ip =
      if ip ∈ gone.map (·.clientIp) then none else t.index.lookup ip) : Kept now u := by
  have haddresses : ((gone ++ kept).map (·.clientIp)).Nodup :=
    (hperm.map _).nodup_iff.mpr h.addresses
  rw [List.map_append, List.nodup_append] at haddresses
  obtain ⟨-, hkept, hdisjoint⟩ := haddresses
  refine ⟨⟨?_, ?_, ?_, ?_⟩, ?_, ?_, ?_⟩
  · rwa [hlru]
  · intro ip it
    rw [hindex, hlru]
    constructor
    · intro hsome
      split at hsome
      · cases hsome
      · rename_i hnot
        obtain ⟨node, hnode, rfl, rfl⟩ := (h.index _ _).mp hsome
        rcases List.mem_append.mp (hperm.mem_iff.mpr hnode) with hmem | hmem
        · exact absurd (List.mem_map_of_mem hmem) hnot
        · exact ⟨node, hmem, rfl, rfl⟩
    · rintro ⟨node, hnode, rfl, rfl⟩
      rw [if_neg fun hmem ↦ hdisjoint _ hmem _ (List.mem_map_of_mem hnode) rfl]
      exact (h.index _ _).mpr ⟨node, hsub.mem hnode, rfl, rfl⟩
  · rw [hlru]
    exact h.recency.sublist hsub
  · rw [hlru, hmax]
    exact (Int.ofNat_le.mpr hsub.length_le).trans h.length_le
  · rw [hlru]
    exact h.iterators.sublist (hsub.map _)
  · rw [hlru, hfresh]
    exact fun node hnode ↦ h.fresh node (hsub.mem hnode)
  · rw [hlru]
    exact fun node hnode ↦ h.past node (hsub.mem hnode)

/-- A node with an address and an iterator of its own comes to the front. -/
theorem Kept.push (h : Kept now t) (hip : node.clientIp ∉ t.lru.map (·.clientIp))
    (hit : node.iterator ∉ t.lru.map (·.iterator)) (hnow : node.lastAccess = now)
    (hroom : (t.lru.length : Int) + 1 ≤ max t.maxRecords 0)
    (hlru : u.lru = node :: t.lru) (hmax : u.maxRecords = t.maxRecords)
    (hle : t.fresh ≤ u.fresh) (hfresh : node.iterator < u.fresh)
    (hindex : ∀ ip, u.index.lookup ip =
      if ip = node.clientIp then some node.iterator else t.index.lookup ip) : Kept now u := by
  refine ⟨⟨?_, ?_, ?_, ?_⟩, ?_, ?_, ?_⟩
  · rw [hlru, List.map_cons, List.nodup_cons]
    exact ⟨hip, h.addresses⟩
  · intro ip it
    rw [hindex, hlru, List.exists_mem_cons_iff]
    split
    · rename_i heq
      subst heq
      constructor
      · rintro ⟨⟩
        exact .inl ⟨rfl, rfl⟩
      · rintro (⟨-, rfl⟩ | ⟨other, hother, hsame, -⟩)
        · rfl
        · exact absurd (hsame ▸ List.mem_map_of_mem hother) hip
    · rename_i hne
      rw [h.index, or_iff_right]
      exact fun hand ↦ hne hand.1.symm
  · rw [hlru, List.pairwise_cons]
    exact ⟨fun other hother ↦ hnow ▸ h.past other hother, h.recency⟩
  · rw [hlru, hmax, List.length_cons]
    exact_mod_cast hroom
  · rw [hlru, List.map_cons, List.nodup_cons]
    exact ⟨hit, h.iterators⟩
  · rw [hlru, List.forall_mem_cons]
    exact ⟨hfresh, fun other hother ↦ (h.fresh other hother).trans_le hle⟩
  · rw [hlru, List.forall_mem_cons]
    exact ⟨hnow.le, h.past⟩

/-! ## The operations -/

/-- The nodes that satisfy a test leave. -/
theorem Kept.filter (h : Kept now t) (p : LruNode → Bool) (hlru : u.lru = t.lru.filter (!p ·))
    (hmax : u.maxRecords = t.maxRecords) (hfresh : u.fresh = t.fresh)
    (hindex : ∀ ip, u.index.lookup ip =
      if ip ∈ (t.lru.filter p).map (·.clientIp) then none else t.index.lookup ip) : Kept now u :=
  h.remove (List.filter_append_perm p t.lru) List.filter_sublist hlru hmax hfresh hindex

/-- The node of an address leaves. -/
theorem Kept.erase (h : Kept now t) (hlookup : t.index.lookup ip = some it) :
    Kept now { t with lru := t.lru.filter (·.iterator ≠ it), index := t.index.erase ip } := by
  obtain ⟨node, hnode, rfl, rfl, -⟩ := h.deref hlookup
  refine h.filter (fun n ↦ decide (n.iterator = node.iterator)) ?_ rfl rfl fun ip ↦ ?_
  · apply List.filter_congr
    intro n _
    exact decide_not
  · have hmem : ip ∈ (t.lru.filter fun n ↦ decide (n.iterator = node.iterator)).map (·.clientIp) ↔
        ip = node.clientIp := by
      simp only [List.mem_map, List.mem_filter, decide_eq_true_eq]
      constructor
      · rintro ⟨n, ⟨hn, hsame⟩, rfl⟩
        rw [List.inj_on_of_nodup_map h.iterators hn hnode hsame]
      · rintro rfl
        exact ⟨node, ⟨hnode, rfl⟩, rfl⟩
    by_cases hip : ip = node.clientIp
    · rw [if_pos (hmem.mpr hip), hip, AList.lookup_erase]
    · rw [if_neg (hip ∘ hmem.mp), AList.lookup_erase_ne hip]

theorem Kept.invalidate (h : Kept now t) (ip : ByteString) :
    ∃ u, t.invalidate ip = .ok u ∧ Kept now u := by
  rw [IpAffinityTable.invalidate]
  rcases hlookup : t.index.lookup ip with _ | it
  · exact ⟨t, rfl, h⟩
  · obtain ⟨node, -, -, -, hderef⟩ := h.deref hlookup
    simp only [hderef]
    exact ⟨_, rfl, h.erase hlookup⟩

theorem Kept.invalidateNode (h : Kept now t) (nodeTag : ByteString) :
    Kept now (t.invalidateNode nodeTag) := by
  refine h.filter (fun n ↦ decide (n.nodeTag = nodeTag)) ?_ rfl rfl fun ip ↦ lookup_eraseAll _ ip
  apply List.filter_congr
  intro n _
  exact decide_not

theorem Kept.clear (h : Kept now t) : Kept now t.clear := by
  refine h.filter (fun _ ↦ true) (List.filter_false t.lru).symm rfl rfl ?_
  intro ip
  have hnone : t.clear.index.lookup ip = none := AList.lookup_empty ip
  rw [hnone, List.filter_true]
  split
  · rfl
  · exact (h.lookup_eq_none_iff.mpr ‹_›).symm

/-- A known address comes to the front. -/
theorem Kept.update_known (h : Kept now t) (hlookup : t.index.lookup ip = some it)
    (nodeTag : ByteString) : ∃ u, t.update now ip nodeTag = .ok u ∧ Kept now u := by
  obtain ⟨node, hnode, rfl, rfl, hderef⟩ := h.deref hlookup
  simp only [update, hlookup, hderef]
  have hother : ∀ n ∈ t.lru.filter (·.iterator ≠ node.iterator), n ∈ t.lru ∧ n ≠ node := by
    intro n hn
    obtain ⟨hmem, hne⟩ := List.mem_filter.mp hn
    exact ⟨hmem, fun heq ↦ of_decide_eq_true hne (congrArg LruNode.iterator heq)⟩
  refine ⟨_, rfl, (h.erase hlookup).push ?_ ?_ rfl ?_ rfl rfl le_rfl (h.fresh node hnode) ?_⟩
  · intro hmem
    obtain ⟨n, hn, hsame⟩ := List.mem_map.mp hmem
    exact (hother n hn).2 (List.inj_on_of_nodup_map h.addresses (hother n hn).1 hnode hsame)
  · intro hmem
    obtain ⟨n, hn, hsame⟩ := List.mem_map.mp hmem
    exact (hother n hn).2 (List.inj_on_of_nodup_map h.iterators (hother n hn).1 hnode hsame)
  · have hlt : (t.lru.filter (·.iterator ≠ node.iterator)).length < t.lru.length :=
      List.length_filter_lt_length_iff_exists.mpr ⟨node, hnode, by simp⟩
    exact (Int.add_one_le_of_lt (Int.ofNat_lt.mpr hlt)).trans h.length_le
  · intro ip
    by_cases hip : ip = node.clientIp
    · rw [if_pos hip, hip]
      exact hlookup
    · rw [if_neg hip]
      exact (AList.lookup_erase_ne hip).symm

/-- Room is made for an unknown one, if there can be room. -/
theorem Kept.update_unknown (h : Kept now t) (hlookup : t.index.lookup ip = none)
    (hmax : 0 < t.maxRecords) (nodeTag : ByteString) :
    ∃ u, t.update now ip nodeTag = .ok u ∧ Kept now u := by
  obtain ⟨gone, kept, hsplit, hlt, -, hevict⟩ := exists_evict_eq hmax t.lru.reverse t.index
  have hlru : t.lru = kept.reverse ++ gone.reverse := by
    rw [← List.reverse_append, ← hsplit, List.reverse_reverse]
  have hroom : Kept now { t with lru := kept.reverse, index := eraseAll gone t.index } := by
    refine h.remove ?_ ?_ rfl rfl rfl (lookup_eraseAll gone)
    · rw [hlru]
      exact List.perm_append_comm.trans ((List.reverse_perm gone).symm.append_left _)
    · rw [hlru]
      exact List.sublist_append_left _ _
  simp only [update, hlookup, hevict]
  refine ⟨_, rfl, hroom.push ?_ ?_ rfl ?_ rfl rfl (Nat.le_succ _) (Nat.lt_succ_self _) ?_⟩
  · have hnot := h.lookup_eq_none_iff.mp hlookup
    rw [hlru, List.map_append, List.mem_append, not_or] at hnot
    exact hnot.1
  · intro hmem
    obtain ⟨n, hn, hsame⟩ := List.mem_map.mp hmem
    exact (hroom.fresh n hn).ne hsame
  · rw [List.length_reverse]
    exact (Int.add_one_le_of_lt hlt).trans (le_max_left _ _)
  · intro ip'
    by_cases hip : ip' = ip
    · rw [if_pos hip, hip]
      exact AList.lookup_insert _
    · rw [if_neg hip]
      exact AList.lookup_insert_ne hip

/-- A cleanup with nothing to do. -/
theorem cleanupExpired_of_current (hlast : ∀ node, t.lru.getLast? = some node →
    t.isExpired now node.toAffinityRecord = false) : t.cleanupExpired now = t := by
  have hnone : t.lru.reverse.takeWhile (fun n ↦ t.isExpired now n.toAffinityRecord) = [] := by
    rw [List.takeWhile_eq_nil_iff]
    intro hlt
    rw [Bool.not_eq_true]
    apply hlast
    rw [← List.head?_reverse, List.head?_eq_getElem?, List.getElem?_eq_getElem hlt]
    rfl
  rw [cleanupExpired, hnone]
  rfl

/-- A cleanup with something to do takes the last address out of the index, and the node stays. -/
theorem not_sound_cleanupExpired (hlast : t.lru.getLast? = some node)
    (hexpired : t.isExpired now node.toAffinityRecord = true) : ¬(t.cleanupExpired now).Sound := by
  intro hsound
  have hsome : (t.cleanupExpired now).index.lookup node.clientIp = some node.iterator :=
    (hsound.index _ _).mpr ⟨node, List.mem_of_getLast? hlast, rfl, rfl⟩
  have hmem : node.clientIp ∈ (t.lru.reverse.takeWhile fun n ↦
      t.isExpired now n.toAffinityRecord).map (·.clientIp) := by
    rw [← List.head?_reverse] at hlast
    obtain ⟨rest, hrest⟩ := List.head?_eq_some_iff.mp hlast
    rw [hrest, List.takeWhile_cons, hexpired]
    exact List.mem_cons_self
  rw [cleanupExpired, lookup_eraseAll, if_pos hmem] at hsome
  cases hsome

/-! ## Runs -/

/-- An operation on the table. -/
inductive Op
  | update (clientIp nodeTag : ByteString)
  | lookup (clientIp : ByteString)
  | invalidate (clientIp : ByteString)
  | invalidateNode (nodeTag : ByteString)
  | cleanupExpired
  | clear

def apply (t : IpAffinityTable) (now : SteadyTime) :
    Op → Except UndefinedBehaviour IpAffinityTable
  | .update clientIp nodeTag => t.update now clientIp nodeTag
  | .lookup clientIp => (t.lookup now clientIp).map fun _ ↦ t
  | .invalidate clientIp => t.invalidate clientIp
  | .invalidateNode nodeTag => .ok (t.invalidateNode nodeTag)
  | .cleanupExpired => .ok (t.cleanupExpired now)
  | .clear => .ok t.clear

/-- The table and the time of the last operation. -/
structure Timed where
  now : SteadyTime
  table : IpAffinityTable

/-- An operation some nanoseconds after the last. -/
def step (s : Timed) (e : ℕ × Op) : Except UndefinedBehaviour Timed :=
  (s.table.apply (s.now + e.1) e.2).map fun t ↦ ⟨s.now + e.1, t⟩

/-- Nobody is put into a table for no records, and a cleanup finds nothing to do. -/
def Harmless (s : Timed) (e : ℕ × Op) : Prop :=
  match e.2 with
  | .update clientIp _ => s.table.index.lookup clientIp = none → 0 < s.table.maxRecords
  | .cleanupExpired => ∀ node, s.table.lru.getLast? = some node →
      s.table.isExpired (s.now + e.1) node.toAffinityRecord = false
  | _ => True

/-- A harmless operation comes to its end and keeps the table sound. -/
theorem Kept.step {s : Timed} {e : ℕ × Op} (h : Kept s.now s.table) (he : Harmless s e) :
    ∃ u, step s e = .ok u ∧ Kept u.now u.table := by
  obtain ⟨d, op⟩ := e
  have hlater : Kept (s.now + d) s.table :=
    h.mono (Int.le_add_of_nonneg_right (Int.natCast_nonneg d))
  have hkept : ∃ u, s.table.apply (s.now + d) op = .ok u ∧ Kept (s.now + d) u := by
    cases op with
    | update clientIp nodeTag =>
      rcases hlookup : s.table.index.lookup clientIp with _ | it
      · exact hlater.update_unknown hlookup (he hlookup) nodeTag
      · exact hlater.update_known hlookup nodeTag
    | lookup clientIp =>
      rw [apply, lookup]
      rcases hlookup : s.table.index.lookup clientIp with _ | it
      · exact ⟨_, rfl, hlater⟩
      · obtain ⟨node, -, -, -, hderef⟩ := hlater.deref hlookup
        simp only [hderef]
        exact ⟨_, rfl, hlater⟩
    | invalidate clientIp => exact hlater.invalidate clientIp
    | invalidateNode nodeTag => exact ⟨_, rfl, hlater.invalidateNode nodeTag⟩
    | cleanupExpired => exact ⟨_, rfl, (cleanupExpired_of_current he).symm ▸ hlater⟩
    | clear => exact ⟨_, rfl, hlater.clear⟩
  obtain ⟨u, hu, hsound⟩ := hkept
  refine ⟨⟨s.now + d, u⟩, ?_, hsound⟩
  rw [IpAffinityTable.step, hu]
  rfl

/-- Any other operation does not come to its end, or does not. -/
theorem not_sound_of_step {s u : Timed} {e : ℕ × Op} (he : ¬Harmless s e)
    (hu : step s e = .ok u) : ¬u.table.Sound := by
  obtain ⟨d, op⟩ := e
  cases op with
  | update clientIp nodeTag =>
    obtain ⟨hlookup, hmax⟩ := Classical.not_imp.mp he
    simp only [step, apply, update, hlookup, evict_of_nonpos (not_lt.mp hmax)] at hu
    cases hu
  | cleanupExpired =>
    simp only [Harmless, not_forall, Bool.not_eq_false] at he
    obtain ⟨node, hlast, hexpired⟩ := he
    obtain rfl := Except.ok.inj hu
    exact not_sound_cleanupExpired hlast hexpired
  | _ => exact absurd trivial he

theorem kept_init (timeoutSec maxRecords : Int) (now : SteadyTime) :
    Kept now { timeoutSec, maxRecords } where
  addresses := List.nodup_nil
  index ip it := by
    rw [AList.lookup_empty]
    refine iff_of_false (Option.some_ne_none it).symm ?_
    rintro ⟨node, hnode, -⟩
    exact List.not_mem_nil hnode
  recency := List.Pairwise.nil
  length_le := le_max_right _ _
  iterators := List.nodup_nil
  fresh _ hnode := absurd hnode List.not_mem_nil
  past _ hnode := absurd hnode List.not_mem_nil

/-- **When list and index agree.** From any configuration, every operation of a run comes to its end
and leaves a sound table exactly when each of them is harmless. -/
theorem sound_throughout_iff (timeoutSec maxRecords : Int) (now : SteadyTime)
    (es : List (ℕ × Op)) :
    (∀ pre, pre <+: es → ∃ s, run step ⟨now, { timeoutSec, maxRecords }⟩ pre = .ok s ∧
        s.table.Sound) ↔ Along step Harmless ⟨now, { timeoutSec, maxRecords }⟩ es :=
  (along_iff_succeeds (I := fun s : Timed ↦ Kept s.now s.table) (P := fun s ↦ s.table.Sound)
    (fun _ h ↦ h.toSound) (fun _ _ h he ↦ h.step he) (fun _ _ _ _ he hu ↦ not_sound_of_step he hu)
    (kept_init timeoutSec maxRecords now)).symm

/-- A client sent to a node. -/
def firstUpdate : ℕ × Op := (0, .update (.ofString "10.0.0.1") (.ofString "vmess-1"))

/-- The client is cleaned up a second after the timeout; and a table for no records cannot even take
it in. -/
theorem not_sound_firstUpdate :
    (∃ s, run step ⟨0, {}⟩ [firstUpdate, (301000000000, .cleanupExpired)] = .ok s ∧
      ¬s.table.Sound) ∧
    run step ⟨0, { maxRecords := 0 }⟩ [firstUpdate] = .error .backOfEmptyList := by
  constructor
  · refine ⟨_, rfl, fun h ↦ ?_⟩
    have hindex := (h.index (.ofString "10.0.0.1") 0).mpr
      ⟨⟨⟨_, .ofString "vmess-1", 0⟩, 0⟩, List.mem_cons_self, rfl, rfl⟩
    cases hindex
  · rfl

end IpAffinityTable

end LanProxyGateway
