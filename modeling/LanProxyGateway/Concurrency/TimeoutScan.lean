import LanProxyGateway.Concurrency.TimeoutScanner

/-!
# What a scan reports

The registry selects the records that a scan looks at, with an eight-hour lifetime of its own, and
the scanner tests them again with the limits that it has been given. An active session is selected
only once it is older than the registry's lifetime, whatever the scanner's is; an idle one is
selected for being idle, and once more when it is older. So the limits and the ages decide whether a
scan reports each overdue session once (`reportsOverdue_iff`).
-/

open Foundation

namespace LanProxyGateway

/-- In a list of keyed values that each contribute their own key, a key is there as often as its
value contributes it. -/
theorem count_flatMap_of_keys {κ ν : Type} [DecidableEq κ] [BEq κ] [LawfulBEq κ]
    {f : (Σ _ : κ, ν) → List κ} {l : List (Σ _ : κ, ν)} (hnodup : l.NodupKeys)
    (hkeys : ∀ e ∈ l, ∀ k ∈ f e, k = e.1) (k : κ) :
    (l.flatMap f).count k = ((l.dlookup k).map fun v ↦ (f ⟨k, v⟩).length).getD 0 := by
  induction l with
  | nil => rfl
  | cons e l ih =>
    rw [List.nodupKeys_cons] at hnodup
    rw [List.forall_mem_cons] at hkeys
    rw [List.flatMap_cons, List.count_append, ih hnodup.2 hkeys.2]
    obtain ⟨key, value⟩ := e
    by_cases heq : k = key
    · subst heq
      rw [List.dlookup_cons_eq, List.dlookup_eq_none.mpr hnodup.1, List.count_eq_length.mpr]
      · rfl
      · exact fun k' hk' ↦ (hkeys.1 k' hk').symm
    · rw [List.dlookup_cons_ne l ⟨key, value⟩ heq, List.count_eq_zero_of_not_mem, Nat.zero_add]
      exact fun hmem ↦ heq (hkeys.1 k hmem)

namespace ConnectionRegistry

/-! ## What the registry holds -/

/-- A call that changes the registry. -/
inductive Call
  | registerConnection (now : SteadyTime) (sessionId clientIp username : ByteString)
  | unregisterConnection (sessionId : ByteString)
  | updateState (now : SteadyTime) (sessionId : ByteString) (state : ConnectionState)
  | updateNode (sessionId nodeTag : ByteString)
  | markIdle (now : SteadyTime) (sessionId : ByteString)
  | markActive (now : SteadyTime) (sessionId : ByteString)
  | setExemptIdle (sessionId : ByteString) (exempt : Bool)
  | clear

def step (r : ConnectionRegistry) : Call → ConnectionRegistry
  | .registerConnection now sessionId clientIp username =>
    r.registerConnection now sessionId clientIp username
  | .unregisterConnection sessionId => r.unregisterConnection sessionId
  | .updateState now sessionId state => r.updateState now sessionId state
  | .updateNode sessionId nodeTag => r.updateNode sessionId nodeTag
  | .markIdle now sessionId => r.markIdle now sessionId
  | .markActive now sessionId => r.markActive now sessionId
  | .setExemptIdle sessionId exempt => r.setExemptIdle sessionId exempt
  | .clear => r.clear

/-- The registry as some calls leave it. -/
def after (calls : List Call) : ConnectionRegistry := calls.foldl step {}

/-- Every record has the id that it is registered under. -/
def Keyed (r : ConnectionRegistry) : Prop :=
  ∀ id record, r.connections.lookup id = some record → record.sessionId = id

variable {r : ConnectionRegistry} {id : ByteString} {record : ConnectionRecord}

theorem keyed_of_empty (h : r.connections = ∅) : r.Keyed := by
  intro id record hlookup
  rw [h] at hlookup
  cases (AList.lookup_empty id).symm.trans hlookup

theorem Keyed.insert (h : r.Keyed) (hid : record.sessionId = id) :
    Keyed { r with connections := r.connections.insert id record } := by
  intro id' record' hlookup
  by_cases heq : id' = id
  · subst heq
    rw [AList.lookup_insert, Option.some.injEq] at hlookup
    exact hlookup ▸ hid
  · rw [AList.lookup_insert_ne heq] at hlookup
    exact h id' record' hlookup

theorem Keyed.updateRecord (h : r.Keyed) {f : ConnectionRecord → ConnectionRecord}
    (hf : ∀ entry, (f entry).sessionId = entry.sessionId) : (r.updateRecord id f).Keyed := by
  rw [ConnectionRegistry.updateRecord]
  split
  · rename_i entry hentry
    exact h.insert ((hf entry).trans (h id entry hentry))
  · exact h

theorem Keyed.step (h : r.Keyed) (c : Call) : (r.step c).Keyed := by
  cases c with
  | registerConnection now sessionId clientIp username => exact h.insert rfl
  | unregisterConnection sessionId =>
    intro id record hlookup
    by_cases heq : id = sessionId
    · subst heq
      cases (AList.lookup_erase id r.connections).symm.trans hlookup
    · exact h id record ((AList.lookup_erase_ne heq).symm.trans hlookup)
  | updateState now sessionId state => exact h.updateRecord fun _ ↦ rfl
  | updateNode sessionId nodeTag => exact h.updateRecord fun _ ↦ rfl
  | markIdle now sessionId => exact h.updateRecord fun _ ↦ rfl
  | markActive now sessionId => exact h.updateRecord fun _ ↦ rfl
  | setExemptIdle sessionId exempt => exact h.updateRecord fun _ ↦ rfl
  | clear => exact keyed_of_empty rfl

theorem keyed_after (calls : List Call) : (after calls).Keyed :=
  List.foldlRecOn calls ConnectionRegistry.step (keyed_of_empty rfl) fun _ h c _ ↦ h.step c

/-- A record is selected for its state, and for its age. -/
def selected (now : SteadyTime) (record : ConnectionRecord) : List ConnectionRecord :=
  (if record.state = .authenticating ∨ record.state = .handshaking ∨ record.state = .idle
    then [record] else []) ++
  (if (record.state = .active ∨ record.state = .idle) ∧
    28800 < wholeSeconds (now - record.admitTime) then [record] else [])

theorem getTimeoutCandidates_eq (r : ConnectionRegistry) (now : SteadyTime) :
    r.getTimeoutCandidates now = r.connections.entries.flatMap fun e ↦ selected now e.2 := rfl

end ConnectionRegistry

namespace TimeoutScanner

open ConnectionRegistry

/-! ## The scan -/

/-- `timeout_scanner::scan_loop`: the calls of the callback, if there is one. The registry reads the
clock for itself, before the scanner does. That the loop pauses after every hundred calls is not to
be seen in them. -/
def scanLoop (t : TimeoutScanner) (r : ConnectionRegistry) (listed now : SteadyTime) :
    List (ByteString × Text) :=
  (r.getTimeoutCandidates listed).filterMap fun record ↦
    (t.verdict now record).map fun reason ↦ (record.sessionId, reason)

/-- A session whose time is over, by the limits of the scanner. -/
inductive Overdue (t : TimeoutScanner) (now : SteadyTime) (record : ConnectionRecord) : Prop
  | auth (hstate : record.state = .authenticating)
    (hage : t.authTimeoutSec ≤ wholeSeconds (now - record.admitTime))
  | handshake (hstate : record.state = .handshaking)
    (hage : t.handshakeTimeoutSec ≤ wholeSeconds (now - record.admitTime))
  | idle (hstate : record.state = .idle) (hexempt : record.exemptIdle = false)
    (hidle : t.idleTimeoutSec ≤ wholeSeconds (now - record.idleSince))
  | lifetime (hstate : record.state = .active ∨ record.state = .idle)
    (hage : t.maxLifetimeSec ≤ wholeSeconds (now - record.admitTime))

variable {t : TimeoutScanner} {r : ConnectionRegistry} {listed now : SteadyTime}
  {record : ConnectionRecord}

/-- The loop has a reason exactly for what is overdue. -/
theorem verdict_isSome_iff : (t.verdict now record).isSome ↔ t.Overdue now record := by
  constructor
  · intro h
    rw [verdict] at h
    split at h
    · rename_i hlifetime
      exact .lifetime hlifetime.1 hlifetime.2
    cases hstate : record.state with
    | authenticating =>
      rw [hstate, Option.isSome_ite] at h
      exact .auth hstate h
    | handshaking =>
      rw [hstate, Option.isSome_ite] at h
      exact .handshake hstate h
    | idle =>
      rw [hstate, Option.isSome_ite] at h
      exact .idle hstate h.1 h.2
    | active | queued | closing =>
      rw [hstate] at h
      cases h
  · intro h
    rw [verdict]
    split
    · rfl
    rename_i hlifetime
    cases h with
    | auth hstate hage => rw [hstate, Option.isSome_ite]; exact hage
    | handshake hstate hage => rw [hstate, Option.isSome_ite]; exact hage
    | idle hstate hexempt hidle => rw [hstate, Option.isSome_ite]; exact ⟨hexempt, hidle⟩
    | lifetime hstate hage => exact absurd ⟨hstate, hage⟩ hlifetime

/-- How often a session is reported. -/
def reports (t : TimeoutScanner) (r : ConnectionRegistry) (listed now : SteadyTime)
    (id : ByteString) : ℕ := ((t.scanLoop r listed now).map Prod.fst).count id

/-- The reports on the copies of one record. -/
def reportsOn (t : TimeoutScanner) (listed now : SteadyTime) (record : ConnectionRecord) :
    List ByteString :=
  (selected listed record).filterMap fun record ↦
    (t.verdict now record).map fun _ ↦ record.sessionId

theorem map_scanLoop (t : TimeoutScanner) (r : ConnectionRegistry) (listed now : SteadyTime) :
    (t.scanLoop r listed now).map Prod.fst =
      r.connections.entries.flatMap fun e ↦ t.reportsOn listed now e.2 := by
  rw [scanLoop, getTimeoutCandidates_eq, List.map_filterMap, List.filterMap_flatMap]
  refine List.flatMap_congr fun e _ ↦ List.filterMap_congr fun record _ ↦ ?_
  rw [Option.map_map]
  rfl

theorem eq_of_mem_selected {record' : ConnectionRecord} (h : record' ∈ selected listed record) :
    record' = record := by
  rw [selected, List.mem_append, List.mem_ite_nil_right, List.mem_ite_nil_right,
    List.mem_singleton] at h
  exact h.elim And.right And.right

theorem eq_of_mem_reportsOn {id : ByteString} (h : id ∈ t.reportsOn listed now record) :
    id = record.sessionId := by
  obtain ⟨record', hmem, hid⟩ := List.mem_filterMap.mp h
  obtain ⟨-, -, rfl⟩ := Option.map_eq_some_iff.mp hid
  rw [eq_of_mem_selected hmem]

/-- An overdue record is reported as often as it is selected. -/
theorem length_reportsOn (h : t.Overdue now record) :
    (t.reportsOn listed now record).length = (selected listed record).length := by
  obtain ⟨reason, hreason⟩ := Option.isSome_iff_exists.mp (verdict_isSome_iff.mpr h)
  have hall : t.reportsOn listed now record =
      (selected listed record).filterMap (some ∘ ConnectionRecord.sessionId) := by
    refine List.filterMap_congr fun record' hmem ↦ ?_
    rw [eq_of_mem_selected hmem, hreason]
    rfl
  rw [hall, List.filterMap_eq_map, List.length_map]

theorem reportsOn_of_not (h : ¬ t.Overdue now record) : t.reportsOn listed now record = [] := by
  rw [← verdict_isSome_iff, Option.not_isSome_iff_eq_none] at h
  refine List.filterMap_eq_nil_iff.mpr fun record' hmem ↦ ?_
  rw [eq_of_mem_selected hmem, h]
  rfl

theorem reports_eq (hkeyed : r.Keyed) (id : ByteString) : t.reports r listed now id =
    ((r.connections.lookup id).map fun record ↦ (t.reportsOn listed now record).length).getD 0 := by
  rw [reports, map_scanLoop]
  refine count_flatMap_of_keys r.connections.nodupKeys (fun e he id' hid' ↦ ?_) id
  rw [eq_of_mem_reportsOn hid']
  exact hkeyed e.1 e.2 (AList.mem_lookup_iff.mpr he)

/-- How often a record that can be overdue is selected. -/
theorem length_selected (h : t.Overdue now record) : (selected listed record).length = 1 ↔
    (record.state = .idle → wholeSeconds (listed - record.admitTime) ≤ 28800) ∧
      (record.state = .active → 28800 < wholeSeconds (listed - record.admitTime)) := by
  rw [selected, List.length_append]
  cases h with
  | auth hstate hage => simp [hstate]
  | handshake hstate hage => simp [hstate]
  | idle hstate hexempt hidle =>
    simp [hstate]
  | lifetime hstate hage =>
    obtain hstate | hstate := hstate
    · by_cases hold : 28800 < wholeSeconds (listed - record.admitTime) <;> simp [hstate, hold]
    · simp [hstate]

/-- What a scan should report. -/
structure ReportsOverdue (t : TimeoutScanner) (r : ConnectionRegistry) (listed now : SteadyTime) :
    Prop where
  once : ∀ id record, r.connections.lookup id = some record → t.Overdue now record →
    t.reports r listed now id = 1
  others : ∀ id, (∀ record, r.connections.lookup id = some record → ¬ t.Overdue now record) →
    t.reports r listed now id = 0

/-- **When a scan reports each overdue session once.** An overdue session that is idle must not be
older than the lifetime of the registry, and one that is active must be. -/
theorem reportsOverdue_iff (t : TimeoutScanner) (calls : List Call) (listed now : SteadyTime) :
    t.ReportsOverdue (after calls) listed now ↔
      ∀ id record, (after calls).connections.lookup id = some record → t.Overdue now record →
        (record.state = .idle → wholeSeconds (listed - record.admitTime) ≤ 28800) ∧
        (record.state = .active → 28800 < wholeSeconds (listed - record.admitTime)) := by
  have hreports : ∀ id record, (after calls).connections.lookup id = some record →
      t.reports (after calls) listed now id = (t.reportsOn listed now record).length := by
    intro id record hlookup
    rw [reports_eq (keyed_after calls), hlookup]
    rfl
  constructor
  · intro h id record hlookup hoverdue
    have honce := h.once id record hlookup hoverdue
    rw [hreports id record hlookup, length_reportsOn hoverdue] at honce
    exact (length_selected hoverdue).mp honce
  · intro h
    refine ⟨fun id record hlookup hoverdue ↦ ?_, fun id hnot ↦ ?_⟩
    · rw [hreports id record hlookup, length_reportsOn hoverdue]
      exact (length_selected hoverdue).mpr (h id record hlookup hoverdue)
    · cases hlookup : (after calls).connections.lookup id with
      | none =>
        rw [reports_eq (keyed_after calls), hlookup]
        rfl
      | some record =>
        rw [hreports id record hlookup, reportsOn_of_not (hnot record hlookup)]
        rfl

/-- A session that is active for longer than a lifetime of a minute. -/
theorem not_reportsOverdue_of_minute : ¬ ReportsOverdue { maxLifetimeSec := 60 }
    (after [.registerConnection 0 (ByteString.ofString "s") [] [],
      .markActive 0 (ByteString.ofString "s")]) 60000000000 60000000000 := by
  intro h
  have honce := h.once (ByteString.ofString "s")
    { sessionId := ByteString.ofString "s", state := .active } (by decide)
    (.lifetime (.inl rfl) (by decide))
  exact absurd honce (by decide)

end TimeoutScanner

end LanProxyGateway
