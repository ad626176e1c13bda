import LanProxyGateway.ConfigManager.ConfigLoader
import LanProxyGateway.UserManager.UserManager

/-!
# The configuration and its file

`config_loader::save` writes all fields under the keys that `load` reads them from, in the same
order. So a field has a place in the file, and the assignment of its member in `load` writes that
place and no other (`writesFrom_configFields`).

This decides when a sequence of assignments, complete or broken off, comes to nothing: no assignment
can take another one back, so each of those that were made must have found its value in place
(`assignFields_eq_self_iff`).
-/

open Foundation ByteString

namespace LanProxyGateway

namespace SystemConfig

/-- The fields as `save` writes them. -/
def savedFields (c : SystemConfig) : List (String × Json) := [
  ("proxy_port", .integer c.proxyPort),
  ("web_ui_port", .integer c.webUiPort),
  ("web_ui_https_enabled", .boolean c.webUiHttpsEnabled),
  ("default_route_action", .string c.defaultRouteAction),
  ("proxy_thread_count", .integer c.proxyThreadCount),
  ("v2rayn_executable_path", .string c.v2raynExecutablePath),
  ("v2rayn_config_path", .string c.v2raynConfigPath),
  ("v2rayn_local_socks_port", .integer c.v2raynLocalSocksPort),
  ("v2rayn_local_http_port", .integer c.v2raynLocalHttpPort),
  ("admin_username", .string c.adminUsername),
  ("admin_password_hash", .string c.adminPasswordHash),
  ("jwt_secret", .string c.jwtSecret),
  ("log_file_path", .string c.logFilePath),
  ("user_data_path", .string c.userDataPath),
  ("geoip_db_path", .string c.geoipDbPath),
  ("builtin_rules_path", .string c.builtinRulesPath),
  ("custom_rules_path", .string c.customRulesPath),
  ("cert_path", .string c.certPath),
  ("key_path", .string c.keyPath),
  ("fd_threshold_pct", .float c.fdThresholdPct),
  ("mem_threshold_pct", .float c.memThresholdPct),
  ("max_total_connections", .integer c.maxTotalConnections),
  ("max_per_user", .integer c.maxPerUser),
  ("max_conn_per_ip_per_sec", .integer c.maxConnPerIpPerSec),
  ("max_auth_fails_per_min", .integer c.maxAuthFailsPerMin),
  ("ban_duration_sec", .integer c.banDurationSec),
  ("schedule_strategy", .string c.scheduleStrategy),
  ("ip_affinity_enabled", .boolean c.ipAffinityEnabled),
  ("ip_affinity_timeout_sec", .integer c.ipAffinityTimeoutSec),
  ("ip_affinity_max_records", .integer c.ipAffinityMaxRecords),
  ("node_capacity_threshold", .integer c.nodeCapacityThreshold),
  ("health_check_interval_sec", .integer c.healthCheckIntervalSec),
  ("health_probe_timeout_sec", .integer c.healthProbeTimeoutSec),
  ("health_failure_threshold", .integer c.healthFailureThreshold),
  ("idle_timeout_sec", .integer c.idleTimeoutSec)]

def toJson (c : SystemConfig) : Json := .ofFields c.savedFields

/-- The values of the fields, each in its place. -/
def values (c : SystemConfig) : List Json := c.savedFields.map Prod.snd

/-- The values are all there is. -/
theorem values_injective {c d : SystemConfig} (h : c.values = d.values) : c = d := by
  cases c
  cases d
  simp only [values, savedFields, List.map_cons, List.map_nil, List.cons.injEq, Json.integer.injEq,
    Json.boolean.injEq, Json.string.injEq, Json.float.injEq, and_true] at h
  simp only [SystemConfig.mk.injEq]
  exact h

end SystemConfig

/-- `config_loader::save`: whether it succeeds, and what is in the file afterwards. A part of the
text is no JSON. -/
def ConfigLoader.save (answer : UserManager.SaveAnswer) (l : ConfigLoader) (file : FileContent) :
    Except CxxException (Bool × FileContent) :=
  if l.configPath.isEmpty then .ok (false, file)
  else if !answer.opensTmp then .ok (false, file)
  else if !l.config.toJson.isSerializable then .error .typeError
  else if answer.renames then
    .ok (true, if answer.writes then .json l.config.toJson else .malformed)
  else .ok (false, file)

/-! ## Each assignment has its place -/

namespace FieldAssignment

/-- The assignment writes the `i`-th place, and nothing else. -/
def Writes (i : ℕ) (f : FieldAssignment) : Prop :=
  ∀ v set, f.assign v = some set → ∃ x, ∀ c, (set c).values = c.values.set i x

/-- An assignment made from a conversion and a setter writes what the setter writes. -/
theorem writes_map {β : Type} {i : ℕ} {key : ByteString} {convert : Json → Option β}
    {set : β → SystemConfig → SystemConfig} {toJson : β → Json}
    (h : ∀ b c, (set b c).values = c.values.set i (toJson b)) :
    Writes i ⟨key, fun v ↦ (convert v).map set⟩ := by
  intro v set' hv
  obtain ⟨b, -, rfl⟩ := Option.map_eq_some_iff.mp hv
  exact ⟨toJson b, h b⟩

/-- The member is absent, or it is the value that the field has already. -/
def Agrees (f : FieldAssignment) (j : Json) (c : SystemConfig) : Prop :=
  ∀ set, f.update j = some set → set c = c

end FieldAssignment

/-- The assignments write the places from the `i`-th on, one after the other. -/
def WritesFrom : ℕ → List FieldAssignment → Prop
  | _, [] => True
  | i, f :: fs => f.Writes i ∧ WritesFrom (i + 1) fs

/-- **The fields of the file are apart.** -/
theorem writesFrom_configFields : WritesFrom 0 configFields := by
  refine ⟨?_, ?_, ?_, ?_, ?_, ?_, ?_, ?_, ?_, ?_, ?_, ?_, ?_, ?_, ?_, ?_, ?_, ?_, ?_, ?_, ?_, ?_,
    ?_, ?_, ?_, ?_, ?_, ?_, ?_, ?_, ?_, ?_, ?_, ?_, ?_, trivial⟩
  all_goals exact FieldAssignment.writes_map fun _ _ ↦ rfl

/-- No assignment of the sequence writes where an earlier one has. -/
def FieldsApart : List FieldAssignment → Prop
  | [] => True
  | f :: fs => (∃ i, f.Writes i ∧ ∀ g ∈ fs, g.Keeps fun c ↦ c.values[i]?) ∧ FieldsApart fs

theorem FieldAssignment.Writes.keeps {i k : ℕ} {f : FieldAssignment} (h : f.Writes i)
    (hne : i ≠ k) : f.Keeps fun c ↦ c.values[k]? := by
  intro v set hv c
  obtain ⟨x, hx⟩ := h v set hv
  simp only [hx]
  exact List.getElem?_set_ne hne

theorem exists_writes_of_writesFrom {fs : List FieldAssignment} : ∀ {i : ℕ}, WritesFrom i fs →
    ∀ f ∈ fs, ∃ k, i ≤ k ∧ f.Writes k := by
  induction fs with
  | nil => exact fun _ f hf ↦ absurd hf List.not_mem_nil
  | cons g fs ih =>
    rintro i ⟨hg, hrest⟩ f hf
    rcases List.mem_cons.mp hf with rfl | hf
    · exact ⟨i, le_rfl, hg⟩
    · obtain ⟨k, hk, hwrites⟩ := ih hrest f hf
      exact ⟨k, (Nat.le_succ i).trans hk, hwrites⟩

theorem fieldsApart_of_writesFrom {fs : List FieldAssignment} : ∀ {i : ℕ}, WritesFrom i fs →
    FieldsApart fs := by
  induction fs with
  | nil => exact fun _ ↦ trivial
  | cons f fs ih =>
    rintro i ⟨hf, hrest⟩
    refine ⟨⟨i, hf, fun g hg ↦ ?_⟩, ih hrest⟩
    obtain ⟨k, hk, hwrites⟩ := exists_writes_of_writesFrom hrest g hg
    exact hwrites.keeps (Nat.lt_of_succ_le hk).ne'

theorem FieldsApart.sublist {fs gs : List FieldAssignment} (h : FieldsApart gs)
    (hsub : fs.Sublist gs) : FieldsApart fs := by
  induction hsub with
  | slnil => trivial
  | cons g _ ih => exact ih h.2
  | cons_cons g hsub ih =>
    obtain ⟨⟨i, hwrites, hkeeps⟩, hrest⟩ := h
    exact ⟨⟨i, hwrites, fun f hf ↦ hkeeps f (hsub.subset hf)⟩, ih hrest⟩

theorem fieldsApart_configFields : FieldsApart configFields :=
  fieldsApart_of_writesFrom writesFrom_configFields

/-! ## Assignments that come to nothing -/

/-- The fields of a sequence in front of the first one whose member has a wrong type: those that are
assigned, if their member is there. -/
def assignedFields (j : Json) (fs : List FieldAssignment) : List FieldAssignment :=
  fs.takeWhile fun f ↦ (f.update j).isSome

/-- An assignment that leaves its place as it was leaves everything as it was. -/
theorem FieldAssignment.Writes.eq_self {i : ℕ} {f : FieldAssignment} (h : f.Writes i) {j : Json}
    {set : SystemConfig → SystemConfig} (hset : f.update j = some set) {c : SystemConfig}
    (hsame : (set c).values[i]? = c.values[i]?) : set c = c := by
  rw [FieldAssignment.update] at hset
  rcases hm : j.member? f.key with _ | v
  · rw [hm] at hset
    rw [← Option.some.inj hset, id]
  · rw [hm] at hset
    -- compare the configurations place by place
    obtain ⟨x, hx⟩ := h v set hset
    apply SystemConfig.values_injective
    rw [hx] at hsame ⊢
    apply List.ext_getElem?
    intro k
    by_cases hk : i = k
    · subst hk
      exact hsame
    · exact List.getElem?_set_ne hk

/-- **What is assigned is seen.** A sequence of assignments comes to nothing exactly when every
member that is assigned is the value that was there. -/
theorem assignFields_eq_self_iff {fs : List FieldAssignment} (h : FieldsApart fs) (j : Json)
    (c : SystemConfig) :
    (assignFields j fs c).1 = c ↔ ∀ f ∈ assignedFields j fs, f.Agrees j c := by
  induction fs generalizing c with
  | nil => exact iff_of_true rfl fun f hf ↦ absurd hf List.not_mem_nil
  | cons f fs ih =>
    obtain ⟨⟨i, hwrites, hkeeps⟩, hrest⟩ := h
    rw [assignFields, assignedFields, List.takeWhile_cons]
    rcases hu : f.update j with _ | set
    · exact iff_of_true rfl fun f hf ↦ absurd hf List.not_mem_nil
    rw [Option.isSome_some, if_pos rfl, List.forall_mem_cons]
    -- the head of the sequence on its own, then with the rest behind it
    have hagrees : f.Agrees j c ↔ set c = c := by
      rw [FieldAssignment.Agrees, hu]
      exact ⟨fun h ↦ h set rfl, fun h set' hset ↦ Option.some.inj hset ▸ h⟩
    have hiff : (assignFields j fs (set c)).1 = c ↔
        set c = c ∧ ∀ f ∈ assignedFields j fs, f.Agrees j c := by
      constructor
      · intro hfinal
        -- nobody has touched the place since, so it held the value before
        have hplace := assignFields_keeps hkeeps j (set c)
        rw [hfinal] at hplace
        have hsame := hwrites.eq_self hu hplace.symm
        rw [hsame] at hfinal
        exact ⟨hsame, (ih hrest c).mp hfinal⟩
      · rintro ⟨hsame, hall⟩
        rw [hsame]
        exact (ih hrest c).mpr hall
    rw [hagrees]
    exact hiff

end LanProxyGateway
