import LanProxyGateway.Foundation.Json

/-!
# The configuration record and its fields in the file

`system_config` with its defaults, and the list of assignments `config_loader::load` makes from a
parsed file, in the order of the source. Each assignment is one line
`if (j.contains(key)) m_config.field = j[key];` and throws when the member has the wrong type; the
assignments made before it stay made. The thresholds are exact rationals here.
-/

open Foundation

namespace LanProxyGateway

/-- `system_config`. -/
structure SystemConfig where
  proxyPort : Int := 10800
  webUiPort : Int := 8080
  webUiHttpsEnabled : Bool := true
  defaultRouteAction : ByteString := .ofString "proxy"
  proxyThreadCount : Int := 4
  v2raynExecutablePath : ByteString := .ofString "/home/debian/LanProxySerCli/v2rayn/v2ray"
  v2raynConfigPath : ByteString := .ofString "/home/debian/LanProxySerCli/v2rayn/config.json"
  v2raynLocalSocksPort : Int := 10808
  v2raynLocalHttpPort : Int := 10809
  adminUsername : ByteString := .ofString "admin"
  adminPasswordHash : ByteString := []
  jwtSecret : ByteString := []
  logFilePath : ByteString := .ofString "/home/debian/LanProxySerCli/logs/"
  userDataPath : ByteString := .ofString "/home/debian/LanProxySerCli/data/users.json"
  geoipDbPath : ByteString := .ofString "/home/debian/LanProxySerCli/data/GeoLite2-Country.mmdb"
  builtinRulesPath : ByteString := .ofString "/home/debian/LanProxySerCli/data/builtin_rules.json"
  customRulesPath : ByteString := .ofString "/home/debian/LanProxySerCli/data/custom_rules.json"
  certPath : ByteString := .ofString "/home/debian/LanProxySerCli/config/cert.pem"
  keyPath : ByteString := .ofString "/home/debian/LanProxySerCli/config/key.pem"
  fdThresholdPct : ℚ := 9 / 10
  memThresholdPct : ℚ := 17 / 20
  maxTotalConnections : Int := 4000
  maxPerUser : Int := 50
  maxConnPerIpPerSec : Int := 10
  maxAuthFailsPerMin : Int := 5
  banDurationSec : Int := 60
  scheduleStrategy : ByteString := .ofString "round_robin"
  ipAffinityEnabled : Bool := true
  ipAffinityTimeoutSec : Int := 300
  ipAffinityMaxRecords : Int := 10000
  nodeCapacityThreshold : Int := 1000
  healthCheckIntervalSec : Int := 10
  healthProbeTimeoutSec : Int := 5
  healthFailureThreshold : Int := 3
  idleTimeoutSec : Int := 300

/-! ## Assignments from a file -/

/-- One field of the file: its key, and the assignment that the member stored there makes, or `none`
where the conversion throws. -/
structure FieldAssignment where
  key : ByteString
  assign : Json → Option (SystemConfig → SystemConfig)

namespace FieldAssignment

def int (key : String) (set : Int → SystemConfig → SystemConfig) : FieldAssignment :=
  ⟨.ofString key, fun v ↦ v.getInt.map set⟩

def bool (key : String) (set : Bool → SystemConfig → SystemConfig) : FieldAssignment :=
  ⟨.ofString key, fun v ↦ v.getBool.map set⟩

def double (key : String) (set : ℚ → SystemConfig → SystemConfig) : FieldAssignment :=
  ⟨.ofString key, fun v ↦ v.getDouble.map set⟩

def string (key : String) (set : ByteString → SystemConfig → SystemConfig) : FieldAssignment :=
  ⟨.ofString key, fun v ↦ v.getString.map set⟩

/-- `if (j.contains(key)) m_config.field = j[key];`. -/
def update (f : FieldAssignment) (j : Json) : Option (SystemConfig → SystemConfig) :=
  match j.member? f.key with
  | some v => f.assign v
  | none => some id

end FieldAssignment

/-- A sequence of assignments, and whether it went through. An assignment that throws ends it. -/
def assignFields (j : Json) : List FieldAssignment → SystemConfig → SystemConfig × Bool
  | [], c => (c, true)
  | f :: fs, c =>
    match f.update j with
    | some set => assignFields j fs (set c)
    | none => (c, false)

/-- The assignments in front of the one of the secret. -/
def fieldsBeforeSecret : List FieldAssignment := [
  .int "proxy_port" fun n c ↦ { c with proxyPort := n },
  .int "web_ui_port" fun n c ↦ { c with webUiPort := n },
  .bool "web_ui_https_enabled" fun b c ↦ { c with webUiHttpsEnabled := b },
  .string "default_route_action" fun s c ↦ { c with defaultRouteAction := s },
  .int "proxy_thread_count" fun n c ↦ { c with proxyThreadCount := n },
  .string "v2rayn_executable_path" fun s c ↦ { c with v2raynExecutablePath := s },
  .string "v2rayn_config_path" fun s c ↦ { c with v2raynConfigPath := s },
  .int "v2rayn_local_socks_port" fun n c ↦ { c with v2raynLocalSocksPort := n },
  .int "v2rayn_local_http_port" fun n c ↦ { c with v2raynLocalHttpPort := n },
  .string "admin_username" fun s c ↦ { c with adminUsername := s },
  .string "admin_password_hash" fun s c ↦ { c with adminPasswordHash := s }]

def secretField : FieldAssignment :=
  .string "jwt_secret" fun s c ↦ { c with jwtSecret := s }

/-- The assignments behind the one of the secret. -/
def fieldsAfterSecret : List FieldAssignment := [
  .string "log_file_path" fun s c ↦ { c with logFilePath := s },
  .string "user_data_path" fun s c ↦ { c with userDataPath := s },
  .string "geoip_db_path" fun s c ↦ { c with geoipDbPath := s },
  .string "builtin_rules_path" fun s c ↦ { c with builtinRulesPath := s },
  .string "custom_rules_path" fun s c ↦ { c with customRulesPath := s },
  .string "cert_path" fun s c ↦ { c with certPath := s },
  .string "key_path" fun s c ↦ { c with keyPath := s },
  .double "fd_threshold_pct" fun x c ↦ { c with fdThresholdPct := x },
  .double "mem_threshold_pct" fun x c ↦ { c with memThresholdPct := x },
  .int "max_total_connections" fun n c ↦ { c with maxTotalConnections := n },
  .int "max_per_user" fun n c ↦ { c with maxPerUser := n },
  .int "max_conn_per_ip_per_sec" fun n c ↦ { c with maxConnPerIpPerSec := n },
  .int "max_auth_fails_per_min" fun n c ↦ { c with maxAuthFailsPerMin := n },
  .int "ban_duration_sec" fun n c ↦ { c with banDurationSec := n },
  .string "schedule_strategy" fun s c ↦ { c with scheduleStrategy := s },
  .bool "ip_affinity_enabled" fun b c ↦ { c with ipAffinityEnabled := b },
  .int "ip_affinity_timeout_sec" fun n c ↦ { c with ipAffinityTimeoutSec := n },
  .int "ip_affinity_max_records" fun n c ↦ { c with ipAffinityMaxRecords := n },
  .int "node_capacity_threshold" fun n c ↦ { c with nodeCapacityThreshold := n },
  .int "health_check_interval_sec" fun n c ↦ { c with healthCheckIntervalSec := n },
  .int "health_probe_timeout_sec" fun n c ↦ { c with healthProbeTimeoutSec := n },
  .int "health_failure_threshold" fun n c ↦ { c with healthFailureThreshold := n },
  .int "idle_timeout_sec" fun n c ↦ { c with idleTimeoutSec := n }]

/-- All assignments of `config_loader::load`, in the order of the source. -/
def configFields : List FieldAssignment := fieldsBeforeSecret ++ secretField :: fieldsAfterSecret

/-! ## Sequences of assignments -/

/-- Every one of the fields that is present has the right type. -/
def WellTyped (j : Json) (fs : List FieldAssignment) : Prop := ∀ f ∈ fs, (f.update j).isSome

instance (j : Json) (fs : List FieldAssignment) : Decidable (WellTyped j fs) :=
  inferInstanceAs (Decidable (∀ f ∈ fs, (f.update j).isSome))

theorem assignFields_append (j : Json) (fs gs : List FieldAssignment) (c : SystemConfig) :
    assignFields j (fs ++ gs) c =
      if (assignFields j fs c).2 then assignFields j gs (assignFields j fs c).1
      else assignFields j fs c := by
  induction fs generalizing c with
  | nil => rfl
  | cons f fs ih =>
    rw [List.cons_append, assignFields, assignFields]
    cases f.update j with
    | none => rfl
    | some set => exact ih (set c)

/-- A sequence goes through exactly when its fields have the right types. -/
theorem assignFields_snd (j : Json) (fs : List FieldAssignment) (c : SystemConfig) :
    (assignFields j fs c).2 = true ↔ WellTyped j fs := by
  induction fs generalizing c with
  | nil => exact ⟨fun _ f hf ↦ absurd hf List.not_mem_nil, fun _ ↦ rfl⟩
  | cons f fs ih =>
    rw [assignFields, WellTyped, List.forall_mem_cons]
    cases f.update j with
    | none => exact ⟨fun h ↦ absurd h Bool.false_ne_true, fun h ↦ absurd h.1 (by decide)⟩
    | some set => exact (ih (set c)).trans ⟨fun h ↦ ⟨rfl, h⟩, fun h ↦ h.2⟩

namespace FieldAssignment

/-- The assignment leaves the observation `g` of the record alone, whatever it reads. -/
def Keeps {α : Type} (g : SystemConfig → α) (f : FieldAssignment) : Prop :=
  ∀ v set, f.assign v = some set → ∀ c, g (set c) = g c

/-- An assignment made from a conversion and a setter leaves alone what the setter leaves alone. -/
theorem keeps_map {α β : Type} {g : SystemConfig → α} {key : ByteString} {convert : Json → Option β}
    {set : β → SystemConfig → SystemConfig} (h : ∀ b c, g (set b c) = g c) :
    Keeps g ⟨key, fun v ↦ (convert v).map set⟩ := by
  intro v set' hv c
  obtain ⟨b, -, rfl⟩ := Option.map_eq_some_iff.mp hv
  exact h b c

theorem Keeps.update {α : Type} {g : SystemConfig → α} {f : FieldAssignment} (h : f.Keeps g)
    {j : Json} {set : SystemConfig → SystemConfig} (hset : f.update j = some set)
    (c : SystemConfig) : g (set c) = g c := by
  rw [FieldAssignment.update] at hset
  rcases hm : j.member? f.key with _ | v
  · rw [hm] at hset
    rw [← Option.some.inj hset, id]
  · rw [hm] at hset
    exact h v set hset c

end FieldAssignment

/-- An observation that every assignment leaves alone comes out as it went in. -/
theorem assignFields_keeps {α : Type} {g : SystemConfig → α} {fs : List FieldAssignment}
    (h : ∀ f ∈ fs, f.Keeps g) (j : Json) (c : SystemConfig) :
    g (assignFields j fs c).1 = g c := by
  induction fs generalizing c with
  | nil => rfl
  | cons f fs ih =>
    rw [List.forall_mem_cons] at h
    rw [assignFields]
    rcases hu : f.update j with _ | set
    · rfl
    · exact (ih h.2 (set c)).trans (h.1.update hu c)

end LanProxyGateway
