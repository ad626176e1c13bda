import LanProxyGateway.ConfigManager.JwtSecret
import LanProxyGateway.WebServer.Settings

/-!
# The settings survive a restart

`PUT /api/settings` changes the configuration in memory and has `config_loader::save` write all of
it to the file it was loaded from; a new process loads that file over the defaults. Whatever the
requests in between were, and however they were answered, the new process has the configuration that
the last complete save wrote, field by field (`settings_survive_restart`).

Two facts carry this. A field that is written out and read again is what it was, provided that a
number is an `int`: reading cuts off the rest (`Restores`). And every number in the configuration is
an `int`, because each of them came out of such a reading, or of `std::stoi` (`InRange`).
-/

open Foundation ByteString

namespace LanProxyGateway

namespace SystemConfig

/-- All numbers of the configuration are of the type `int`. -/
def InRange (c : SystemConfig) : Prop := ∀ n, .integer n ∈ c.values → Json.castInt n = n

theorem inRange_default : ({} : SystemConfig).InRange := by
  intro n hn
  simp only [values, savedFields, List.map_cons, List.map_nil, List.mem_cons, List.not_mem_nil,
    Json.integer.injEq, reduceCtorEq, or_false, false_or] at hn
  exact Json.castInt_of_bounds (by omega) (by omega)

/-- A change of one field, to what is no number or to an `int`. -/
theorem InRange.set {c d : SystemConfig} (h : c.InRange) {i : ℕ} {v : Json}
    (hset : d.values = c.values.set i v) (hv : ∀ n, v = .integer n → Json.castInt n = n) :
    d.InRange := by
  intro n hn
  rw [hset] at hn
  rcases List.mem_or_eq_of_mem_set hn with hold | rfl
  · exact h n hold
  · exact hv n rfl

theorem InRange.set_string {c d : SystemConfig} (h : c.InRange) {i : ℕ} {s : ByteString}
    (hset : d.values = c.values.set i (.string s)) : d.InRange :=
  h.set hset fun n hn ↦ by cases hn

/-- The port of an option. -/
theorem InRange.set_stoi {c d : SystemConfig} (h : c.InRange) {i : ℕ} {s : ByteString} {n : Int}
    (hset : d.values = c.values.set i (.integer n)) (hn : stoi s = .ok n) : d.InRange := by
  refine h.set hset fun m hm ↦ ?_
  obtain ⟨hlo, hhi⟩ := bounds_of_stoi hn
  rw [← Json.integer.inj hm]
  exact Json.castInt_of_bounds hlo hhi

end SystemConfig

/-- Each field of the list has the property `P` of its place; the places go from the `i`-th on. -/
def EachFrom (P : ℕ → FieldAssignment → Prop) : ℕ → List FieldAssignment → Prop
  | _, [] => True
  | i, f :: fs => P i f ∧ EachFrom P (i + 1) fs

/-! ## The numbers are of the type `int` -/

namespace FieldAssignment

/-- The assignment writes the `i`-th place, and a number that it writes is an `int`. -/
def Fits (i : ℕ) (f : FieldAssignment) : Prop :=
  ∀ v set, f.assign v = some set → ∃ x, (∀ c, (set c).values = c.values.set i x) ∧
    ∀ n, x = .integer n → Json.castInt n = n

variable {i : ℕ}

theorem fits_map {β : Type} {key : ByteString} {convert : Json → Option β}
    {set : β → SystemConfig → SystemConfig} {toJson : β → Json}
    (hset : ∀ b c, (set b c).values = c.values.set i (toJson b))
    (hfits : ∀ v b n, convert v = some b → toJson b = .integer n → Json.castInt n = n) :
    Fits i ⟨key, fun v ↦ (convert v).map set⟩ := by
  intro v set' hv
  obtain ⟨b, hb, rfl⟩ := Option.map_eq_some_iff.mp hv
  exact ⟨toJson b, hset b, fun n hn ↦ hfits v b n hb hn⟩

theorem fits_int {key : String} {set : Int → SystemConfig → SystemConfig}
    (hset : ∀ n c, (set n c).values = c.values.set i (.integer n)) : (int key set).Fits i := by
  refine fits_map hset fun v b n hb hn ↦ ?_
  rw [← Json.integer.inj hn]
  exact Json.castInt_of_getInt hb

theorem fits_bool {key : String} {set : Bool → SystemConfig → SystemConfig}
    (hset : ∀ b c, (set b c).values = c.values.set i (.boolean b)) : (bool key set).Fits i :=
  fits_map hset fun _ _ _ _ hn ↦ by cases hn

theorem fits_double {key : String} {set : ℚ → SystemConfig → SystemConfig}
    (hset : ∀ x c, (set x c).values = c.values.set i (.float x)) : (double key set).Fits i :=
  fits_map hset fun _ _ _ _ hn ↦ by cases hn

theorem fits_string {key : String} {set : ByteString → SystemConfig → SystemConfig}
    (hset : ∀ s c, (set s c).values = c.values.set i (.string s)) : (string key set).Fits i :=
  fits_map hset fun _ _ _ _ hn ↦ by cases hn

theorem Fits.update {f : FieldAssignment} (h : f.Fits i) {j : Json}
    {set : SystemConfig → SystemConfig} (hset : f.update j = some set) {c : SystemConfig}
    (hc : c.InRange) : (set c).InRange := by
  rw [FieldAssignment.update] at hset
  cases hm : j.member? f.key with
  | none =>
    rw [hm] at hset
    rw [← Option.some.inj hset]
    exact hc
  | some v =>
    rw [hm] at hset
    obtain ⟨x, hx, hint⟩ := h v set hset
    exact hc.set (hx c) hint

end FieldAssignment

theorem inRange_assignFields {fs : List FieldAssignment} (h : ∀ f ∈ fs, ∃ i, f.Fits i) (j : Json)
    {c : SystemConfig} (hc : c.InRange) : (assignFields j fs c).1.InRange := by
  induction fs generalizing c with
  | nil => exact hc
  | cons f fs ih =>
    rw [List.forall_mem_cons] at h
    obtain ⟨⟨i, hf⟩, hrest⟩ := h
    rw [assignFields]
    cases hu : f.update j with
    | none => exact hc
    | some set => exact ih hrest (hf.update hu hc)

open FieldAssignment in
theorem fits_configFields : EachFrom Fits 0 configFields := by
  refine ⟨?_, ?_, ?_, ?_, ?_, ?_, ?_, ?_, ?_, ?_, ?_, ?_, ?_, ?_, ?_, ?_, ?_, ?_, ?_, ?_, ?_, ?_,
    ?_, ?_, ?_, ?_, ?_, ?_, ?_, ?_, ?_, ?_, ?_, ?_, ?_, trivial⟩
  all_goals
    first
    | exact fits_int fun _ _ ↦ rfl
    | exact fits_bool fun _ _ ↦ rfl
    | exact fits_double fun _ _ ↦ rfl
    | exact fits_string fun _ _ ↦ rfl

theorem EachFrom.exists_of_mem {P : ℕ → FieldAssignment → Prop} {fs : List FieldAssignment} {i : ℕ}
    (h : EachFrom P i fs) : ∀ f ∈ fs, ∃ k, P k f := by
  induction fs generalizing i with
  | nil => exact fun f hf ↦ absurd hf List.not_mem_nil
  | cons f fs ih => exact List.forall_mem_cons.mpr ⟨⟨i, h.1⟩, ih h.2⟩

/-! ## What is written is read again -/

/-- The field has the `i`-th place in the file, and reading what stands there for `c` gives it the
value that it has in `c`. -/
def FieldAssignment.Restores (c : SystemConfig) (i : ℕ) (f : FieldAssignment) : Prop :=
  ∃ name v, c.savedFields[i]? = some (name, v) ∧ f.key = ofString name ∧
    ∃ set, f.assign v = some set ∧ ∀ d, (set d).values = d.values.set i v

namespace FieldAssignment

variable {c : SystemConfig} {i : ℕ}

theorem restores_map {β : Type} {key : String} {convert : Json → Option β}
    {set : β → SystemConfig → SystemConfig} (toJson : β → Json) {b : β}
    (hfield : c.savedFields[i]? = some (key, toJson b)) (hconvert : convert (toJson b) = some b)
    (hset : ∀ d, (set b d).values = d.values.set i (toJson b)) :
    Restores c i ⟨ofString key, fun v ↦ (convert v).map set⟩ :=
  ⟨key, toJson b, hfield, rfl, set b, Option.map_eq_some_iff.mpr ⟨b, hconvert, rfl⟩, hset⟩

theorem restores_int (hc : c.InRange) {key : String} {set : Int → SystemConfig → SystemConfig}
    {n : Int} (hfield : c.savedFields[i]? = some (key, .integer n))
    (hset : ∀ d, (set n d).values = d.values.set i (.integer n)) :
    (int key set).Restores c i := by
  refine restores_map _ hfield ?_ hset
  have hmem : .integer n ∈ c.values := List.mem_map.mpr ⟨_, List.mem_of_getElem? hfield, rfl⟩
  rw [Json.getInt_integer, hc n hmem]

end FieldAssignment

open FieldAssignment in
theorem restores_configFields {c : SystemConfig} (hc : c.InRange) :
    EachFrom (Restores c) 0 configFields := by
  refine ⟨?_, ?_, ?_, ?_, ?_, ?_, ?_, ?_, ?_, ?_, ?_, ?_, ?_, ?_, ?_, ?_, ?_, ?_, ?_, ?_, ?_, ?_,
    ?_, ?_, ?_, ?_, ?_, ?_, ?_, ?_, ?_, ?_, ?_, ?_, ?_, trivial⟩
  all_goals
    first
    | exact restores_int hc rfl fun _ ↦ rfl
    | exact restores_map .boolean rfl rfl fun _ ↦ rfl
    | exact restores_map .float rfl rfl fun _ ↦ rfl
    | exact restores_map .string rfl rfl fun _ ↦ rfl

theorem nodup_keys (c : SystemConfig) : (c.savedFields.map Prod.fst).Nodup := by
  have hkeys : c.savedFields.map Prod.fst = ({} : SystemConfig).savedFields.map Prod.fst := rfl
  rw [hkeys]
  decide

/-- A field finds its value in the file, and puts it where it belongs. -/
theorem FieldAssignment.Restores.exists_update {c : SystemConfig} {i : ℕ} {f : FieldAssignment}
    (h : f.Restores c i) (d : SystemConfig) :
    ∃ set, f.update c.toJson = some set ∧ (set d).values[i]? = c.values[i]? ∧
      ∀ k, k ≠ i → (set d).values[k]? = d.values[k]? := by
  obtain ⟨name, v, hfield, hkey, set, hassign, hset⟩ := h
  have hmember : c.toJson.member? f.key = some v := by
    rw [hkey]
    exact Json.member?_ofFields_of_getElem? (nodup_keys c) hfield
  have hvalue : c.values[i]? = some v := by
    rw [SystemConfig.values, List.getElem?_map, hfield, Option.map_some]
  -- all configurations have the same places
  have hplace : i < d.values.length := (List.getElem?_eq_some_iff.mp hvalue).1
  refine ⟨set, ?_, ?_, fun k hk ↦ ?_⟩
  · rw [FieldAssignment.update, hmember, ← hassign]
  · rw [hset, hvalue, List.getElem?_set_self hplace]
  · rw [hset, List.getElem?_set_ne hk.symm]

/-- Reading what was written brings over the fields one by one. -/
theorem assignFields_restores {c : SystemConfig} {fs : List FieldAssignment} {i : ℕ}
    (h : EachFrom (FieldAssignment.Restores c) i fs) (d : SystemConfig) :
    (assignFields c.toJson fs d).2 = true ∧
      ∀ k, (assignFields c.toJson fs d).1.values[k]? =
        if i ≤ k ∧ k < i + fs.length then c.values[k]? else d.values[k]? := by
  induction fs generalizing i d with
  | nil =>
    refine ⟨rfl, fun k ↦ ?_⟩
    rw [if_neg (by simp), assignFields]
  | cons f fs ih =>
    obtain ⟨set, hupdate, hself, hother⟩ := h.1.exists_update d
    obtain ⟨hthrough, hvalues⟩ := ih h.2 (set d)
    rw [assignFields, hupdate]
    refine ⟨hthrough, fun k ↦ ?_⟩
    rw [hvalues k, List.length_cons]
    -- the place of the first field, the places of the rest, and all others
    by_cases hk : k = i
    · subst hk
      rw [if_neg (by omega), if_pos (by omega), hself]
    · have hplaces : i + 1 ≤ k ∧ k < i + 1 + fs.length ↔ i ≤ k ∧ k < i + (fs.length + 1) := by
        omega
      rw [hother k hk]
      exact if_congr hplaces rfl rfl

/-- **Writing and reading.** Loading what was written for a configuration gives this configuration,
whatever the loader had before. -/
theorem assignFields_toJson {c : SystemConfig} (hc : c.InRange) (d : SystemConfig) :
    assignFields c.toJson configFields d = (c, true) := by
  obtain ⟨hthrough, hvalues⟩ := assignFields_restores (restores_configFields hc) d
  refine Prod.ext (SystemConfig.values_injective (List.ext_getElem? fun k ↦ ?_)) hthrough
  rw [hvalues k]
  split_ifs with hk
  · rfl
  · have hlong : 35 ≤ k := by
      have hlength : configFields.length = 35 := rfl
      omega
    rw [List.getElem?_eq_none hlong, List.getElem?_eq_none hlong]

theorem loadConfig_toJson (e : Entropy) {c : SystemConfig} (hc : c.InRange) (d : SystemConfig) :
    ConfigLoader.loadConfig e (.json c.toJson) d = (ConfigLoader.supplySecret e c, true) := by
  rw [ConfigLoader.loadConfig, assignFields_toJson hc]
  rfl

/-! ## The start of the program -/

theorem SystemConfig.InRange.loadConfig {c : SystemConfig} (h : c.InRange) (e : Entropy)
    (content : FileContent) : (ConfigLoader.loadConfig e content c).1.InRange := by
  have hsecret : ∀ {d : SystemConfig}, d.InRange → (ConfigLoader.supplySecret e d).InRange := by
    intro d hd
    rw [ConfigLoader.supplySecret]
    split_ifs
    · exact hd.set_string (i := 11) (s := ConfigLoader.randomSecret e) rfl
    · exact hd
  cases content with
  | absent =>
    rw [ConfigLoader.loadConfig, ConfigLoader.supplyPassword]
    split_ifs
    · exact (hsecret h).set_string (i := 10) rfl
    · exact hsecret h
  | malformed => exact h
  | json j =>
    have hassigned : (assignFields j configFields c).1.InRange :=
      inRange_assignFields fits_configFields.exists_of_mem j h
    simp only [ConfigLoader.loadConfig]
    split_ifs
    · exact hsecret hassigned
    · exact hassigned

namespace Startup

theorem inRange_applyCliOverrides {w : Startup} {args : List ByteString} {n k : ℕ}
    {l l' : ConfigLoader} (h : w.applyCliOverrides args n l = .ok (k, l'))
    (hl : l.config.InRange) : l'.config.InRange := by
  fun_induction w.applyCliOverrides args n l with
  | case1 | case3 =>
    cases h
    exact hl
  | case4 value rest n l ih => exact ih h (hl.loadConfig _ _)
  | case5 value rest n l port hport _ ih =>
    exact ih h (hl.set_stoi (i := 0) (d := (l.setProxyPort port).config) rfl hport)
  | case7 value rest n l port hport _ _ ih =>
    exact ih h (hl.set_stoi (i := 1) (d := (l.setWebUiPort port).config) rfl hport)
  | case2 | case6 | case8 | case9 => cases h
  | case10 arg value rest n l _ _ _ _ ih => exact ih h hl

/-- The last thing `main` does to the configuration is to load a file into it. -/
theorem exists_load_of_loaderAtSetSecret {w : Startup} {args : List ByteString} {l : ConfigLoader}
    (h : w.loaderAtSetSecret args = .ok l) :
    ∃ (n : ℕ) (d : SystemConfig), d.InRange ∧
      l.config = (ConfigLoader.loadConfig (w.entropy n) (w.files l.configPath) d).1 := by
  rw [loaderAtSetSecret] at h
  rcases hcli : w.applyCliOverrides args 0 {} with e | ⟨n, l'⟩
  · rw [hcli] at h
    cases h
  · rw [hcli] at h
    have hl : l = (l'.load (w.entropy n) w.files
      (configPath args (ofString "config/default_system.json"))).1 := (Except.ok.inj h).symm
    refine ⟨n, l'.config, inRange_applyCliOverrides hcli SystemConfig.inRange_default, ?_⟩
    rw [hl]
    rfl

theorem inRange_loaderAtSetSecret {w : Startup} {args : List ByteString} {l : ConfigLoader}
    (h : w.loaderAtSetSecret args = .ok l) : l.config.InRange := by
  obtain ⟨n, d, hd, hl⟩ := exists_load_of_loaderAtSetSecret h
  rw [hl]
  exact hd.loadConfig _ _

end Startup

/-! ## The requests -/

/-- One call of `PUT /api/settings`, and what the file system says to the save in it. -/
structure SettingsCall where
  answer : UserManager.SaveAnswer := {}
  body : Option Json

namespace Console

def settingsCall (s : Console) (call : SettingsCall) : Console × ApiReply :=
  s.putSettings call.answer call.body

/-- The console after the calls. -/
def settingsRun (s : Console) (calls : List SettingsCall) : Console :=
  calls.foldl (fun s call ↦ (s.settingsCall call).1) s

/-- The call came to its end, and the new file is in the place of the old one. -/
def replacesFile (s : Console) (call : SettingsCall) : Bool :=
  match (s.settingsCall call).2 with
  | .saved _ => !s.loader.configPath.isEmpty && call.answer.opensTmp && call.answer.renames
  | _ => false

/-- The configuration that the last call with a new file wrote, unless its text was cut short;
`held` where there was no such call. -/
def lastSaved (s : Console) (held : Option SystemConfig) : List SettingsCall → Option SystemConfig
  | [] => held
  | call :: calls =>
    let t := (s.settingsCall call).1
    lastSaved t (if s.replacesFile call then
      (if call.answer.writes then some t.loader.config else none) else held) calls

/-- The file holds the configuration `held`, if any, and it can be read again. The path of the file
and the secret are the ones that the program started with. -/
structure Backed (l : ConfigLoader) (s : Console) (held : Option SystemConfig) : Prop where
  inRange : s.loader.config.InRange
  secret : s.loader.config.jwtSecret = l.config.jwtSecret
  path : s.loader.configPath = l.configPath
  file : ∀ c, held = some c →
    s.configFile = .json c.toJson ∧ c.InRange ∧ c.jwtSecret = l.config.jwtSecret

theorem fits_settingsFields : ∀ f ∈ settingsFields, ∃ i, f.Fits i := by
  have hsubset : settingsFields ⊆ configFields := by
    intro f hf
    simp only [settingsFields, earlySettings, lateSettings, configFields, fieldsBeforeSecret,
      List.mem_append, List.mem_cons, List.not_mem_nil, or_false] at hf ⊢
    tauto
  exact fun f hf ↦ fits_configFields.exists_of_mem f (hsubset hf)

theorem keeps_secret_settingsFields :
    ∀ f ∈ settingsFields, f.Keeps SystemConfig.jwtSecret := by
  simp only [settingsFields, earlySettings, lateSettings, List.cons_append, List.nil_append,
    List.forall_mem_cons]
  refine ⟨?_, ?_, ?_, ?_, ?_, ?_, ?_, fun f hf ↦ absurd hf List.not_mem_nil⟩
  all_goals exact FieldAssignment.keeps_map fun _ _ ↦ rfl

/-- What a call does to the file and to its path. -/
theorem settingsCall_file (s : Console) (call : SettingsCall) :
    (s.settingsCall call).1.loader.configPath = s.loader.configPath ∧
      (s.settingsCall call).1.configFile =
        if s.replacesFile call then
          (if call.answer.writes then .json (s.settingsCall call).1.loader.config.toJson
            else .malformed)
        else s.configFile := by
  rcases call with ⟨answer, _ | j⟩
  · exact ⟨rfl, rfl⟩
  rw [replacesFile, settingsCall, putSettings]
  rcases assignFields j earlySettings s.loader.config with ⟨c, _ | _⟩
  · exact ⟨rfl, rfl⟩
  rcases hlate : assignFields j lateSettings c with ⟨d, _ | _⟩
  · exact ⟨rfl, rfl⟩
  -- all settings are assigned, and `save` is called
  rcases hsave : ConfigLoader.save answer ⟨d, s.loader.configPath⟩ s.configFile with e | ⟨_, file⟩
  · simp [setConfig, hsave]
  · simp only [Bool.not_true, Bool.false_eq_true, if_false, setConfig, hsave, true_and]
    rw [ConfigLoader.save] at hsave
    split_ifs at hsave with hpath hopens hserializable hrenames hwrites
    all_goals
      cases hsave
      simp_all

/-- **One call** keeps the file and the configuration together. -/
theorem Backed.settingsCall {l : ConfigLoader} {s : Console} {held : Option SystemConfig}
    (h : s.Backed l held) (call : SettingsCall) :
    (s.settingsCall call).1.Backed l (if s.replacesFile call then
      (if call.answer.writes then some (s.settingsCall call).1.loader.config else none)
      else held) := by
  obtain ⟨hpath, hfile⟩ := settingsCall_file s call
  have hinRange : (s.settingsCall call).1.loader.config.InRange := by
    rcases call with ⟨answer, _ | j⟩
    · exact h.inRange
    · rw [Console.settingsCall, (putSettings_spec answer s j).1]
      exact inRange_assignFields fits_settingsFields j h.inRange
  have hsecret : (s.settingsCall call).1.loader.config.jwtSecret = l.config.jwtSecret := by
    rcases call with ⟨answer, _ | j⟩
    · exact h.secret
    · rw [Console.settingsCall, (putSettings_spec answer s j).1,
        assignFields_keeps keeps_secret_settingsFields, h.secret]
  refine ⟨hinRange, hsecret, hpath.trans h.path, fun c hc ↦ ?_⟩
  rw [hfile]
  split_ifs at hc ⊢ with hreplaces hwrites
  · rw [← Option.some.inj hc]
    exact ⟨rfl, hinRange, hsecret⟩
  · exact h.file c hc

theorem Backed.settingsRun {l : ConfigLoader} {s : Console} {held : Option SystemConfig}
    (h : s.Backed l held) (calls : List SettingsCall) :
    (s.settingsRun calls).Backed l (s.lastSaved held calls) := by
  induction calls generalizing s held with
  | nil => exact h
  | cons call calls ih => exact ih (h.settingsCall call)

/-- **The settings survive a restart.** The program starts, answers any calls of
`PUT /api/settings`, and starts again with the same file: it then has the configuration that the
last complete save wrote, and the secret of before. -/
theorem settings_survive_restart {w w' : Startup} {args args' : List ByteString} {s : Console}
    {calls : List SettingsCall} {c : SystemConfig} {l : ConfigLoader}
    (hstart : w.loaderAtSetSecret args = .ok s.loader) (hsecret : s.loader.config.jwtSecret ≠ [])
    (hsaved : s.lastSaved none calls = some c) (hrestart : w'.loaderAtSetSecret args' = .ok l)
    (hpath : l.configPath = s.loader.configPath)
    (hfile : w'.files s.loader.configPath = (s.settingsRun calls).configFile) :
    l.config = c ∧ l.config.jwtSecret = s.loader.config.jwtSecret := by
  have hbacked : s.Backed s.loader none :=
    ⟨Startup.inRange_loaderAtSetSecret hstart, rfl, rfl, fun c hc ↦ by cases hc⟩
  obtain ⟨hjson, hc, hkept⟩ := (hbacked.settingsRun calls).file c hsaved
  obtain ⟨n, d, -, hload⟩ := Startup.exists_load_of_loaderAtSetSecret hrestart
  have hne : ¬c.jwtSecret.isEmpty := by
    rw [hkept, List.isEmpty_iff]
    exact hsecret
  have hconfig : l.config = c := by
    rw [hload, hpath, hfile, hjson, loadConfig_toJson _ hc, ConfigLoader.supplySecret, if_neg hne]
  refine ⟨hconfig, ?_⟩
  rw [hconfig, hkept]

/-- The console of a program that has found no file. -/
def blankConsole : Console where
  loader := (ConfigLoader.load {} (blankStartup.entropy 0) blankStartup.files
    (ofString "config/default_system.json")).1

def newPort : SettingsCall where
  body := some (.ofFields [("proxy_port", .integer 1080)])

/-- Another port, and a number of threads that is none. -/
def badThreads : SettingsCall where
  body := some (.ofFields [("proxy_port", .integer 1081), ("proxy_thread_count", .null)])

/-- The start after these two calls. -/
def portStartup : Startup where
  files := fun _ ↦ (blankConsole.settingsRun [newPort, badThreads]).configFile
  entropy := blankStartup.entropy

theorem lastSaved_newPort : blankConsole.lastSaved none [newPort, badThreads] =
    some { blankConsole.loader.config with proxyPort := 1080 } := by
  have hnew : blankConsole.replacesFile newPort = true := by decide +kernel
  have hbad : (blankConsole.settingsCall newPort).1.replacesFile badThreads = false := by
    decide +kernel
  simp only [lastSaved, hnew, hbad]
  rfl

/-- The program finds the port of the call that went through, and its secret. -/
theorem portStartup_settings_survive :
    ∃ l, portStartup.loaderAtSetSecret [] = .ok l ∧
      l.config = { blankConsole.loader.config with proxyPort := 1080 } ∧
      l.config.jwtSecret = blankConsole.loader.config.jwtSecret := by
  have hstart : blankStartup.loaderAtSetSecret [] = .ok blankConsole.loader := rfl
  obtain ⟨l, hrestart, hpath⟩ : ∃ l, portStartup.loaderAtSetSecret [] = .ok l ∧
      l.configPath = blankConsole.loader.configPath := ⟨_, rfl, rfl⟩
  exact ⟨l, hrestart,
    settings_survive_restart hstart (by decide) lastSaved_newPort hrestart hpath rfl⟩

end Console

end LanProxyGateway
