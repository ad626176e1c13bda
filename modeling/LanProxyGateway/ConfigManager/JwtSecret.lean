import LanProxyGateway.ConfigManager.ConfigLoader
import LanProxyGateway.Foundation.Run

/-!
# When the secret that `main` sets is empty

A file that is absent, and one whose assignments all go through, leave a secret: their own or a
random one. A file that stops the assignments leaves whatever secret it got to assigning, and the
one from before if it did not get that far; nothing makes up a random one on that exit. Since the
secret starts out empty, `main` sets a non-empty one exactly when some file it loads gives one and
no file after that takes it away again.
-/

open Foundation ByteString

namespace LanProxyGateway

/-! ## What one file does to the secret -/

/-- The string under `jwt_secret`. -/
def secretIn (j : Json) : Option ByteString :=
  (j.member? (ofString "jwt_secret")).bind Json.getString

/-- Loading the file leaves a non-empty secret, whatever it was before. -/
def GivesSecret : FileContent → Prop
  | .absent => True
  | .malformed => False
  | .json j => WellTyped j configFields ∨
      WellTyped j fieldsBeforeSecret ∧ ∃ s, secretIn j = some s ∧ s ≠ []

/-- Loading the file assigns an empty secret and then stops at a field of the wrong type. -/
def ClearsSecret : FileContent → Prop
  | .json j =>
      WellTyped j fieldsBeforeSecret ∧ secretIn j = some [] ∧ ¬WellTyped j fieldsAfterSecret
  | _ => False

theorem wellTyped_configFields_iff {j : Json} : WellTyped j configFields ↔
    WellTyped j fieldsBeforeSecret ∧ (secretField.update j).isSome ∧
      WellTyped j fieldsAfterSecret := by
  rw [WellTyped, configFields, List.forall_mem_append, List.forall_mem_cons]
  rfl

/-- The secret after its own assignment. -/
theorem update_secretField (j : Json) :
    (secretField.update j = none ∧ secretIn j = none) ∨
      ∃ set, secretField.update j = some set ∧
        ∀ c, (set c).jwtSecret = (secretIn j).getD c.jwtSecret := by
  rw [FieldAssignment.update, secretIn, show secretField.key = ofString "jwt_secret" from rfl]
  rcases j.member? (ofString "jwt_secret") with _ | v
  · exact .inr ⟨id, rfl, fun c ↦ rfl⟩
  · have hassign : secretField.assign v =
        v.getString.map fun s c ↦ { c with jwtSecret := s } := rfl
    rcases hv : v.getString with _ | s
    · refine .inl ⟨?_, ?_⟩
      · rw [hv] at hassign
        exact hassign
      · rw [Option.bind_some, hv]
    · refine .inr ⟨fun c ↦ { c with jwtSecret := s }, ?_, fun c ↦ ?_⟩
      · rw [hv] at hassign
        exact hassign
      · rw [Option.bind_some, hv]
        rfl

private theorem before_keeps : ∀ f ∈ fieldsBeforeSecret, f.Keeps SystemConfig.jwtSecret := by
  rw [fieldsBeforeSecret]
  simp only [List.forall_mem_cons]
  and_intros
  all_goals first
    | exact FieldAssignment.keeps_map fun _ _ ↦ rfl
    | exact fun f hf ↦ absurd hf List.not_mem_nil

private theorem after_keeps : ∀ f ∈ fieldsAfterSecret, f.Keeps SystemConfig.jwtSecret := by
  rw [fieldsAfterSecret]
  simp only [List.forall_mem_cons]
  and_intros
  all_goals first
    | exact FieldAssignment.keeps_map fun _ _ ↦ rfl
    | exact fun f hf ↦ absurd hf List.not_mem_nil

/-- The secret after the assignments of a file: that of the file where they got so far, the one from
before elsewhere. -/
theorem jwtSecret_assignFields (j : Json) (c : SystemConfig) :
    (assignFields j configFields c).1.jwtSecret =
      if WellTyped j fieldsBeforeSecret then (secretIn j).getD c.jwtSecret else c.jwtSecret := by
  have hbefore := assignFields_keeps before_keeps j c
  rw [configFields, assignFields_append]
  by_cases hwt : WellTyped j fieldsBeforeSecret
  · rw [if_pos ((assignFields_snd j _ c).mpr hwt), if_pos hwt, assignFields]
    rcases update_secretField j with ⟨hnone, hsec⟩ | ⟨set, hset, hsec⟩
    · rw [hnone, hsec, Option.getD_none]
      exact hbefore
    · rw [hset, ← hbefore, ← hsec]
      exact assignFields_keeps after_keeps j _
  · rw [if_neg (fun h ↦ hwt ((assignFields_snd j _ c).mp h)), if_neg hwt]
    exact hbefore

theorem randomSecret_ne_nil (e : Entropy) : ConfigLoader.randomSecret e ≠ [] := by
  rcases hw : e.words.toList with _ | ⟨w, ws⟩
  · have hlen : e.words.toList.length = 8 := e.words.length_toList
    rw [hw] at hlen
    cases hlen
  · rw [ConfigLoader.randomSecret, hw, List.flatMap_cons]
    exact List.append_ne_nil_of_left_ne_nil (hex8_ne_nil w) _

theorem jwtSecret_supplySecret (e : Entropy) (c : SystemConfig) :
    (ConfigLoader.supplySecret e c).jwtSecret ≠ [] := by
  rw [ConfigLoader.supplySecret]
  by_cases h : c.jwtSecret.isEmpty
  · rw [if_pos h]
    exact randomSecret_ne_nil e
  · rw [if_neg h]
    exact fun hnil ↦ h (List.isEmpty_iff.mpr hnil)

theorem jwtSecret_supplyPassword (e : Entropy) (c : SystemConfig) :
    (ConfigLoader.supplyPassword e c).jwtSecret = c.jwtSecret := by
  rw [ConfigLoader.supplyPassword]
  split <;> rfl

/-- **One load.** Afterwards the secret is non-empty exactly when the file gives one, or there was
one before and the file does not take it away. -/
theorem jwtSecret_loadConfig_ne_nil_iff (e : Entropy) (content : FileContent) (c : SystemConfig) :
    (ConfigLoader.loadConfig e content c).1.jwtSecret ≠ [] ↔
      GivesSecret content ∨ c.jwtSecret ≠ [] ∧ ¬ClearsSecret content := by
  rcases content with _ | _ | j
  · rw [ConfigLoader.loadConfig, jwtSecret_supplyPassword]
    exact ⟨fun _ ↦ .inl trivial, fun _ ↦ jwtSecret_supplySecret e c⟩
  · exact ⟨fun h ↦ .inr ⟨h, id⟩, fun h ↦ h.elim False.elim And.left⟩
  · rw [ConfigLoader.loadConfig, GivesSecret, ClearsSecret]
    by_cases hall : WellTyped j configFields
    · have hcompleted : (assignFields j configFields c).2 = true :=
        (assignFields_snd j _ c).mpr hall
      simp only [hcompleted, if_true]
      exact ⟨fun _ ↦ .inl (.inl hall), fun _ ↦ jwtSecret_supplySecret e _⟩
    · have hstopped : (assignFields j configFields c).2 = false := by
        rwa [← Bool.not_eq_true, assignFields_snd]
      have hafter : WellTyped j fieldsBeforeSecret → (secretIn j).isSome →
          ¬WellTyped j fieldsAfterSecret := by
        intro hwt hsome hwt'
        refine hall (wellTyped_configFields_iff.mpr ⟨hwt, ?_, hwt'⟩)
        rcases update_secretField j with ⟨-, hnone⟩ | ⟨set, hset, -⟩
        · rw [hnone] at hsome
          exact absurd hsome (by decide)
        · rw [hset]
          rfl
      simp only [hstopped, Bool.false_eq_true, if_false, jwtSecret_assignFields]
      by_cases hwt : WellTyped j fieldsBeforeSecret
      · rw [if_pos hwt]
        rcases hs : secretIn j with _ | s
        · simp [hall]
        · have hno := hafter hwt (by rw [hs]; rfl)
          simp [hall, hwt, hno]
      · rw [if_neg hwt]
        simp [hall, hwt]

/-! ## What the whole start does to the secret -/

/-- The paths the option loop loads, in order. The values of the two port options are skipped. -/
def optionPaths : List ByteString → List ByteString
  | [] => []
  | [_] => []
  | arg :: value :: rest =>
    if arg = ofString "--config" then value :: optionPaths rest
    else if arg = ofString "--proxy-port" ∨ arg = ofString "--web-port" then optionPaths rest
    else optionPaths (value :: rest)

/-- All paths `main` loads before it sets the secret. -/
def loadedPaths (args : List ByteString) : List ByteString :=
  optionPaths args ++ [Startup.configPath args (ofString "config/default_system.json")]

/-- Among files loaded one after the other, one gives a secret and none after it takes it away. -/
def SecretSupplied (contents : List FileContent) : Prop :=
  ∃ pre content post, contents = pre ++ content :: post ∧ GivesSecret content ∧
    ∀ d ∈ post, ¬ClearsSecret d

theorem secretSupplied_iff_flag (contents : List FileContent) :
    SecretSupplied contents ↔ flag GivesSecret ClearsSecret False contents := by
  rw [flag_iff, false_and, false_or]
  rfl

/-- The option loop folds the flag over the files it loads. -/
theorem jwtSecret_applyCliOverrides (w : Startup) {args : List ByteString} {n m : ℕ}
    {l l' : ConfigLoader} (h : w.applyCliOverrides args n l = .ok (m, l'))
    (rest : List FileContent) :
    flag GivesSecret ClearsSecret (l'.config.jwtSecret ≠ []) rest ↔
      flag GivesSecret ClearsSecret (l.config.jwtSecret ≠ [])
        ((optionPaths args).map w.files ++ rest) := by
  induction args, n, l using Startup.applyCliOverrides.induct w with
  | case1 n l =>
    rw [Startup.applyCliOverrides] at h
    cases h
    rfl
  | case2 n l =>
    rw [Startup.applyCliOverrides, if_pos rfl] at h
    cases h
  | case3 arg n l hhelp =>
    rw [Startup.applyCliOverrides, if_neg hhelp] at h
    cases h
    rfl
  | case4 value args n l ih =>
    rw [Startup.applyCliOverrides, if_pos rfl] at h
    rw [optionPaths, if_pos rfl, List.map_cons, List.cons_append, flag,
      ← jwtSecret_loadConfig_ne_nil_iff (w.entropy n)]
    exact ih h
  | case5 value args n l port hport hne ih =>
    rw [Startup.applyCliOverrides, if_neg hne, if_pos rfl, hport] at h
    rw [optionPaths, if_neg hne, if_pos (.inl rfl)]
    exact ih h
  | case6 value args n l e he hne =>
    rw [Startup.applyCliOverrides, if_neg hne, if_pos rfl, he] at h
    cases h
  | case7 value args n l port hport hne hne' ih =>
    rw [Startup.applyCliOverrides, if_neg hne, if_neg hne', if_pos rfl, hport] at h
    rw [optionPaths, if_neg hne, if_pos (.inr rfl)]
    exact ih h
  | case8 value args n l e he hne hne' =>
    rw [Startup.applyCliOverrides, if_neg hne, if_neg hne', if_pos rfl, he] at h
    cases h
  | case9 value args n l hne hne' hne'' =>
    rw [Startup.applyCliOverrides, if_neg hne, if_neg hne', if_neg hne'', if_pos rfl] at h
    cases h
  | case10 arg value args n l hne hne' hne'' hhelp ih =>
    rw [Startup.applyCliOverrides, if_neg hne, if_neg hne', if_neg hne'', if_neg hhelp] at h
    rw [optionPaths, if_neg hne, if_neg (not_or.mpr ⟨hne', hne''⟩)]
    exact ih h

/-- **The secret `main` sets.** It is non-empty exactly when one of the files loaded gives a secret
and none loaded after it takes it away. -/
theorem secretSet_ne_nil_iff (w : Startup) (args : List ByteString) (s : ByteString)
    (h : w.secretSet args = .ok s) : s ≠ [] ↔ SecretSupplied ((loadedPaths args).map w.files) := by
  rw [Startup.secretSet, Startup.loaderAtSetSecret] at h
  rcases hcli : w.applyCliOverrides args 0 {} with e | ⟨n, l⟩
  · rw [hcli] at h
    cases h
  · rw [hcli] at h
    cases h
    rw [secretSupplied_iff_flag, loadedPaths, List.map_append]
    have hloop := jwtSecret_applyCliOverrides w hcli
      [w.files (Startup.configPath args (ofString "config/default_system.json"))]
    rw [flag, flag, ← jwtSecret_loadConfig_ne_nil_iff (w.entropy n)] at hloop
    have hinit : ¬(({} : ConfigLoader).config.jwtSecret ≠ []) := fun h ↦ h rfl
    rw [eq_false hinit] at hloop
    exact hloop

/-- A start without any file. -/
def blankStartup : Startup where
  files := fun _ ↦ .absent
  entropy := fun _ ↦ ⟨.replicate 8 0, [], ⟨fun _ ↦ none, fun _ _ _ ↦ []⟩⟩

theorem blankStartup_secret :
    blankStartup.secretSet [] = .ok (List.replicate 64 48) ∧
      ((List.replicate 64 48 : ByteString) ≠ [] ↔
        SecretSupplied ((loadedPaths []).map blankStartup.files)) :=
  ⟨rfl, secretSet_ne_nil_iff blankStartup [] (List.replicate 64 48) rfl⟩

/-- A file that has a port written as a string and no secret. -/
def portAsString : FileContent :=
  .json (.object [(ofString "proxy_port", .string (ofString "10800"))])

/-- With the file above `main` sets the empty secret. -/
theorem portAsString_secret_empty :
    ({ blankStartup with files := fun _ ↦ portAsString } : Startup).secretSet [] = .ok [] := rfl

end LanProxyGateway
