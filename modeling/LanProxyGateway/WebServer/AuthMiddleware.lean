import LanProxyGateway.WebServer.JwtUtil

/-!
# The guards of the API

`auth_check` decides which requests reach the body of a handler. A path is public when it is one of
four fixed ones, starts with `/web/`, or ends like a static asset; any other path needs a token. The
test for assets looks at the text from the last dot on and at nothing in front of it, so it applies
to the paths of the API as well: a path under `/api/` whose last segment the client chooses can be
given such an ending. That is the one way around the token (`admits_verify_iff`).

Of a request the guards see the path and two headers; a header is `none` where the request has none.
-/

open Foundation ByteString

namespace LanProxyGateway

structure Request where
  url : ByteString
  authorization : Option ByteString
  cookie : Option ByteString
  deriving DecidableEq, Repr

/-- What a guard writes when it refuses. -/
structure Refusal where
  code : ℕ
  body : ByteString
  deriving DecidableEq, Repr

namespace AuthCheck

/-- The endings that pass for static assets. -/
def assetExtensions : List ByteString :=
  [ofString ".js", ofString ".css", ofString ".ico", ofString ".png", ofString ".svg",
    ofString ".woff", ofString ".woff2", ofString ".ttf", ofString ".map"]

/-- The text from the last dot on is one of the endings. -/
def hasAssetExtension (path : ByteString) : Bool :=
  match rfind 46 path with
  | none => false
  | some dotPos => path.drop dotPos ∈ assetExtensions

/-- `auth_check::is_public_path`. -/
def isPublicPath (path : ByteString) : Bool :=
  if path = ofString "/api/auth/login" ∨ path = ofString "/health" then true
  else if path = ofString "/" ∨ path = ofString "/index.html" then true
  else if startsWith path (ofString "/web/") then true
  else hasAssetExtension path

/-- The token in an `Authorization` header. -/
def bearerToken (auth : ByteString) : ByteString :=
  if 7 < auth.length ∧ auth.take 7 = ofString "Bearer " then auth.drop 7 else []

/-- The token in a `Cookie` header. -/
def cookieToken (cookie : ByteString) : ByteString :=
  match find cookie (ofString "token=") 0 with
  | none => []
  | some pos =>
    match find cookie (ofString ";") pos with
    | none => cookie.drop (pos + 6)
    | some stop => substr cookie (pos + 6) (stop - pos - 6)

/-- `auth_check::extract_token`. -/
def extractToken (req : Request) : ByteString :=
  let token := (req.authorization.map bearerToken).getD []
  if token.isEmpty then (req.cookie.map cookieToken).getD token else token

/-- `auth_check::require_auth`; a refusal is its `false`. -/
def requireAuth (jwt : JwtUtil) (req : Request) : Except Refusal Unit :=
  if isPublicPath req.url then .ok ()
  else if (extractToken req).isEmpty ∨ jwt.verify (extractToken req) = false then
    .error ⟨401, ofString "\x7b\"error\":\"unauthorized\"\x7d"⟩
  else .ok ()

/-- `auth_check::require_admin`. -/
def requireAdmin (jwt : JwtUtil) (req : Request) : Except Refusal Unit := do
  requireAuth jwt req
  if jwt.getRole (extractToken req) ≠ ofString "admin" then
    .error ⟨403, ofString "\x7b\"error\":\"admin_required\"\x7d"⟩
  else .ok ()

/-- The two guards a handler can start with. -/
inductive Guard
  /-- `AUTH_GUARD`. -/
  | auth
  /-- `ADMIN_GUARD`. -/
  | admin
  deriving DecidableEq, Repr

/-- The guard lets the request through to the body of the handler. -/
def Guard.admits (g : Guard) (jwt : JwtUtil) (req : Request) : Prop :=
  match g with
  | .auth => requireAuth jwt req = .ok ()
  | .admin => requireAdmin jwt req = .ok ()

/-! ## Which paths a guard protects -/

private theorem exists_eq_dot_cons :
    ∀ ext ∈ assetExtensions, ∃ rest, ext = 46 :: rest ∧ (46 : UInt8) ∉ rest := by
  simp only [assetExtensions, List.forall_mem_cons]
  and_intros
  all_goals first
    | exact ⟨_, rfl, by decide⟩
    | exact fun ext hext ↦ absurd hext List.not_mem_nil

/-- No ending has a second dot, so the text from the last dot on is one of them exactly when the
path ends in one of them. -/
theorem hasAssetExtension_iff {path : ByteString} :
    hasAssetExtension path = true ↔ ∃ ext ∈ assetExtensions, ext <:+ path := by
  rw [hasAssetExtension]
  constructor
  · intro h
    rcases hdot : rfind 46 path with _ | dotPos
    · rw [hdot] at h
      cases h
    · rw [hdot] at h
      exact ⟨path.drop dotPos, of_decide_eq_true h, List.drop_suffix dotPos path⟩
  · rintro ⟨ext, hext, stem, rfl⟩
    obtain ⟨rest, rfl, hrest⟩ := exists_eq_dot_cons ext hext
    rw [rfind_append_cons hrest]
    refine decide_eq_true ?_
    rwa [List.drop_left]

/-- Under `/api/` and apart from the login, only the test for assets makes a path public. -/
theorem isPublicPath_of_api {path : ByteString} (hapi : startsWith path (ofString "/api/"))
    (hlogin : path ≠ ofString "/api/auth/login") :
    isPublicPath path = hasAssetExtension path := by
  have hne : ∀ fixed, startsWith fixed (ofString "/api/") = false → path ≠ fixed := by
    rintro fixed hfixed rfl
    rw [hfixed] at hapi
    cases hapi
  have hweb : ¬startsWith path (ofString "/web/") := fun h ↦
    absurd (eq_of_startsWith hapi h rfl) (by decide)
  have h1 : ¬(path = ofString "/api/auth/login" ∨ path = ofString "/health") :=
    not_or.mpr ⟨hlogin, hne _ (by decide)⟩
  have h2 : ¬(path = ofString "/" ∨ path = ofString "/index.html") :=
    not_or.mpr ⟨hne _ (by decide), hne _ (by decide)⟩
  rw [isPublicPath, if_neg h1, if_neg h2, if_neg hweb]

/-- On a path that is not public the guard for users lets verified tokens through and nothing
else. -/
theorem verify_of_requireAuth {jwt : JwtUtil} {req : Request}
    (hpublic : isPublicPath req.url = false)
    (h : requireAuth jwt req = .ok ()) : jwt.verify (extractToken req) = true := by
  rw [requireAuth, hpublic, if_neg Bool.false_ne_true] at h
  by_cases hrefused : (extractToken req).isEmpty ∨ jwt.verify (extractToken req) = false
  · rw [if_pos hrefused] at h
    cases h
  · rw [not_or, Bool.not_eq_false] at hrefused
    exact hrefused.2

/-- The guard for administrators reads the role out of the token, which it verifies for that, so it
lets no other token through on any path. -/
theorem verify_of_requireAdmin {jwt : JwtUtil} {req : Request}
    (h : requireAdmin jwt req = .ok ()) : jwt.verify (extractToken req) = true := by
  by_contra hv
  rw [Bool.not_eq_true] at hv
  rw [requireAdmin] at h
  rcases hauth : requireAuth jwt req with refusal | ⟨⟩
  · rw [hauth] at h
    cases h
  · have hrole : jwt.getRole (extractToken req) ≠ ofString "admin" := by
      rw [JwtUtil.getRole_of_not_verify hv]
      decide
    rw [hauth] at h
    exact absurd ((if_pos hrole).symm.trans h) (by decide)

/-- **Token or ending.** For a path of the API other than the login, every request that a guard lets
through carries a verified token exactly when the path does not end like a static asset. -/
theorem admits_verify_iff (path : ByteString) (hapi : startsWith path (ofString "/api/"))
    (hlogin : path ≠ ofString "/api/auth/login") :
    (∀ (g : Guard) (jwt : JwtUtil) (req : Request), req.url = path → g.admits jwt req →
        jwt.verify (extractToken req) = true) ↔ ∀ ext ∈ assetExtensions, ¬ext <:+ path := by
  have hpublic := isPublicPath_of_api hapi hlogin
  constructor
  · intro h ext hext hsuffix
    have hasset : hasAssetExtension path = true := hasAssetExtension_iff.mpr ⟨ext, hext, hsuffix⟩
    -- a request without headers passes the guard for users and carries the empty token
    have hadmits : Guard.auth.admits ⟨[], fun _ _ ↦ [], fun _ ↦ none, 0⟩ ⟨path, none, none⟩ := by
      rw [Guard.admits, requireAuth, hpublic, hasset]
      rfl
    exact Bool.false_ne_true (h .auth _ _ rfl hadmits)
  · rintro h g jwt req rfl hadmits
    have hasset : hasAssetExtension req.url = false := by
      rw [← Bool.not_eq_true, hasAssetExtension_iff]
      rintro ⟨ext, hext, hsuffix⟩
      exact h ext hext hsuffix
    rcases g with _ | _
    · exact verify_of_requireAuth (hpublic.trans hasset) hadmits
    · exact verify_of_requireAdmin hadmits

theorem admits_verify_users :
    (∀ (g : Guard) (jwt : JwtUtil) (req : Request), req.url = ofString "/api/users" →
        g.admits jwt req → jwt.verify (extractToken req) = true) ↔
      ∀ ext ∈ assetExtensions, ¬ext <:+ ofString "/api/users" :=
  admits_verify_iff (ofString "/api/users") (by decide) (by decide)

/-- The node whose tag is `a.js` is handed out without a token. -/
theorem node_a_js_admitted :
    startsWith (ofString "/api/v2rayn/vmess/nodes/a.js") (ofString "/api/") = true ∧
      ofString "/api/v2rayn/vmess/nodes/a.js" ≠ ofString "/api/auth/login" ∧
      ∀ jwt : JwtUtil,
        let req : Request := ⟨ofString "/api/v2rayn/vmess/nodes/a.js", none, none⟩
        requireAuth jwt req = .ok () ∧ jwt.verify (extractToken req) = false :=
  ⟨by decide, by decide, fun _ ↦ ⟨rfl, rfl⟩⟩

end AuthCheck

end LanProxyGateway
