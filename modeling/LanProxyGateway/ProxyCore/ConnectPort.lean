import LanProxyGateway.ProxyCore.Frame
import LanProxyGateway.ProxyCore.Lifecycle

/-!
# The port of a CONNECT

`session::handle_http_connect` reads the text behind the last colon of the authority with
`std::stoi` and casts the `int` to the sixteen bits of `m_target_port`. `stoi` skips blanks, takes a
sign and stops at the first character that is no digit, and the cast drops what does not fit, so
many texts that write no port become one. `portConnected_iff` says that the handler goes by the
port that is written exactly where the text is a port in decimal and nothing else.
-/

open Foundation ByteString

namespace LanProxyGateway

/-- Texts that are a port are read as their value. -/
theorem parsePort_of_writesPort {portStr : ByteString} (h : WritesPort portStr) :
    parsePort portStr = .ok (UInt16.ofInt (digitsValue portStr)) := by
  rw [parsePort, h.stoi]
  rfl

namespace Session

open SessionM

/-- A run of a handler from `s` to `t` in which `do_http_auth` asked for the account. -/
def Authenticates (s t : Ctx) : Prop :=
  ∃ calls, t.self.trace = s.self.trace ++ calls ∧
    ∃ username password ok, Call.authenticate username password ok ∈ calls

/-- The port connected to is the port written, in a CONNECT of `length` bytes that finds `s`. -/
structure PortConnected (env : Environment) (s : Ctx) (length : ℕ) : Prop where
  /-- A run that gets to the authentication has read a port, and the port of the target is its
  value. -/
  proceeds : ∀ t, handleHttpConnect env length s = .ok ((), t) → Authenticates s t →
    ∃ host portStr, parseAuthority (s.self.clientBuffer.read 0 length) = some (host, portStr) ∧
      WritesPort portStr ∧ t.self.targetPort.toNat = digitsValue portStr
  /-- Any other text in the place of a port is answered with 400, and that is all. -/
  others : ∀ host portStr,
    parseAuthority (s.self.clientBuffer.read 0 length) = some (host, portStr) →
    ¬WritesPort portStr →
    handleHttpConnect env length s =
      post (.write httpBadRequest (.closing (.lit "bad request"))) s

variable {env : Environment}

/-- How a CONNECT with the authority `(host, portStr)` ends: the port of the target is the one
`stoi` made of the text, and something happened that is not the reply 400. -/
structure Proceeded (portStr : ByteString) (s t : Ctx) : Prop where
  port : parsePort portStr = .ok t.self.targetPort
  notRefused : t.self.trace = s.self.trace → t.self.pending ≠ s.self.pending ++
    [.write httpBadRequest (.closing (.lit "bad request"))]

theorem doHttpAuth_proceeds {portStr : ByteString} {s s₁ : Ctx}
    (hport : parsePort portStr = .ok s₁.self.targetPort) (htrace : s₁.self.trace = s.self.trace) :
    wp (doHttpAuth env) (fun _ t ↦ Proceeded portStr s t) (fun _ ↦ True) s₁ := by
  simp only [doHttpAuth, noteLogin, noteFailedLogin, wp_bind, wp_get, wp_ofExcept, wp_call,
    wp_ite, wp_log, wp_modifySelf, wp_modifyGateway, wp_post, implies_true, and_true,
    Bool.not_eq_true]
  intro authenticated _
  -- the call that is entered into the trace stays there
  have hgrows : ∀ (x : Call) (calls : List Call), s.self.trace ++ x :: calls ≠ s.self.trace :=
    fun x calls h ↦ List.cons_ne_nil x calls (List.append_right_eq_self.mp h)
  constructor
  · rintro - -
    refine wp_mono (wp_and (doRouteDecision_routes _) (doRouteDecision_does env _)) ?_ fun _ h ↦ h
    rintro _ t ⟨⟨-, -, hp⟩, calls, ops, hy⟩
    refine ⟨hp ▸ hport, fun ht ↦ absurd ht ?_⟩
    have htrace' := hy.trace
    rw [List.append_assoc, htrace] at htrace'
    rw [htrace']
    exact hgrows _ calls
  · rintro - -
    refine ⟨hport, fun ht ↦ absurd ht ?_⟩
    rw [htrace]
    exact hgrows _ []

/-- A CONNECT without an authority calls nobody, and one with an authority goes on with the port
that `stoi` read, if any. -/
theorem handleHttpConnect_proceeds (s : Ctx) (length : ℕ) :
    wp (handleHttpConnect env length)
      (fun _ t ↦ (parseAuthority (s.self.clientBuffer.read 0 length) = none ∧
          t.self.trace = s.self.trace) ∨
        ∃ host portStr, parseAuthority (s.self.clientBuffer.read 0 length) = some (host, portStr) ∧
          Proceeded portStr s t) (fun _ ↦ True) s := by
  rw [handleHttpConnect]
  simp only [wp_bind, wp_get]
  rcases hauthority : parseAuthority (s.self.clientBuffer.read 0 length) with _ | ⟨host, portStr⟩
  · rw [wp_post]
    exact .inl ⟨rfl, rfl⟩
  · simp only [wp_bind, wp_ofExcept, wp_modifySelf, wp_ite, wp_log, wp_post, implies_true, and_true]
    intro port hport
    refine ⟨fun _ _ ↦ .inr ⟨host, portStr, rfl, hport, fun _ hpending ↦ ?_⟩, fun _ _ ↦ ?_⟩
    · have hreply := List.append_cancel_left hpending
      cases hreply
    · refine wp_mono (doHttpAuth_proceeds (s := s) hport rfl) ?_ fun _ h ↦ h
      exact fun _ t ht ↦ .inr ⟨host, portStr, rfl, ht⟩

/-- **Which ports are the ones written.** The handler connects to the port that the client wrote,
and refuses a text that is no port, exactly where the authority, if there is one, ends in a port in
decimal. -/
theorem portConnected_iff (env : Environment) (s : Ctx) (length : ℕ) :
    PortConnected env s length ↔ ∀ host portStr,
      parseAuthority (s.self.clientBuffer.read 0 length) = some (host, portStr) →
        WritesPort portStr := by
  constructor
  · intro h host portStr hauthority
    -- otherwise the run would be the reply 400, which no run with an authority is
    by_contra hport
    have hrun := h.others host portStr hauthority hport
    rcases wp_of_ok (handleHttpConnect_proceeds s length) hrun with ⟨hnone, -⟩ | ⟨_, _, -, hp⟩
    · rw [hauthority] at hnone
      cases hnone
    · exact hp.notRefused rfl rfl
  · intro hports
    refine ⟨fun t hrun hauth ↦ ?_, fun host portStr hauthority hport ↦
      absurd (hports host portStr hauthority) hport⟩
    rcases wp_of_ok (handleHttpConnect_proceeds s length) hrun with
      ⟨-, htrace⟩ | ⟨host, portStr, hauthority, hp⟩
    · obtain ⟨calls, hcalls, username, password, ok, hmem⟩ := hauth
      rw [htrace, List.self_eq_append_right] at hcalls
      exact absurd (hcalls ▸ hmem) List.not_mem_nil
    · have hport := hports host portStr hauthority
      refine ⟨host, portStr, hauthority, hport, ?_⟩
      have hread := hp.port
      rw [parsePort_of_writesPort hport] at hread
      rw [← Except.ok.inj hread, toNat_uInt16_ofInt_natCast hport.le]

/-- The head of an HTTP CONNECT to port 65979, which is 443 in sixteen bits. -/
def widePortHead : ByteString :=
  ofString "CONNECT h:65979 HTTP/1.1\r\nProxy-Authorization: Basic YTph\r\n\r\n"

/-- A session that has read this head. -/
def widePortSession : Ctx :=
  ⟨{ sampleArrival.session with clientBuffer := zeroBuffer.store widePortHead }, {}⟩

/-- The client logs in and is connected to port 443. -/
theorem widePort_wraps :
    (∃ t, handleHttpConnect (sampleEnvironment .direct) widePortHead.length widePortSession =
      .ok ((), t) ∧ Authenticates widePortSession t ∧ t.self.targetPort = 443) ∧
    ¬PortConnected (sampleEnvironment .direct) widePortSession widePortHead.length := by
  have hauthority : parseAuthority (widePortSession.self.clientBuffer.read 0 widePortHead.length) =
      some (ofString "h", ofString "65979") := by
    decide +kernel
  have hrun : (handleHttpConnect (sampleEnvironment .direct) widePortHead.length
      widePortSession).toOption.map (fun r ↦ (r.2.self.targetPort, r.2.self.trace.take 1)) =
        some (443, [.authenticate (ofString "a") (ofString "a") true]) := by
    decide +kernel
  constructor
  · rcases h : handleHttpConnect (sampleEnvironment .direct) widePortHead.length
        widePortSession with e | ⟨_, t⟩
    · rw [h] at hrun
      cases hrun
    · rw [h] at hrun
      obtain ⟨hport, htrace⟩ := Prod.mk.inj (Option.some.inj hrun)
      refine ⟨t, rfl, ⟨t.self.trace, rfl, ofString "a", ofString "a", true, ?_⟩, hport⟩
      exact List.mem_of_mem_take (htrace ▸ List.mem_singleton_self _)
  · intro h
    have hothers := h.others _ _ hauthority (by decide)
    rw [hothers] at hrun
    exact absurd hrun (by decide +kernel)

end Session

end LanProxyGateway
