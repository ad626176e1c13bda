import LanProxyGateway.ProxyCore.Lifecycle

/-!
# Does every session end by being closed?

A session object lives as long as one of its operations is pending. If the last handler returns
without having started another operation, the object goes, and what it holds goes with it only if
`close_session` has run. `Attended` says that an admitted session has been closed or has something
pending.

Every handler either starts an operation or closes the session, with two exceptions: the handlers of
the replies to a greeting and to a successful login do nothing when the write fails. The replies are
sent in the handshake, where nothing else is pending, so each such failure leaves a session behind
that nobody will ever close. `along_iff_attended` makes this exact.
-/

open Foundation ByteString

namespace LanProxyGateway

/-! ## Handlers that go on -/

/-- The writes whose handler does nothing on an error. -/
def Pending.isUnguarded : Pending → Bool
  | .write _ (.methodReply _) | .write _ (.authReply true) => true
  | _ => false

theorem Pending.lane_of_isUnguarded {p : Pending} (h : p.isUnguarded = true) :
    p.lane = .handshake := by
  unfold isUnguarded at h
  split at h
  · rfl
  · rfl
  · exact absurd h Bool.false_ne_true

theorem Routed.ops_ne_nil {u : ByteString} {calls : List Call} {ops : List Pending}
    (h : Routed u calls ops) : ops ≠ [] := by
  rcases h with ⟨host, port⟩ | ⟨host, port⟩ <;> exact List.cons_ne_nil _ _

/-- **A handler starts an operation or closes the session**, unless one of the two replies fails. -/
theorem Reaction.goes_on {env : Environment} {b : Buffer} {u u' : ByteString} {p : Pending}
    {c : Completion} {calls : List Call} {ops : List Pending}
    (h : Reaction env b u p c calls ops u') (hp : c.isFailure → p.isUnguarded = false) :
    ops ≠ [] ∨ ∃ reason, calls = [.close reason] := by
  cases h with
  | close reason h => exact .inr ⟨reason, rfl⟩
  | httpAdmitted _ _ _ _ hr => exact .inl hr.ops_ne_nil
  | request _ hr => exact .inl hr.ops_ne_nil
  | dropped hdropped message n =>
    rcases hdropped with ⟨data, ok, rfl⟩ | ⟨data, rfl⟩ <;>
    · have hguarded := hp trivial
      exact absurd hguarded.symm Bool.false_ne_true
  | _ => exact .inl (List.cons_ne_nil _ _)

/-! ## Sessions that somebody attends to -/

namespace Session

/-- An admitted session has been closed, or one of its operations is pending. -/
def Attended (s : Session) : Prop := s.admitted = true → s.isOpen = false ∨ s.pending ≠ []

variable {env : Environment} {s : Session} {g : Gateway} {t : Ctx} {k : ℕ} {p : Pending}
  {c : Completion} {calls : List Call} {ops : List Pending}

theorem attended_of_started {l : Ledger} (h : Started l t) : t.self.Attended := by
  intro _
  rcases h with ⟨ht, -⟩ | ⟨_, ht, -⟩ | ⟨ht, -⟩ | ⟨_, -, ht, -⟩
  · exact .inl ht.isOpen
  · exact .inl ht.isOpen
  · exact .inr (ht.pending ▸ List.cons_ne_nil _ _)
  · exact .inr (ht.pending ▸ List.cons_ne_nil _ _)

theorem attended_of_react (hp : c.isFailure → p.isUnguarded = false)
    (h : Yields env (Reaction env s.clientBuffer s.username p c) ⟨s.resume k p c, g⟩ t calls ops) :
    t.self.Attended := by
  intro _
  rcases h.allowed.goes_on hp with hops | ⟨reason, hcalls⟩
  · right
    rw [h.pending]
    exact List.append_ne_nil_of_right_ne_nil _ hops
  · left
    rcases h.settles with ⟨hquiet, -, -⟩ | ⟨_, -, hclosed, -⟩
    · exact absurd (hcalls ▸ List.mem_singleton_self _) (hquiet reason)
    · exact hclosed

end Session

namespace World

/-- The reply to a greeting or to a successful login fails. -/
def DropsReply (w : World) (e : Event) : Prop :=
  ∃ i k message n env s p, e = .complete i k (.failed message n) env ∧ w.sessions[i]? = some s ∧
    s.pending[k]? = some p ∧ p.isUnguarded = true

/-- Every session is orderly and attended. -/
def AllAttended (w : World) : Prop := ∀ s ∈ w.sessions, s.Orderly ∧ s.Attended

variable {w t : World} {e : Event}

theorem AllAttended.step (hw : w.AllAttended) (hd : ¬DropsReply w e) (ht : w.step e = .ok t) :
    t.AllAttended := by
  have hm := moves_of_step ht
  have horderly := hm.orderly fun s hs ↦ (hw s hs).1
  refine fun s hs ↦ ⟨horderly s hs, ?_⟩
  rcases hm with e | ⟨env, a, t, h⟩ | ⟨i, k, c, env, t, calls, ops, hsome, hp, h⟩
  · exact (hw s hs).2
  · rcases List.mem_append.mp hs with hs | hs
    · exact (hw s hs).2
    · rw [List.mem_singleton.mp hs]
      exact Session.attended_of_started h
  · rcases List.mem_or_eq_of_mem_set hs with hs | rfl
    · exact (hw s hs).2
    · refine Session.attended_of_react (fun hfail ↦ ?_) h
      rw [← Bool.not_eq_true]
      intro hunguarded
      rcases c with _ | _ | _ | _ | ⟨message, n⟩
      · exact hfail
      · exact hfail
      · exact hfail
      · exact hfail
      · exact hd ⟨i, k, message, n, env, _, _, rfl, hsome, hp, hunguarded⟩

/-- A session whose reply fails is left open with nothing pending. -/
theorem AllAttended.abandons (hw : w.AllAttended) (hd : DropsReply w e) :
    ∃ t, w.step e = .ok t ∧ ∃ s ∈ t.sessions, ¬s.Attended := by
  obtain ⟨i, k, message, n, env, s, p, rfl, hs, hp, hunguarded⟩ := hd
  have horderly := (hw s (List.mem_of_getElem? hs)).1
  have hlane := Pending.lane_of_isUnguarded hunguarded
  have hmem : p ∈ s.pending := List.mem_of_getElem? hp
  have halone : s.pending.eraseIdx k = [] := horderly.alone hp hlane
  have hadmitted : s.admitted = true := horderly.admitted (List.ne_nil_of_mem hmem)
  have hopen : s.isOpen = true := by
    by_contra hclosed
    exact horderly.closed (Bool.not_eq_true _ ▸ hclosed) p hmem hlane
  have hi : i < w.sessions.length := (List.getElem?_eq_some_iff.mp hs).1
  have habandoned : ∀ t : Session, t.admitted = s.admitted → t.isOpen = s.isOpen →
      t.pending = s.pending.eraseIdx k → ¬t.Attended := by
    intro t hta hto htp hattended
    rcases hattended (hta.trans hadmitted) with hclosed | hne
    · rw [hto, hopen] at hclosed
      cases hclosed
    · exact hne (htp.trans halone)
  rw [World.step, handler, hs]
  simp only [Option.bind_eq_bind, Option.bind_some, hp]
  unfold Pending.isUnguarded at hunguarded
  split at hunguarded
  · refine ⟨_, rfl, _, List.mem_set hi _, ?_⟩
    exact habandoned _ rfl rfl rfl
  · refine ⟨_, rfl, _, List.mem_set hi _, ?_⟩
    exact habandoned _ rfl rfl rfl
  · exact absurd hunguarded Bool.false_ne_true

/-- **Who is left behind.** From a proxy without sessions, every admitted session of every state of
a run has been closed or has something pending, exactly when no reply to a greeting or to a
successful login fails in the run. -/
theorem along_iff_attended {w₀ : World} (h₀ : w₀.sessions = []) (es : List Event) :
    Along World.step (fun w e ↦ ¬DropsReply w e) w₀ es ↔
      Throughout World.step (fun w ↦ ∀ s ∈ w.sessions, s.Attended) w₀ es := by
  have hinit : w₀.AllAttended := by
    rw [AllAttended, h₀]
    exact fun s hs ↦ absurd hs List.not_mem_nil
  refine along_iff_throughout (I := AllAttended) (fun w hw s hs ↦ (hw s hs).2)
    (fun w e t hw hd ht ↦ hw.step hd ht) (fun w e hw hd ↦ ?_) hinit
  obtain ⟨t, ht, s, hs, hnot⟩ := hw.abandons (not_not.mp hd)
  exact ⟨t, ht, fun hall ↦ hnot (hall s hs)⟩

/-- For a client that logs in nothing is left behind. -/
theorem loginRun_along_iff_attended :
    Along World.step (fun w e ↦ ¬DropsReply w e) {} loginRun ↔
      Throughout World.step (fun w ↦ ∀ s ∈ w.sessions, s.Attended) {} loginRun :=
  along_iff_attended rfl loginRun

/-- A client sends its greeting and is gone before the reply. -/
def vanishRun : List Event :=
  [.start (sampleEnvironment .direct) sampleArrival,
    .complete 0 0 (.received sampleGreeting) (sampleEnvironment .direct),
    .complete 0 0 (.failed (.lit "Broken pipe") 0) (sampleEnvironment .direct)]

/-- Its session holds its slot for ever. -/
theorem vanishRun_abandons : ∃ w, Reachable World.step {} w ∧ ∃ s ∈ w.sessions,
    s.admitted = true ∧ s.isOpen = true ∧ s.pending = [] ∧ ¬s.Attended := by
  have hrun : (run World.step {} vanishRun).toOption.map
      (fun w ↦ w.sessions.map fun s ↦ (s.admitted, s.isOpen, s.pending)) =
      some [(true, true, [])] := by decide +kernel
  obtain ⟨w, hw, hobs⟩ := exists_run_of_observation hrun
  obtain ⟨s, hs, hstate⟩ := List.map_eq_singleton_iff.mp hobs
  simp only [Prod.mk.injEq] at hstate
  obtain ⟨hadmitted, hopen, hpending⟩ := hstate
  refine ⟨w, ⟨vanishRun, hw⟩, s, hs ▸ List.mem_singleton_self s, hadmitted, hopen, hpending, ?_⟩
  intro hattended
  rcases hattended hadmitted with hclosed | hne
  · rw [hopen] at hclosed
    cases hclosed
  · exact hne hpending

end World

end LanProxyGateway
