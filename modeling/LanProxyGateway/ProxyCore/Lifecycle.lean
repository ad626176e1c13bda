import LanProxyGateway.Foundation.Trace
import LanProxyGateway.ProxyCore.Reaction

/-!
# The life of a session

A session is let in, goes through its handshake with one operation at a time, and then relays in two
directions with one operation each. `Orderly` says so, and that a session that has been closed has
nothing but relay operations left. It holds of every session in every reachable state of the proxy.

`Moves` is the proxy seen through the reactions of its sessions, and every step of the proxy is a
move (`moves_of_step`). The theorems about runs are proved about moves.
-/

open Foundation ByteString

namespace LanProxyGateway

/-! ## Moves -/

namespace Session

/-- The session that a handler reacts from: without the operation that completed, and with what the
completion left in the trace. -/
def resume (s : Session) (k : ℕ) (p : Pending) (c : Completion) : Session :=
  { s with pending := s.pending.eraseIdx k, trace := s.trace ++ recorded p c }

end Session

namespace World

/-- What a step does to the proxy. -/
inductive Moves (w : World) : Event → World → Prop
  | idle (e : Event) : Moves w e w
  | start (env : Environment) (a : Arrival) (t : Ctx) (h : Session.Started w.gateway.ledger t) :
    Moves w (.start env a) ⟨t.gateway, w.sessions ++ [t.self]⟩
  | react (i k : ℕ) (c : Completion) (env : Environment) {s : Session} {p : Pending} (t : Ctx)
    (calls : List Call) (ops : List Pending) (hs : w.sessions[i]? = some s)
    (hp : s.pending[k]? = some p)
    (h : Session.Yields env (Reaction env s.clientBuffer s.username p c)
      ⟨s.resume k p c, w.gateway⟩ t calls ops) :
    Moves w (.complete i k c env) ⟨t.gateway, w.sessions.set i t.self⟩

/-- **Every step is a move.** -/
theorem moves_of_step {w t : World} {e : Event} (h : w.step e = .ok t) : Moves w e t := by
  rcases step_cases h with rfl | ⟨env, a, c, rfl, hstart, rfl⟩ |
    ⟨i, k, completion, env, s, p, m, c, rfl, hs, hp, hm, hrun, rfl⟩
  · exact .idle e
  · have hstarted := wp_of_ok (Session.start_starts a w.gateway) hstart
    exact .start env a c hstarted
  · obtain ⟨calls, ops, hy⟩ := wp_of_ok (Session.dispatch_reacts hm _) hrun
    exact .react i k completion env c calls ops hs hp hy

/-- The proxy before its first client: limits, but no connection counted and no session. -/
structure Initial (w : World) : Prop where
  overload : w.gateway.overload.totalConnections = 0
  active : w.gateway.metrics.activeConnections = 0
  admitter : w.gateway.admitter.activeConnections = 0
  users : w.gateway.admitter.userConnections = ∅
  queue : w.gateway.admitter.queue = []
  sessions : w.sessions = []

/-- What holds of a session when it has been started, and is kept by each of its reactions, is kept
by every move for all sessions. -/
theorem Moves.forall_sessions {I : Session → Prop} {w t : World} {e : Event} (hm : Moves w e t)
    (hstart : ∀ l t, Session.Started l t → I t.self)
    (hreact : ∀ env s g t k p c calls ops, I s → s.pending[k]? = some p →
      Session.Yields env (Reaction env s.clientBuffer s.username p c)
        ⟨s.resume k p c, g⟩ t calls ops → I t.self)
    (hI : ∀ s ∈ w.sessions, I s) : ∀ s ∈ t.sessions, I s := by
  rcases hm with e | ⟨env, a, t, h⟩ | ⟨i, k, c, env, t, calls, ops, hs, hp, h⟩
  · exact hI
  · intro s hmem
    rcases List.mem_append.mp hmem with hmem | hmem
    · exact hI s hmem
    · rw [List.mem_singleton.mp hmem]
      exact hstart _ _ h
  · intro s hmem
    rcases List.mem_or_eq_of_mem_set hmem with hmem | rfl
    · exact hI s hmem
    · exact hreact _ _ _ _ _ _ _ _ _ (hI _ (List.mem_of_getElem? hs)) hp h

/-- **The rule for sessions.** Such a property holds of all sessions of all reachable states. -/
theorem sessions_induction {I : Session → Prop} {w₀ w : World} (hw : Reachable step w₀ w)
    (h₀ : w₀.sessions = []) (hstart : ∀ l t, Session.Started l t → I t.self)
    (hreact : ∀ env s g t k p c calls ops, I s → s.pending[k]? = some p →
      Session.Yields env (Reaction env s.clientBuffer s.username p c)
        ⟨s.resume k p c, g⟩ t calls ops → I t.self) :
    ∀ s ∈ w.sessions, I s := by
  refine hw.induction (I := fun w ↦ ∀ s ∈ w.sessions, I s) ?_ fun w e t hI ht ↦
    (moves_of_step ht).forall_sessions hstart hreact hI
  rw [h₀]
  exact fun s hs ↦ absurd hs List.not_mem_nil

end World

/-! ## One operation at a time -/

/-- Two operations that can be under way together: the two directions of the relay. -/
def Apart (p q : Pending) : Prop :=
  p.lane ≠ q.lane ∧ p.lane ≠ .handshake ∧ q.lane ≠ .handshake

theorem Apart.symm {p q : Pending} (h : Apart p q) : Apart q p := ⟨h.1.symm, h.2.2, h.2.1⟩

namespace Reaction

variable {env : Environment} {b : Buffer} {u u' : ByteString} {p : Pending} {c : Completion}
  {calls : List Call} {ops : List Pending}

/-- An operation of the relay is followed by at most one, in the same direction. -/
theorem relay_ops (h : Reaction env b u p c calls ops u') (hp : p.lane ≠ .handshake) :
    ops = [] ∨ ∃ q, ops = [q] ∧ q.lane = p.lane := by
  cases h with
  | close reason hc => exact .inl rfl
  | refuse data reason hlane => exact absurd hlane hp
  | greetingAgain hh | greeting hh => rcases hh with rfl | rfl <;> exact absurd rfl hp
  | awaitLogin hh | awaitRequest hh => rcases hh with ⟨data, rfl⟩ | rfl <;> exact absurd rfl hp
  | dropped hh => exact .inl rfl
  | clientRead | remoteWritten | remoteRead | clientWritten => exact .inr ⟨_, rfl, rfl⟩
  | _ => exact absurd rfl hp

/-- The relay does not change the name. -/
theorem relay_name (h : Reaction env b u p c calls ops u') (hp : p.lane ≠ .handshake) : u' = u := by
  cases h with
  | httpRefused | httpAdmitted | login => exact absurd rfl hp
  | _ => rfl

/-- What a session starts together may be under way together. -/
theorem ops_apart (h : Reaction env b u p c calls ops u') : ops.Pairwise Apart := by
  have hrouted : ∀ {v : ByteString} {calls ops}, Routed v calls ops → ops.Pairwise Apart := by
    rintro v calls ops (⟨host, port⟩ | ⟨host, port⟩) <;> exact List.pairwise_singleton _ _
  cases h with
  | close | dropped => exact .nil
  | httpAdmitted _ _ _ _ hr => exact hrouted hr
  | request _ hr => exact hrouted hr
  | stream =>
    refine List.pairwise_pair.mpr ⟨?_, ?_, ?_⟩ <;> exact fun h ↦ nomatch h
  | _ => exact List.pairwise_singleton _ _

/-- Closing is all that a handler does that closes. -/
theorem of_close (h : Reaction env b u p c calls ops u') {reason : Text}
    (hc : .close reason ∈ calls) :
    calls = [.close reason] ∧ ops = [] ∧ u' = u ∧ (p.lane = .handshake ∨ c.isFailure) := by
  cases h with
  | close reason' hp =>
    obtain rfl : reason = reason' := by simpa using hc
    exact ⟨rfl, rfl, rfl, hp⟩
  | httpAdmitted _ _ _ _ hr =>
    rcases List.mem_cons.mp hc with hc | hc
    · cases hc
    · exact absurd hc (hr.not_close reason)
  | request _ hr => exact absurd hc (hr.not_close reason)
  | _ => simp at hc

end Reaction

namespace Session

/-- Operations are under way one at a time, or one in each direction of the relay; a closed session
has only the latter; and only an admitted session has any. -/
structure Orderly (s : Session) : Prop where
  apart : s.pending.Pairwise Apart
  closed : s.isOpen = false → ∀ p ∈ s.pending, p.lane ≠ .handshake
  admitted : s.pending ≠ [] → s.admitted = true

variable {env : Environment} {s : Session} {g : Gateway} {t : Ctx} {k : ℕ} {p : Pending}
  {c : Completion} {calls : List Call} {ops : List Pending}

theorem orderly_of_started {l : Ledger} (h : Started l t) : t.self.Orderly := by
  have hturned : ∀ {calls}, TurnedAway t calls → t.self.Orderly := by
    intro calls ht
    refine ⟨?_, ?_, fun hne ↦ absurd ht.pending hne⟩ <;> rw [ht.pending]
    · exact .nil
    · exact fun _ p hp ↦ absurd hp List.not_mem_nil
  have hlet : ∀ {result}, LetIn t result → t.self.Orderly := by
    intro result ht
    refine ⟨?_, fun hc ↦ ?_, fun _ ↦ ht.admitted⟩
    · rw [ht.pending]
      exact List.pairwise_singleton _ _
    · rw [ht.isOpen] at hc
      cases hc
  rcases h with ⟨ht, -⟩ | ⟨_, ht, -⟩ | ⟨ht, -⟩ | ⟨_, -, ht, -⟩
  · exact hturned ht
  · exact hturned ht
  · exact hlet ht
  · exact hlet ht

/-- A session begins with the read of its handshake, if it is let in. -/
theorem pending_of_started {l : Ledger} (h : Started l t) :
    ∀ q ∈ t.self.pending, q = .read .handshake := by
  intro q hq
  rcases h with ⟨ht, -⟩ | ⟨_, ht, -⟩ | ⟨ht, -⟩ | ⟨_, -, ht, -⟩ <;> rw [ht.pending] at hq
  · exact absurd hq List.not_mem_nil
  · exact absurd hq List.not_mem_nil
  · exact List.mem_singleton.mp hq
  · exact List.mem_singleton.mp hq

/-- Nothing has been done for its client yet. -/
theorem not_service_of_started {l : Ledger} (h : Started l t) (u : ByteString) (y : Service) :
    .service u y ∉ t.self.trace := by
  have hturned : ∀ {calls}, TurnedAway t calls → .service u y ∉ calls →
      .service u y ∉ t.self.trace := by
    intro calls ht hcalls
    obtain ⟨reason, htrace⟩ := ht.trace
    rw [htrace, List.mem_append, not_or]
    exact ⟨hcalls, by simp⟩
  have hlet : ∀ {result}, LetIn t result → .service u y ∉ t.self.trace := by
    intro result ht
    rw [ht.trace]
    simp
  rcases h with ⟨ht, -⟩ | ⟨_, ht, -⟩ | ⟨ht, -⟩ | ⟨_, -, ht, -⟩
  · exact hturned ht List.not_mem_nil
  · exact hturned ht (by simp)
  · exact hlet ht
  · exact hlet ht

/-- An operation of the handshake is the only one. -/
theorem Orderly.alone (hs : s.Orderly) (hp : s.pending[k]? = some p)
    (hlane : p.lane = .handshake) : s.pending.eraseIdx k = [] := by
  have hapart := (pairwise_eraseIdx Apart.symm hs.apart hp).2
  exact List.eq_nil_iff_forall_not_mem.mpr fun q hq ↦ (hapart q hq).2.1 hlane

/-- It is followed by what its handler starts, and nothing else. -/
theorem Orderly.pending_of_handshake (hs : s.Orderly) (hp : s.pending[k]? = some p)
    (hlane : p.lane = .handshake)
    (h : Yields env (Reaction env s.clientBuffer s.username p c) ⟨s.resume k p c, g⟩ t calls ops) :
    t.self.pending = ops := by
  have hpending : t.self.pending = s.pending.eraseIdx k ++ ops := h.pending
  rwa [hs.alone hp hlane, List.nil_append] at hpending

theorem Orderly.react (hs : s.Orderly) (hp : s.pending[k]? = some p)
    (h : Yields env (Reaction env s.clientBuffer s.username p c) ⟨s.resume k p c, g⟩ t calls ops) :
    t.self.Orderly := by
  obtain ⟨hrest, hapart⟩ := pairwise_eraseIdx Apart.symm hs.apart hp
  have hpending : t.self.pending = s.pending.eraseIdx k ++ ops := h.pending
  have hmem : p ∈ s.pending := List.mem_of_getElem? hp
  refine ⟨?_, fun hclosed q hq ↦ ?_, fun _ ↦ ?_⟩
  · rw [hpending]
    refine List.pairwise_append.mpr ⟨hrest, h.allowed.ops_apart, fun q hq r hr ↦ ?_⟩
    have hpq := hapart q hq
    rcases h.allowed.relay_ops hpq.2.1 with rfl | ⟨r', rfl, hlane⟩
    · exact absurd hr List.not_mem_nil
    · rw [List.mem_singleton.mp hr]
      refine ⟨?_, hpq.2.2, ?_⟩ <;> rw [hlane]
      · exact hpq.1.symm
      · exact hpq.2.1
  · rw [hpending, List.mem_append] at hq
    rcases hq with hq | hq
    · exact (hapart q hq).2.2
    · rcases h.settles with ⟨-, hopen, -⟩ | ⟨reason, hcalls, -, -⟩
      · have hlane := hs.closed (hopen.symm.trans hclosed) p hmem
        rcases h.allowed.relay_ops hlane with rfl | ⟨r, rfl, hr⟩
        · exact absurd hq List.not_mem_nil
        · rw [List.mem_singleton.mp hq, hr]
          exact hlane
      · have hnil := (h.allowed.of_close (hcalls ▸ List.mem_singleton_self _)).2.1
        exact absurd (hnil ▸ hq) List.not_mem_nil
  · exact h.admitted.trans (hs.admitted (List.ne_nil_of_mem hmem))

end Session

/-- A move leaves the sessions orderly. -/
theorem World.Moves.orderly {w t : World} {e : Event} (hm : Moves w e t)
    (ho : ∀ s ∈ w.sessions, s.Orderly) : ∀ s ∈ t.sessions, s.Orderly :=
  hm.forall_sessions (fun _ _ h ↦ Session.orderly_of_started h)
    (fun _ _ _ _ _ _ _ _ _ hs hp h ↦ hs.react hp h) ho

/-! ## A client that logs in -/

/-- One administrator, with `a` for a name and for a password, and no node. -/
def sampleEnvironment (defaultAction : RouteAction) : Environment where
  now := 0
  time := 0
  usage := ⟨false, false⟩
  config := {
    adminUsername := ofString "a"
    adminPasswordHash := ofString "$2a$06$m0CrhHm10qJ3lXRY.5zDGO3rS2KdeeWLuGmsfGlMfOxih58VYVfxe" }
  users := {}
  router := { defaultAction := defaultAction }
  isChina := fun _ ↦ false
  -- the one password that is ever checked is the right one
  lib := ⟨fun _ ↦ some (ofString "ok\n"), fun _ _ _ ↦ []⟩
  selectNode := fun _ ↦ none
  v6Text := fun _ ↦ .lit "::1"

def zeroBuffer : Buffer := ⟨fun _ ↦ 0⟩

def sampleArrival : Arrival := ⟨.lit "5e551011", zeroBuffer, zeroBuffer, some ⟨.v4 10 0 0 1, 5000⟩⟩

/-- The head of an HTTP CONNECT to port 80 of `h`, with the credentials `a:a`. -/
def sampleHead : Chunk where
  bytes := ofString "CONNECT h:80 HTTP/1.1\r\nProxy-Authorization: Basic YTph\r\n\r\n"
  nonempty := by decide
  fits := by decide

/-- A greeting that offers the login. -/
def sampleGreeting : Chunk where
  bytes := [0x05, 0x01, 0x02]
  nonempty := by decide
  fits := by decide

/-- A client connects and sends its head. -/
def loginRun : List Event :=
  [.start (sampleEnvironment .direct) sampleArrival,
    .complete 0 0 (.received sampleHead) (sampleEnvironment .direct)]

def sampleEndpoint (port : UInt16) : Endpoint := ⟨.v4 10 0 0 2, port⟩

/-- The target is found, connected and reported to the client: the relay runs. -/
def relayRun : List Event :=
  loginRun ++ [.complete 0 0 (.resolved [sampleEndpoint 80]) (sampleEnvironment .direct),
    .complete 0 0 (.connected (sampleEndpoint 80) (sampleEndpoint 40000))
      (sampleEnvironment .direct),
    .complete 0 0 .written (sampleEnvironment .direct)]

end LanProxyGateway
