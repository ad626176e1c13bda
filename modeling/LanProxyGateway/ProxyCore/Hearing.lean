import LanProxyGateway.ProxyCore.Exceptions
import LanProxyGateway.ProxyCore.Openings

/-!
# A handshake read by read

A session in its handshake has at most one operation under way, so what arrives for it can be
followed without the world around it: `hear` is what one read does, together with the reply the
session may write to it, and a run of `hear` is a run of the world (`outcome_eq`).
-/

open Foundation ByteString

namespace LanProxyGateway

open LanProxy

namespace Session

open SessionM

/-- The first operation under way completes, if it can complete like this. -/
def advance (env : Environment) (x : Completion) (c : Ctx) : Except CxxException Ctx :=
  match c.self.pending with
  | [] => .ok c
  | p :: rest =>
    match dispatch env p x with
    | none => .ok c
    | some m => (m { c with self.pending := rest }).map Prod.snd

/-- Bytes arrive, and what is written then gets through. -/
def hear (env : Environment) (c : Ctx) (chunk : Chunk) : Except CxxException Ctx :=
  (advance env (.received chunk) c).bind (advance env .written)

/-- How far the reads take the handshake. -/
def heard (env : Environment) (c : Ctx) (reads : List Chunk) : Option (List Milestone) :=
  (run (hear env) c reads).toOption.map fun d ↦ d.self.milestones

theorem heard_of_ok {env : Environment} {c d : Ctx} {reads : List Chunk}
    (h : run (hear env) c reads = .ok d) : heard env c reads = some d.self.milestones := by
  rw [heard, h]
  rfl

end Session

namespace World

variable {w : World} {i : ℕ} {s : Session}

theorem set_self (hs : w.sessions[i]? = some s) : ⟨w.gateway, w.sessions.set i s⟩ = w := by
  obtain ⟨hi, rfl⟩ := List.getElem?_eq_some_iff.mp hs
  rw [List.set_getElem_self]

theorem step_complete_eq (hs : w.sessions[i]? = some s) (x : Completion) (env : Environment) :
    w.step (.complete i 0 x env) =
      (Session.advance env x ⟨s, w.gateway⟩).map fun c ↦ ⟨c.gateway, w.sessions.set i c.self⟩ := by
  rw [step, handler, Session.advance, hs]
  simp only [Option.bind_eq_bind, Option.bind_some]
  rcases hp : s.pending with _ | ⟨p, rest⟩
  · simp only [List.getElem?_nil, Option.bind_none]
    exact congrArg Except.ok (set_self hs).symm
  simp only [List.getElem?_cons_zero, Option.bind_some, List.eraseIdx_cons_zero]
  rcases Session.dispatch env p x with _ | m
  · exact congrArg Except.ok (set_self hs).symm
  · simp only [Option.bind_some]
    rcases m ⟨{ s with pending := rest }, w.gateway⟩ with e | ⟨_, c⟩ <;> rfl

/-- **What reads do to the world is what the session makes of them.** -/
theorem run_arrivals (hs : w.sessions[i]? = some s) (env : Environment) (reads : List Chunk) :
    run step w (arrivals env i reads) = (run (Session.hear env) ⟨s, w.gateway⟩ reads).map
      fun c ↦ ⟨c.gateway, w.sessions.set i c.self⟩ := by
  induction reads generalizing w s with
  | nil => exact congrArg Except.ok (set_self hs).symm
  | cons chunk reads ih =>
    have hset : ∀ s' : Session, (w.sessions.set i s')[i]? = some s' := by
      obtain ⟨hi, -⟩ := List.getElem?_eq_some_iff.mp hs
      exact fun s' ↦ List.getElem?_set_self hi
    rw [arrivals, List.flatMap_cons, List.cons_append, List.cons_append, List.nil_append,
      run_cons, step_complete_eq hs, run_cons, Session.hear]
    rcases Session.advance env (.received chunk) ⟨s, w.gateway⟩ with e | c
    · rfl
    simp only [Except.map, Except.bind, run_cons]
    rw [step_complete_eq (hset c.self)]
    rcases Session.advance env .written c with e | d
    · rfl
    simp only [Except.map, List.set_set]
    refine (ih (hset d.self)).trans ?_
    simp only [List.set_set]
    rfl

theorem outcome_eq (hs : w.sessions[i]? = some s) (env : Environment) (reads : List Chunk) :
    w.outcome env i reads = Session.heard env ⟨s, w.gateway⟩ reads := by
  obtain ⟨hi, -⟩ := List.getElem?_eq_some_iff.mp hs
  rw [outcome, run_arrivals hs, Session.heard]
  rcases run (Session.hear env) ⟨s, w.gateway⟩ reads with e | c
  · rfl
  · simp only [Except.map, Except.toOption, Option.map_some, List.getElem?_set_self hi]
    rfl

end World

/-! ## The beginning -/

namespace Session

open SessionM

/-- A session that waits for the first bytes of its client, or has turned it away. -/
structure Fresh (s : Session) : Prop where
  sound : s.Sound
  pending : s.pending = [] ∨ s.pending = [.read .handshake]
  milestones : s.milestones = []

theorem fresh_of_started {l : Ledger} {c : Ctx} (h : Started l c) (hs : c.self.Sound) :
    c.self.Fresh := by
  have hturned : ∀ {calls}, TurnedAway c calls → calls.filterMap Call.milestone = [] →
      c.self.Fresh := by
    intro calls ht hcalls
    obtain ⟨reason, htrace⟩ := ht.trace
    refine ⟨hs, .inl ht.pending, ?_⟩
    rw [milestones, htrace, List.filterMap_append, hcalls]
    rfl
  have hlet : ∀ {result}, LetIn c result → c.self.Fresh := by
    intro result ht
    refine ⟨hs, .inr ht.pending, ?_⟩
    rw [milestones, ht.trace]
    rfl
  rcases h with ⟨ht, -⟩ | ⟨_, ht, -⟩ | ⟨ht, -⟩ | ⟨_, -, ht, -⟩
  · exact hturned ht rfl
  · exact hturned ht rfl
  · exact hlet ht
  · exact hlet ht

theorem exists_fresh {w t : World} {env : Environment} {a : Arrival}
    (h : w.step (.start env a) = .ok t) :
    ∃ c : Ctx, t = ⟨c.gateway, w.sessions ++ [c.self]⟩ ∧ c.self.Fresh := by
  obtain ⟨⟨_, c⟩, hrun, ht⟩ := exists_of_map_eq_ok h
  have hstarted := wp_of_ok (start_starts a w.gateway) hrun
  have hsound := wp_of_ok (start_decides a w.gateway) hrun
  exact ⟨c, ht.symm, fresh_of_started hstarted hsound.2⟩

/-! ## One completion -/

variable {env : Environment} {c d : Ctx} {p : Pending} {x : Completion} {m : SessionM Unit}

theorem advance_eq (hp : c.self.pending = [p]) (hm : dispatch env p x = some m) :
    advance env x c = (m { c with self.pending := [] }).map Prod.snd := by
  simp only [advance, hp, hm]

theorem advance_of_nil (hp : c.self.pending = []) (env : Environment) (x : Completion) :
    advance env x c = .ok c := by
  rw [advance, hp]

theorem advance_of_none (hp : c.self.pending = [p]) (hm : dispatch env p x = none) :
    advance env x c = .ok c := by
  simp only [advance, hp, hm]

theorem Sound.idle {s : Session} (hs : s.Sound) : ({ s with pending := [] } : Session).Sound :=
  ⟨hs.host, hs.username, fun _ hq ↦ absurd hq List.not_mem_nil⟩

/-- A completion that the session can take. -/
theorem exists_advance (hs : c.self.Sound) (hp : c.self.pending = [p])
    (hm : dispatch env p x = some m) (hharmless : Harmless env { c.self with pending := [] } p x) :
    ∃ d, advance env x c = .ok d ∧ d.self.Sound ∧
      m { c with self.pending := [] } = .ok ((), d) := by
  have hsound : p.Sound c.self.localEndpoint := hs.pending p (hp ▸ List.mem_singleton_self p)
  have hdecides := dispatch_decides (s := { c with self.pending := [] }) hm hs.idle hsound
    fun _ ↦ rfl
  obtain ⟨⟨⟩, d, hd⟩ := (exists_ok_iff_of_wp hdecides).mpr hharmless
  refine ⟨d, ?_, (wp_of_ok hdecides hd).2, hd⟩
  rw [advance_eq hp hm, hd]
  rfl

/-! ## What the handlers leave behind -/

/-- The session gets on to `reached`, and has `ops` under way. -/
def GetsTo (reached : List Milestone) (ops : List Pending) (s t : Ctx) : Prop :=
  t.self.pending = s.self.pending ++ ops ∧ t.self.milestones = s.self.milestones ++ reached

theorem milestones_append {s t : Session} {calls : List Call} (ht : t.trace = s.trace ++ calls) :
    t.milestones = s.milestones ++ calls.filterMap Call.milestone := by
  rw [milestones, ht, List.filterMap_append]
  rfl

theorem closeSession_stops (reason : Text) (s : Ctx) :
    wp (closeSession env reason) (fun _ t ↦ GetsTo [] [] s t) (fun _ ↦ True) s := by
  have hdoes : Does env (fun calls ops _ ↦ calls = [.close reason] ∧ ops = []) s
    (closeSession env reason) := closeSession_does reason ⟨rfl, rfl⟩
  refine wp_mono hdoes ?_ fun _ h ↦ h
  rintro _ t ⟨calls, ops, ⟨rfl, rfl⟩, htrace, hpending, -, -⟩
  exact ⟨hpending, milestones_append htrace⟩

/-- What the greeting of a client leads to. -/
def Greeting.next : Greeting → List Pending
  | .invalid => []
  | .incomplete => [.read .handshakeAgain]
  | .methods true => [.write [socksVersion, authUserpass] (.methodReply true)]
  | .methods false => [.write [socksVersion, authNoAcceptable] (.methodReply false)]

theorem handleSocks5Handshake_gets (env : Environment) (length : ℕ) (s : Ctx) :
    wp (handleSocks5Handshake env length)
      (fun _ t ↦ GetsTo [] (Greeting.next (parseGreeting s.self.clientBuffer length)) s t)
      (fun _ ↦ True) s := by
  rw [handleSocks5Handshake]
  simp only [wp_bind, wp_get]
  rcases parseGreeting s.self.clientBuffer length with _ | _ | _ | _
  · simp only [wp_bind, wp_log, implies_true, and_true]
    exact fun _ ↦ closeSession_stops _ s
  · exact ⟨rfl, (List.append_nil _).symm⟩
  · simp only [wp_bind, wp_log, wp_post, implies_true, and_true]
    exact fun _ ↦ ⟨rfl, (List.append_nil _).symm⟩
  · exact ⟨rfl, (List.append_nil _).symm⟩

theorem onAuthRead_gets {length : ℕ} {s : Ctx} {u pw : ByteString}
    (hlogin : parseLogin s.self.clientBuffer length = .credentials u pw)
    (hok : env.users.authenticate env.lib env.config env.time u pw = .ok true) :
    wp (onAuthRead env length)
      (fun _ t ↦ GetsTo [.credentials u pw] [.write [0x01, 0x00] (.authReply true)] s t)
      (fun _ ↦ True) s := by
  rw [onAuthRead]
  simp only [wp_bind, wp_get]
  rw [hlogin]
  simp only [noteLogin, noteFailedLogin, wp_bind, wp_ofExcept, wp_call, wp_ite, wp_modifySelf,
    wp_get, wp_modifyGateway, wp_log, wp_post, implies_true, and_true, hok]
  rintro _ ⟨⟩
  exact ⟨fun _ _ ↦ ⟨rfl, List.filterMap_append⟩, fun h ↦ absurd rfl h⟩

/-- Nothing that happens to the handshake is left: the session is closed, or on its way to the
target. -/
def Over (ops : List Pending) : Prop :=
  ops = [] ∨ (∃ host, ops = [.resolveDirect host]) ∨ ops = [.resolveV2rayn]

theorem doRouteDecision_gets (s : Ctx) :
    wp (doRouteDecision env) (fun _ t ↦ ∃ ops, Over ops ∧
      GetsTo [.target s.self.targetHost s.self.targetPort] ops s t) (fun _ ↦ True) s := by
  have hgets : ∀ (calls : List Call) (ops : List Pending) (t : Ctx), t.self.trace = s.self.trace ++
      .service s.self.username (.routeDecision s.self.targetHost s.self.targetPort) :: calls →
      calls.filterMap Call.milestone = [] → t.self.pending = s.self.pending ++ ops →
      GetsTo [.target s.self.targetHost s.self.targetPort] ops s t := by
    intro calls ops t ht hcalls hops
    refine ⟨hops, ?_⟩
    rw [milestones_append ht, List.filterMap_cons, hcalls]
    rfl
  rw [doRouteDecision]
  simp only [wp_bind, wp_get, wp_serve]
  split
  · simp only [doResolve, wp_bind, wp_modifySelf, wp_log, wp_serve, wp_get, wp_post, implies_true,
      and_true]
    exact fun _ ↦ ⟨_, .inr (.inl ⟨_, rfl⟩),
      hgets [.service s.self.username .resolve] _ _ (List.append_assoc _ _ _) rfl rfl⟩
  · simp only [chooseNode, doConnectViaV2rayn, wp_bind, wp_modifySelf, wp_serve, wp_get]
    split <;>
    · simp only [wp_bind, wp_modifySelf, wp_modifyGateway, wp_log, wp_post, implies_true, and_true]
      refine fun _ ↦ ⟨_, .inr (.inr rfl), hgets
        [.service s.self.username .selectNode, .service s.self.username .connectViaV2rayn] _ _ ?_
        rfl rfl⟩
      simp only [List.append_assoc, List.cons_append, List.nil_append]

theorem onRequestRead_gets {length : ℕ} {s : Ctx} {host : ByteString} {port : UInt16}
    (hrequest : parseRequest env.v6Text s.self.clientBuffer length = .target host port) :
    wp (onRequestRead env length)
      (fun _ t ↦ ∃ ops, Over ops ∧ GetsTo [.target host port] ops s t) (fun _ ↦ True) s := by
  rw [onRequestRead]
  simp only [wp_bind, wp_get]
  rw [hrequest]
  simp only [wp_bind, wp_modifySelf, wp_log, implies_true, and_true]
  exact fun _ ↦ doRouteDecision_gets _

/-! ### HTTP CONNECT -/

/-- How far the head of an HTTP CONNECT takes the handshake, unless the handler throws. -/
def headMilestones (env : Environment) (head : ByteString) : List Milestone :=
  match parseAuthority head with
  | none => []
  | some (host, portStr) =>
    let (u, pw) := parseCredentials head
    if u = [] ∧ pw = [] then []
    else .credentials u pw ::
      if env.users.authenticate env.lib env.config env.time u pw = .ok true then
        match parsePort portStr with
        | .ok port => [.target host port]
        | .error _ => []
      else []

/-- What is left is at most an error reply. -/
def Ending (ops : List Pending) : Prop :=
  Over ops ∨ ∃ data reason, ops = [.write data (.closing reason)] ∧
    (Call.sent .client data).milestone = none

theorem doHttpAuth_gets (s : Ctx) :
    wp (doHttpAuth env) (fun _ t ↦ ∃ ops, Ending ops ∧
      GetsTo (.credentials s.self.httpUsername s.self.httpPassword ::
        if env.users.authenticate env.lib env.config env.time s.self.httpUsername
          s.self.httpPassword = .ok true then [.target s.self.targetHost s.self.targetPort]
        else []) ops s t)
      (fun _ ↦ True) s := by
  simp only [doHttpAuth, noteLogin, noteFailedLogin, wp_bind, wp_get, wp_ofExcept, wp_call,
    wp_ite, wp_log, wp_modifySelf, wp_modifyGateway, wp_post, implies_true, and_true,
    Bool.not_eq_true]
  intro authenticated hok
  constructor
  · rintro rfl -
    refine wp_mono (doRouteDecision_gets _) ?_ fun _ h ↦ h
    rintro _ t ⟨ops, hover, hpending, hmilestones⟩
    refine ⟨ops, .inl hover, hpending, ?_⟩
    rw [hmilestones, if_pos hok]
    exact (congrArg (· ++ _) List.filterMap_append).trans (List.append_assoc _ _ _)
  · rintro rfl -
    refine ⟨_, .inr ⟨_, _, rfl, by decide⟩, rfl, ?_⟩
    rw [if_neg (by rw [hok]; decide)]
    exact List.filterMap_append

theorem handleHttpConnect_gets (env : Environment) (s : Ctx) (length : ℕ) :
    wp (handleHttpConnect env length) (fun _ t ↦ ∃ ops, Ending ops ∧
      GetsTo (headMilestones env (s.self.clientBuffer.read 0 length)) ops s t)
      (fun _ ↦ True) s := by
  rw [handleHttpConnect]
  simp only [wp_bind, wp_get, headMilestones]
  rcases hauthority : parseAuthority (s.self.clientBuffer.read 0 length) with _ | ⟨host, portStr⟩
  · rw [wp_post]
    exact ⟨_, .inr ⟨_, _, rfl, by decide⟩, rfl, (List.append_nil _).symm⟩
  simp only [wp_bind, wp_ofExcept, wp_modifySelf, wp_ite, wp_log, wp_post, implies_true, and_true]
  intro port hport
  constructor
  · intro hnone _
    rw [if_pos hnone]
    exact ⟨_, .inr ⟨_, _, rfl, by decide⟩, rfl, (List.append_nil _).symm⟩
  · intro hsome _
    rw [if_neg hsome, hport]
    exact doHttpAuth_gets _

/-! ## What one read leads to -/

/-- The session that the handler of a read from the client runs on. -/
def filled (c : Ctx) (chunk : Chunk) : Ctx :=
  { c with self := { c.self with
    pending := []
    clientBuffer := c.self.clientBuffer.store chunk.bytes
    trace := c.self.trace ++ [.received .client chunk.bytes] } }

theorem milestones_filled (c : Ctx) (chunk : Chunk) :
    (filled c chunk).self.milestones = c.self.milestones :=
  (List.filterMap_append).trans (List.append_nil _)

variable {h : ReadHandler} {chunk : Chunk} {Q : Ctx → Prop}

/-- A read that the session can take. -/
theorem exists_read (hs : c.self.Sound) (hp : c.self.pending = [.read h]) (hside : h.side = .client)
    (hharmless : Harmless env { c.self with pending := [] } (.read h) (.received chunk))
    (hread : wp (onRead env chunk.bytes.length h) (fun _ t ↦ Q t) (fun _ ↦ True)
      (filled c chunk)) :
    ∃ d, advance env (.received chunk) c = .ok d ∧ d.self.Sound ∧ Q d := by
  obtain ⟨d, hd, hsound, hrun⟩ := exists_advance hs hp rfl hharmless
  refine ⟨d, hd, hsound, ?_⟩
  refine wp_of_ok (Q := fun _ t ↦ Q t) (E := fun _ ↦ True) ?_ hrun
  simp only [hside, receive, wp_bind, wp_modifySelf, wp_call]
  exact hread

/-- The same for what is written then. -/
theorem exists_written {data : ByteString} {h : WriteHandler} (hs : c.self.Sound)
    (hp : c.self.pending = [.write data h])
    (hwritten : wp (onWritten env h) (fun _ t ↦ Q t) (fun _ ↦ True) { c with self := { c.self with
      pending := [], trace := c.self.trace ++ [.sent h.side data] } }) :
    ∃ d, advance env .written c = .ok d ∧ d.self.Sound ∧ Q d := by
  obtain ⟨d, hd, hsound, hrun⟩ := exists_advance (x := .written) hs hp rfl trivial
  exact ⟨d, hd, hsound, wp_of_ok (Q := fun _ t ↦ Q t) (E := fun _ ↦ True) hwritten hrun⟩

theorem advance_of_over (hp : Over c.self.pending)
    (hx : x = .written ∨ ∃ chunk, x = .received chunk) : advance env x c = .ok c := by
  rcases hp with hp | ⟨host, hp⟩ | hp
  · exact advance_of_nil hp env x
  · rcases hx with rfl | ⟨chunk, rfl⟩ <;> exact advance_of_none hp rfl
  · rcases hx with rfl | ⟨chunk, rfl⟩ <;> exact advance_of_none hp rfl

theorem hear_of_over (hp : Over c.self.pending) (chunk : Chunk) : hear env c chunk = .ok c := by
  rw [hear, advance_of_over hp (.inr ⟨chunk, rfl⟩)]
  exact advance_of_over hp (.inl rfl)

/-- **A handshake that is over stays as it is.** -/
theorem run_hear_of_over (hp : Over c.self.pending) (reads : List Chunk) :
    run (hear env) c reads = .ok c := by
  induction reads with
  | nil => rfl
  | cons chunk reads ih =>
    rw [run_cons, hear_of_over hp]
    exact ih

/-- An error reply is written, and the session is closed. -/
theorem written_of_ending (env : Environment) (hs : c.self.Sound) (hp : Ending c.self.pending) :
    ∃ d, advance env .written c = .ok d ∧ d.self.Sound ∧ Over d.self.pending ∧
      d.self.milestones = c.self.milestones := by
  rcases hp with hp | ⟨data, reason, hp, hdata⟩
  · exact ⟨c, advance_of_over hp (.inl rfl), hs, hp, rfl⟩
  · obtain ⟨d, hd, hsound, hpending, hmilestones⟩ := exists_written hs hp (closeSession_stops _ _)
    refine ⟨d, hd, hsound, .inl hpending, ?_⟩
    rw [hmilestones, List.append_nil]
    refine List.filterMap_append.trans ?_
    simp only [WriteHandler.side, List.filterMap_cons, hdata, List.filterMap_nil, List.append_nil]
    rfl

/-- A first read that is no HTTP CONNECT, or one more read of the greeting. -/
theorem received_greeting (env : Environment) (hs : c.self.Sound)
    (hp : c.self.pending = [.read .handshakeAgain] ∨ c.self.pending = [.read .handshake] ∧
      isHttpConnect (c.self.clientBuffer.store chunk.bytes) chunk.bytes.length = false) :
    ∃ d, advance env (.received chunk) c = .ok d ∧ d.self.Sound ∧
      d.self.pending = Greeting.next (parseGreeting (c.self.clientBuffer.store chunk.bytes)
        chunk.bytes.length) ∧
      d.self.milestones = c.self.milestones := by
  have hgets := handleSocks5Handshake_gets env chunk.bytes.length (filled c chunk)
  obtain ⟨d, hd, hsound, hpending, hmilestones⟩ : ∃ d, advance env (.received chunk) c = .ok d ∧
      d.self.Sound ∧ GetsTo [] (Greeting.next (parseGreeting
        (c.self.clientBuffer.store chunk.bytes) chunk.bytes.length)) (filled c chunk) d := by
    rcases hp with hp | ⟨hp, hsocks⟩
    · exact exists_read hs hp rfl trivial hgets
    · refine exists_read hs hp rfl (fun hhttp ↦ ?_) ?_
      · exact absurd (hsocks.symm.trans hhttp) Bool.false_ne_true
      · rw [onRead, onHandshakeRead]
        simp only [wp_bind, wp_get]
        rw [if_neg]
        · exact hgets
        · exact ne_true_of_eq_false hsocks
  refine ⟨d, hd, hsound, hpending, ?_⟩
  rw [hmilestones, List.append_nil, milestones_filled]

/-- What a greeting, the reply to it included, brings the handshake to. -/
def Greeting.reached : Greeting → List Milestone
  | .invalid | .incomplete => []
  | .methods true => [.methodReply authUserpass]
  | .methods false => [.methodReply authNoAcceptable]

def Greeting.waits : Greeting → List Pending
  | .invalid | .methods false => []
  | .incomplete => [.read .handshakeAgain]
  | .methods true => [.read .auth]

theorem hear_greeting (env : Environment) {g : Greeting} (hs : c.self.Sound)
    (hp : c.self.pending = [.read .handshakeAgain] ∨ c.self.pending = [.read .handshake] ∧
      isHttpConnect (c.self.clientBuffer.store chunk.bytes) chunk.bytes.length = false)
    (hg : parseGreeting (c.self.clientBuffer.store chunk.bytes) chunk.bytes.length = g) :
    ∃ d, hear env c chunk = .ok d ∧ d.self.Sound ∧ d.self.pending = Greeting.waits g ∧
      d.self.milestones = c.self.milestones ++ Greeting.reached g := by
  obtain ⟨c₁, hc₁, hs₁, hp₁, hm₁⟩ := received_greeting env hs hp
  rw [hg] at hp₁
  rw [hear, hc₁, ← hm₁]
  simp only [Except.bind]
  rcases g with _ | _ | _ | _
  · exact ⟨c₁, advance_of_nil hp₁ env _, hs₁, hp₁, (List.append_nil _).symm⟩
  · exact ⟨c₁, advance_of_none hp₁ rfl, hs₁, hp₁, (List.append_nil _).symm⟩
  · obtain ⟨d, hd, hsound, hpending, hmilestones⟩ := exists_written hs₁ hp₁ (closeSession_stops _ _)
    refine ⟨d, hd, hsound, hpending, hmilestones.trans ?_⟩
    rw [List.append_nil]
    exact List.filterMap_append
  · obtain ⟨d, hd, hsound, hpending, hmilestones⟩ := exists_written
      (Q := GetsTo [.methodReply authUserpass] [.read .auth] { c₁ with self.pending := [] })
      hs₁ hp₁ ⟨rfl, List.filterMap_append⟩
    exact ⟨d, hd, hsound, hpending, hmilestones⟩

theorem hear_login {u pw : ByteString} (hs : c.self.Sound) (hp : c.self.pending = [.read .auth])
    (hlogin : parseLogin (c.self.clientBuffer.store chunk.bytes) chunk.bytes.length =
      .credentials u pw)
    (hok : env.users.authenticate env.lib env.config env.time u pw = .ok true) (hu : Utf8 u) :
    ∃ d, hear env c chunk = .ok d ∧ d.self.Sound ∧ d.self.pending = [.read .request] ∧
      d.self.milestones = c.self.milestones ++ [.credentials u pw] := by
  have hharmless : HarmlessLogin env c.self.clientBuffer chunk := by
    intro u' pw' h
    obtain ⟨rfl, rfl⟩ := Login.credentials.inj (hlogin.symm.trans h)
    exact ⟨hu, (authenticate_isOk_iff env u pw).mp ⟨true, hok⟩⟩
  obtain ⟨c₁, hc₁, hs₁, hp₁, hm₁⟩ := exists_read hs hp rfl hharmless
    (onAuthRead_gets (s := filled c chunk) hlogin hok)
  obtain ⟨d, hd, hsound, hpending, hmilestones⟩ := exists_written
    (Q := GetsTo [] [.read .request] { c₁ with self.pending := [] }) hs₁ hp₁
    ⟨rfl, List.filterMap_append⟩
  refine ⟨d, ?_, hsound, hpending, ?_⟩
  · rw [hear, hc₁]
    exact hd
  · rw [hmilestones, List.append_nil]
    exact hm₁.trans (congrArg (· ++ _) (milestones_filled c chunk))

theorem hear_request {host : ByteString} {port : UInt16} (hs : c.self.Sound)
    (hp : c.self.pending = [.read .request])
    (hrequest : parseRequest env.v6Text (c.self.clientBuffer.store chunk.bytes)
      chunk.bytes.length = .target host port)
    (hhost : Utf8 host) :
    ∃ d, hear env c chunk = .ok d ∧ d.self.Sound ∧ Over d.self.pending ∧
      d.self.milestones = c.self.milestones ++ [.target host port] := by
  have hharmless : HarmlessRequest env c.self.clientBuffer chunk := by
    intro host' port' h
    obtain ⟨rfl, rfl⟩ := ConnectRequest.target.inj (hrequest.symm.trans h)
    exact hhost
  obtain ⟨c₁, hc₁, hs₁, ops, hover, hp₁, hm₁⟩ := exists_read hs hp rfl hharmless
    (onRequestRead_gets (s := filled c chunk) hrequest)
  have hp₁' : Over c₁.self.pending := by
    rw [hp₁]
    exact hover
  refine ⟨c₁, ?_, hs₁, hp₁', hm₁.trans (congrArg (· ++ _) (milestones_filled c chunk))⟩
  rw [hear, hc₁]
  exact advance_of_over hp₁' (.inl rfl)

/-- **What a head leads to**, and whatever is read behind it. -/
theorem run_hear_head (hs : c.self.Sound) (hp : c.self.pending = [.read .handshake])
    (hhttp : isHttpConnect (c.self.clientBuffer.store chunk.bytes) chunk.bytes.length = true)
    (hharmless : HarmlessHead env chunk.bytes) (reads : List Chunk) :
    ∃ d, run (hear env) c (chunk :: reads) = .ok d ∧
      d.self.milestones = c.self.milestones ++ headMilestones env chunk.bytes := by
  obtain ⟨c₁, hc₁, hs₁, ops, hending, hp₁, hm₁⟩ := exists_read (h := .handshake) (Q := fun t ↦
      ∃ ops, Ending ops ∧ GetsTo (headMilestones env chunk.bytes) ops (filled c chunk) t)
    hs hp rfl (fun _ ↦ hharmless) (by
      rw [onRead, onHandshakeRead]
      simp only [wp_bind, wp_get]
      rw [if_pos (show isHttpConnect (filled c chunk).self.clientBuffer chunk.bytes.length = true
        from hhttp)]
      simp only [wp_bind, wp_modifySelf]
      have hgets := handleHttpConnect_gets env
        { filled c chunk with self.isHttp := true } chunk.bytes.length
      rw [show ({ filled c chunk with self.isHttp := true } : Ctx).self.clientBuffer.read 0
        chunk.bytes.length = chunk.bytes from Buffer.read_store_self _ chunk.fits] at hgets
      exact hgets)
  have hp₁' : Ending c₁.self.pending := by
    rw [hp₁]
    exact hending
  obtain ⟨d, hd, -, hover, hmilestones⟩ := written_of_ending env hs₁ hp₁'
  refine ⟨d, ?_, ?_⟩
  · rw [run_cons, hear, hc₁]
    simp only [Except.bind, hd]
    exact run_hear_of_over hover reads
  · rw [hmilestones, hm₁, milestones_filled]

/-- A head that makes the handler throw. -/
theorem run_hear_head_throws (hs : c.self.Sound) (hp : c.self.pending = [.read .handshake])
    (hhttp : isHttpConnect (c.self.clientBuffer.store chunk.bytes) chunk.bytes.length = true)
    (hharmful : ¬HarmlessHead env chunk.bytes) (reads : List Chunk) :
    (run (hear env) c (chunk :: reads)).toOption = none := by
  have hhandler : dispatch env (.read .handshake) (.received chunk) =
      some (receive .client chunk.bytes >>= fun _ ↦ onRead env chunk.bytes.length .handshake) := rfl
  have hdecides := dispatch_decides (s := { c with self.pending := [] }) hhandler hs.idle trivial
    fun _ ↦ rfl
  rw [run_cons, hear, advance_eq hp hhandler]
  rcases hrun : (receive .client chunk.bytes >>= fun _ ↦
    onRead env chunk.bytes.length .handshake) { c with self.pending := [] } with e | ⟨⟨⟩, d⟩
  · rfl
  · exact absurd ((wp_of_ok hdecides hrun).1 hhttp) hharmful

end Session

/-! ## From the world to one session -/

namespace Splitting

variable {o : ClientOpening}

/-- Of a session that waits, and of one that has been turned away, it is asked what it hears. -/
theorem unnoticed_of_heard {cut : Splitting o.messages} (h : ∀ (env : Environment) (c : Ctx),
    c.self.Sound → c.self.pending = [.read .handshake] →
      Session.heard env c cut.reads = Session.heard env c o.unsplit.reads) : cut.Unnoticed := by
  intro w t env₀ env a ht
  obtain ⟨c, rfl, hfresh⟩ := Session.exists_fresh ht
  have hs : (w.sessions ++ [c.self])[w.sessions.length]? = some c.self := by
    rw [List.getElem?_append_right le_rfl, Nat.sub_self]
    rfl
  rw [World.outcome_eq hs, World.outcome_eq hs]
  rcases hfresh.pending with hp | hp
  · rw [Session.heard_of_ok (Session.run_hear_of_over (.inl hp) _),
      Session.heard_of_ok (Session.run_hear_of_over (.inl hp) _)]
  · exact h env c hfresh.sound hp

end Splitting

/-- There is a client that the gateway lets in. -/
theorem exists_waiting : ∃ (t : World) (c : Ctx),
    World.step {} (.start (sampleEnvironment .direct) sampleArrival) = .ok t ∧
      t = ⟨c.gateway, [c.self]⟩ ∧ c.self.Fresh ∧ c.self.pending = [.read .handshake] := by
  have hobs : (World.step {} (.start (sampleEnvironment .direct) sampleArrival)).toOption.map
      (fun t ↦ t.sessions.map fun s ↦ s.pending) = some [[.read .handshake]] := by decide +kernel
  rcases ht : World.step {} (.start (sampleEnvironment .direct) sampleArrival) with e | t
  · rw [ht] at hobs
    cases hobs
  · rw [ht] at hobs
    obtain ⟨c, rfl, hfresh⟩ := Session.exists_fresh ht
    refine ⟨_, c, rfl, rfl, hfresh, ?_⟩
    exact List.singleton_inj.mp (Option.some.inj hobs)

/-- To a session that waits it makes no difference how an unnoticed splitting is split. -/
theorem exists_listener : ∃ c : Ctx, c.self.Fresh ∧ c.self.pending = [.read .handshake] ∧
    ∀ {o : ClientOpening} {cut : Splitting o.messages}, cut.Unnoticed → ∀ env,
      Session.heard env c cut.reads = Session.heard env c o.unsplit.reads := by
  obtain ⟨t, c, ht, rfl, hfresh, hp⟩ := exists_waiting
  refine ⟨c, hfresh, hp, fun {o cut} h env ↦ ?_⟩
  have houtcome := h {} _ _ env _ ht
  rw [World.outcome_eq (s := c.self) rfl, World.outcome_eq (s := c.self) rfl] at houtcome
  exact houtcome

end LanProxyGateway
