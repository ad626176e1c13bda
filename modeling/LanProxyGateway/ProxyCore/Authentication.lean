import LanProxyGateway.ProxyCore.Lifecycle

/-!
# Authentication precedes all service

A session is a stranger until a login succeeds, and serves a user from then on. Which of the two it
is can be read off the operation it is waiting for (`Pending.standing`), and a handler only ever
crosses from one side to the other by calling `authenticate` with a name and a password that the
client has just sent (`Reaction.continues_or_logsIn`). The trace therefore justifies every step on
behalf of the client: by a successful login under the name the session has, which in turn is
justified by bytes received from the client.
-/

open Foundation ByteString

namespace LanProxyGateway

/-! ## Strangers and users -/

/-- Whom a session that waits for an operation is dealing with. -/
inductive Standing
  | stranger
  | user
  | leaving
  deriving DecidableEq, Repr

def Pending.standing : Pending → Standing
  | .read .handshake | .read .handshakeAgain | .read .auth | .read .authAgain
  | .write _ (.methodReply _) => .stranger
  | .write _ (.authReply false) | .write _ (.closing _) => .leaving
  | _ => .user

theorem Pending.lane_of_stranger {p : Pending} (h : p.standing = .stranger) :
    p.lane = .handshake := by
  rcases p with ⟨_ | _ | _ | _ | _ | _ | _ | _ | _ | _⟩ |
    ⟨_, _ | ⟨_ | _⟩ | _ | _ | _ | _ | _ | _⟩ | _ | _ | _ | _ <;> first | rfl | cases h

/-- A reaction without a login: only a user is served, and standing does not improve. -/
structure Continues (u : ByteString) (p : Pending) (calls : List Call) (ops : List Pending)
    (u' : ByteString) : Prop where
  username : u' = u
  noLogin : ∀ v pw ok, .authenticate v pw ok ∉ calls
  services : ∀ v x, .service v x ∈ calls → v = u ∧ p.standing = .user
  standing : ∀ q ∈ ops, q.standing = .leaving ∨ q.standing = p.standing

/-- A reaction that begins with a login, made with what the client has just sent. -/
structure LogsIn (p : Pending) (c : Completion) (calls : List Call) (ops : List Pending)
    (u' : ByteString) : Prop where
  stranger : p.standing = .stranger
  login : ∃ bytes v pw ok rest, .received .client bytes ∈ recorded p c ∧ Decodes bytes v pw ∧
    calls = .authenticate v pw ok :: rest ∧ (∀ v' pw' ok', .authenticate v' pw' ok' ∉ rest) ∧
    ((ok = true ∧ u' = v ∧ (∀ v' x, .service v' x ∈ rest → v' = v) ∧
        ∀ q ∈ ops, q.standing = .user) ∨
      (ok = false ∧ rest = [] ∧ ∀ q ∈ ops, q.standing = .leaving))

theorem Routed.standing {u : ByteString} {calls : List Call} {ops : List Pending}
    (h : Routed u calls ops) : ∀ q ∈ ops, q.standing = .user := by
  intro q hq
  rcases h with ⟨host, port⟩ | ⟨host, port⟩ <;>
  · rw [List.mem_singleton.mp hq]
    rfl

theorem Routed.name_eq {u v : ByteString} {x : Service} {calls : List Call} {ops : List Pending}
    (h : Routed u calls ops) (hx : .service v x ∈ calls) : v = u := by
  obtain ⟨y, hy⟩ := h.eq_service hx
  exact (Call.service.inj hy).1

namespace Reaction

variable {env : Environment} {b : Buffer} {u u' : ByteString} {p : Pending} {c : Completion}
  {calls : List Call} {ops : List Pending}

/-- A reaction that makes no call and starts one operation. -/
private theorem continues_silent {q : Pending}
    (hq : q.standing = .leaving ∨ q.standing = p.standing) : Continues u p [] [q] u where
  username := rfl
  noLogin _ _ _ := List.not_mem_nil
  services _ _ hx := absurd hx List.not_mem_nil
  standing _ hr := List.mem_singleton.mp hr ▸ hq

/-- A user is served with one step. -/
private theorem continues_service {x : Service} (hp : p.standing = .user)
    (hops : ∀ q ∈ ops, q.standing = .user) : Continues u p [.service u x] ops u where
  username := rfl
  noLogin _ _ _ hmem := nomatch List.mem_singleton.mp hmem
  services v y hy := by
    obtain ⟨rfl, -⟩ := Call.service.inj (List.mem_singleton.mp hy)
    exact ⟨rfl, hp⟩
  standing q hq := .inr ((hops q hq).trans hp.symm)

/-- **Every reaction either goes on as it was or logs in.** -/
theorem continues_or_logsIn (h : Reaction env b u p c calls ops u') :
    Continues u p calls ops u' ∨ LogsIn p c calls ops u' := by
  cases h with
  | close reason hp =>
    refine .inl ⟨rfl, fun _ _ _ hmem ↦ ?_, fun _ _ hmem ↦ ?_,
      fun q hq ↦ absurd hq List.not_mem_nil⟩ <;> cases List.mem_singleton.mp hmem
  | refuse => exact .inl (continues_silent (.inl rfl))
  | greetingAgain hh | greeting hh =>
    rcases hh with rfl | rfl <;> exact .inl (continues_silent (.inr rfl))
  | httpRefused chunk v pw data reason hl =>
    refine .inr ⟨rfl, chunk.bytes, _, pw, false, [], List.mem_singleton_self _, hl.decodes, rfl,
      fun _ _ _ ↦ List.not_mem_nil, .inr ⟨rfl, rfl, fun q hq ↦ ?_⟩⟩
    rw [List.mem_singleton.mp hq]
    rfl
  | httpAdmitted chunk v pw hl hr =>
    exact .inr ⟨rfl, chunk.bytes, _, pw, true, _, List.mem_singleton_self _, hl.decodes, rfl,
      hr.not_authenticate, .inl ⟨rfl, rfl, fun _ _ ↦ hr.name_eq, hr.standing⟩⟩
  | awaitLogin hh | awaitRequest hh =>
    rcases hh with ⟨data, rfl⟩ | rfl <;> exact .inl (continues_silent (.inr rfl))
  | login chunk v pw data ok hl =>
    refine .inr ⟨rfl, chunk.bytes, v, pw, ok, [], List.mem_singleton_self _, hl.decodes, rfl,
      fun _ _ _ ↦ List.not_mem_nil, ?_⟩
    rcases ok with _ | _
    · refine .inr ⟨rfl, rfl, fun q hq ↦ ?_⟩
      rw [List.mem_singleton.mp hq]
      rfl
    · refine .inl ⟨rfl, rfl, fun _ _ hx ↦ absurd hx List.not_mem_nil, fun q hq ↦ ?_⟩
      rw [List.mem_singleton.mp hq]
      rfl
  | request chunk hr =>
    exact .inl ⟨rfl, hr.not_authenticate, fun v x hx ↦ ⟨hr.name_eq hx, rfl⟩,
      fun q hq ↦ .inr (hr.standing q hq)⟩
  | dropped hh =>
    exact .inl ⟨rfl, fun _ _ _ ↦ List.not_mem_nil, fun _ _ hx ↦ absurd hx List.not_mem_nil,
      fun q hq ↦ absurd hq List.not_mem_nil⟩
  | resolved =>
    refine .inl (continues_service rfl fun q hq ↦ ?_)
    rw [List.mem_singleton.mp hq]
    rfl
  | stream =>
    refine .inl (continues_service rfl fun q hq ↦ ?_)
    rcases List.mem_pair.mp hq with rfl | rfl <;> rfl
  | _ => exact .inl (continues_silent (.inr rfl))

end Reaction

/-! ## The trace justifies what was done -/

/-- Calls that need a justification. -/
def Call.isPrivileged : Call → Prop
  | .authenticate _ _ _ | .service _ _ => True
  | _ => False

/-- Bytes of the client justify a login with what they decode to, and a successful login justifies
service under its name. -/
inductive Justifies : Call → Call → Prop
  | login (bytes u pw : ByteString) (ok : Bool) (h : Decodes bytes u pw) :
    Justifies (.received .client bytes) (.authenticate u pw ok)
  | service (u pw : ByteString) (x : Service) : Justifies (.authenticate u pw true) (.service u x)

namespace Session

/-- The invariant: strangers have not logged in, users have, under the name the session has. -/
structure Authenticated (s : Session) : Prop where
  strangers : ∀ p ∈ s.pending, p.standing = .stranger → ∀ u pw, .authenticate u pw true ∉ s.trace
  users : ∀ p ∈ s.pending, p.standing = .user → ∃ pw, .authenticate s.username pw true ∈ s.trace
  name : ∀ u pw, .authenticate u pw true ∈ s.trace → s.username = u
  justified : Preceded Call.isPrivileged Justifies s.trace

theorem authenticated_of_started {l : Ledger} {t : Ctx} (h : Started l t) :
    t.self.Authenticated := by
  have hsilent : ∀ {calls : List Call}, t.self.trace = calls →
      (∀ x ∈ calls, ¬x.isPrivileged) → (∀ p ∈ t.self.pending, p.standing = .stranger) →
      t.self.Authenticated := by
    rintro calls rfl hcalls hpending
    have hno : ∀ u pw, .authenticate u pw true ∉ t.self.trace :=
      fun u pw hmem ↦ hcalls _ hmem trivial
    refine ⟨fun _ _ _ ↦ hno, fun p hp hu ↦ ?_, fun u pw hmem ↦ absurd hmem (hno u pw), ?_⟩
    · rw [hpending p hp] at hu
      cases hu
    · intro pre a post ht ha
      refine absurd ha (hcalls a ?_)
      rw [ht]
      exact List.mem_append_right _ List.mem_cons_self
  have hturned : ∀ {calls : List Call}, TurnedAway t calls → (∀ x ∈ calls, ¬x.isPrivileged) →
      t.self.Authenticated := by
    intro calls ht hcalls
    obtain ⟨reason, htrace⟩ := ht.trace
    refine hsilent htrace (fun x hx ↦ ?_) ?_
    · rcases List.mem_append.mp hx with hx | hx
      · exact hcalls x hx
      · rw [List.mem_singleton.mp hx]
        exact id
    · rw [ht.pending]
      exact fun p hp ↦ absurd hp List.not_mem_nil
  have hlet : ∀ {result}, LetIn t result → t.self.Authenticated := by
    intro result ht
    refine hsilent ht.trace (fun x hx ↦ ?_) ?_
    · rw [List.mem_singleton.mp hx]
      exact id
    · rw [ht.pending]
      exact fun p hp ↦ List.mem_singleton.mp hp ▸ rfl
  rcases h with ⟨ht, -⟩ | ⟨result, ht, -⟩ | ⟨ht, -⟩ | ⟨_, -, ht, -⟩
  · exact hturned ht fun x hx ↦ absurd hx List.not_mem_nil
  · refine hturned ht fun x hx ↦ ?_
    rw [List.mem_singleton.mp hx]
    exact id
  · exact hlet ht
  · exact hlet ht

theorem recorded_unprivileged (p : Pending) (c : Completion) :
    ∀ x ∈ recorded p c, ¬x.isPrivileged := by
  rw [recorded.eq_def]
  split <;> simp [Call.isPrivileged]

variable {env : Environment} {s : Session} {g : Gateway} {t : Ctx} {k : ℕ} {p : Pending}
  {c : Completion} {calls : List Call} {ops : List Pending}

theorem mem_trace_of_mem_recorded {u pw : ByteString} {ok : Bool}
    (h : Call.authenticate u pw ok ∈ s.trace ++ recorded p c) :
      .authenticate u pw ok ∈ s.trace := by
  rcases List.mem_append.mp h with h | h
  · exact h
  · exact absurd h (authenticate_not_mem_recorded p c u pw ok)

/-- The trace up to the completion is as justified as before. -/
theorem Authenticated.justified_resume (hs : s.Authenticated) (p : Pending) (c : Completion) :
    Preceded Call.isPrivileged Justifies (s.trace ++ recorded p c) :=
  hs.justified.append fun x hx hpriv ↦ absurd hpriv (recorded_unprivileged p c x hx)

theorem Authenticated.continues (hs : s.Authenticated) (hp : s.pending[k]? = some p)
    (h : Yields env (Reaction env s.clientBuffer s.username p c) ⟨s.resume k p c, g⟩ t calls ops)
    (hc : Continues s.username p calls ops t.self.username) : t.self.Authenticated := by
  have hmem : p ∈ s.pending := List.mem_of_getElem? hp
  have htrace : t.self.trace = (s.trace ++ recorded p c) ++ calls := h.trace
  have hold : ∀ {u pw}, .authenticate u pw true ∈ t.self.trace →
      .authenticate u pw true ∈ s.trace := by
    intro u pw hauth
    rw [htrace] at hauth
    rcases List.mem_append.mp hauth with hauth | hauth
    · exact mem_trace_of_mem_recorded hauth
    · exact absurd hauth (hc.noLogin u pw true)
  have hnew : ∀ {x}, x ∈ s.trace → x ∈ t.self.trace := by
    intro x hx
    rw [htrace]
    exact List.mem_append_left _ (List.mem_append_left _ hx)
  -- an operation that is left, or started in the standing of the one that completed
  have hops : ∀ q ∈ t.self.pending, q.standing = .leaving ∨
      ∃ q' ∈ s.pending, q.standing = q'.standing := by
    intro q hq
    rw [h.pending] at hq
    rcases List.mem_append.mp hq with hq | hq
    · exact .inr ⟨q, List.mem_of_mem_eraseIdx hq, rfl⟩
    · exact (hc.standing q hq).imp_right fun hst ↦ ⟨p, hmem, hst⟩
  refine ⟨fun q hq hst u pw hauth ↦ ?_, fun q hq hst ↦ ?_, fun u pw hauth ↦ ?_, ?_⟩
  · rcases hops q hq with hl | ⟨q', hq', heq⟩
    · rw [hl] at hst
      cases hst
    · exact hs.strangers q' hq' (heq ▸ hst) u pw (hold hauth)
  · rcases hops q hq with hl | ⟨q', hq', heq⟩
    · rw [hl] at hst
      cases hst
    · obtain ⟨pw, hpw⟩ := hs.users q' hq' (heq ▸ hst)
      exact ⟨pw, hc.username ▸ hnew hpw⟩
  · exact hc.username.trans (hs.name u pw (hold hauth))
  · rw [htrace]
    refine (hs.justified_resume p c).append fun x hx hpriv ↦ ?_
    rcases x with _ | _ | _ | _ | ⟨v, pw, ok⟩ | ⟨v, x⟩ | _
    · exact hpriv.elim
    · exact hpriv.elim
    · exact hpriv.elim
    · exact hpriv.elim
    · exact absurd hx (hc.noLogin v pw ok)
    · obtain ⟨rfl, hst⟩ := hc.services v x hx
      obtain ⟨pw, hpw⟩ := hs.users p hmem hst
      exact ⟨_, List.mem_append_left _ hpw, .service _ pw x⟩
    · exact hpriv.elim

theorem Authenticated.logIn (hs : s.Authenticated) (ho : s.Orderly) (hp : s.pending[k]? = some p)
    (h : Yields env (Reaction env s.clientBuffer s.username p c) ⟨s.resume k p c, g⟩ t calls ops)
    (hl : LogsIn p c calls ops t.self.username) : t.self.Authenticated := by
  have hno := hs.strangers p (List.mem_of_getElem? hp) hl.stranger
  have halone := ho.alone hp (Pending.lane_of_stranger hl.stranger)
  obtain ⟨bytes, v, pw, ok, rest, hbytes, hd, rfl, hrest, hok⟩ := hl.login
  have hpending : t.self.pending = s.pending.eraseIdx k ++ ops := h.pending
  rw [halone, List.nil_append] at hpending
  have htrace : t.self.trace =
      ((s.trace ++ recorded p c) ++ [.authenticate v pw ok]) ++ rest := by
    rw [List.append_assoc _ [_], List.singleton_append]
    exact h.trace
  -- the only login in the new trace is the one just made
  have honly : ∀ {u pw'}, .authenticate u pw' true ∈ t.self.trace → u = v ∧ ok = true := by
    intro u pw' hauth
    rw [htrace] at hauth
    rcases List.mem_append.mp hauth with hauth | hauth
    · rcases List.mem_append.mp hauth with hauth | hauth
      · exact absurd (mem_trace_of_mem_recorded hauth) (hno u pw')
      · obtain ⟨rfl, -, rfl⟩ := Call.authenticate.inj (List.mem_singleton.mp hauth)
        exact ⟨rfl, rfl⟩
    · exact absurd hauth (hrest u pw' true)
  have hjust : Preceded Call.isPrivileged Justifies
      ((s.trace ++ recorded p c) ++ [.authenticate v pw ok]) := by
    refine (hs.justified_resume p c).append fun x hx _ ↦ ?_
    rw [List.mem_singleton.mp hx]
    exact ⟨_, List.mem_append_right _ hbytes, .login bytes v pw ok hd⟩
  rcases hok with ⟨rfl, hname, hserve, huser⟩ | ⟨rfl, rfl, hleave⟩
  · have hin : .authenticate v pw true ∈ t.self.trace := by
      rw [htrace]
      exact List.mem_append_left _ (List.mem_append_right _ (List.mem_singleton_self _))
    refine ⟨fun q hq hst ↦ ?_, fun q hq hst ↦ ⟨pw, hname ▸ hin⟩, fun u pw' hauth ↦ ?_, ?_⟩
    · rw [huser q (hpending ▸ hq)] at hst
      cases hst
    · rw [hname, (honly hauth).1]
    · rw [htrace]
      refine hjust.append fun x hx hpriv ↦ ?_
      rcases x with _ | _ | _ | _ | ⟨v', pw', ok'⟩ | ⟨v', x⟩ | _
      · exact hpriv.elim
      · exact hpriv.elim
      · exact hpriv.elim
      · exact hpriv.elim
      · exact absurd hx (hrest v' pw' ok')
      · rw [hserve v' x hx]
        exact ⟨_, List.mem_append_right _ (List.mem_singleton_self _), .service v pw x⟩
      · exact hpriv.elim
  · rw [List.append_nil] at htrace
    refine ⟨fun q hq _ u pw' hauth ↦ ?_, fun q hq hst ↦ ?_, fun u pw' hauth ↦ ?_, ?_⟩
    · exact absurd (honly hauth).2 Bool.false_ne_true
    · rw [hleave q (hpending ▸ hq)] at hst
      cases hst
    · exact absurd (honly hauth).2 Bool.false_ne_true
    · rw [htrace]
      exact hjust

theorem Authenticated.react (hs : s.Authenticated) (ho : s.Orderly) (hp : s.pending[k]? = some p)
    (h : Yields env (Reaction env s.clientBuffer s.username p c) ⟨s.resume k p c, g⟩ t calls ops) :
    t.self.Authenticated := by
  rcases h.allowed.continues_or_logsIn with hc | hl
  · exact hs.continues hp h hc
  · exact hs.logIn ho hp h hl

end Session

/-! ## All runs -/

theorem World.authenticated {w₀ w : World} (hw : Reachable World.step w₀ w)
    (h₀ : w₀.sessions = []) : ∀ s ∈ w.sessions, s.Orderly ∧ s.Authenticated :=
  World.sessions_induction hw h₀ (I := fun s ↦ s.Orderly ∧ s.Authenticated)
    (fun _ _ h ↦ ⟨Session.orderly_of_started h, Session.authenticated_of_started h⟩)
    fun _ _ _ _ _ _ _ _ _ hs hp h ↦ ⟨hs.1.react hp h, hs.2.react hs.1 hp h⟩

/-- **Authentication precedes all service.** In every reachable state of the proxy and every
session, each step on behalf of the client comes after a successful `authenticate`, made by this
session with a name and a password decoded from bytes it had received from the client before; and
the name of the session is the one of the successful login from then on. -/
theorem World.service_authenticated {w₀ w : World} (hw : Reachable World.step w₀ w)
    (h₀ : w₀.sessions = []) {s : Session} (hs : s ∈ w.sessions) :
    (∀ before u x after, s.trace = before ++ .service u x :: after →
      ∃ early pw late bytes, before = early ++ .authenticate u pw true :: late ∧
        .received .client bytes ∈ early ∧ Decodes bytes u pw) ∧
    ∀ u pw, .authenticate u pw true ∈ s.trace → s.username = u := by
  have ha := (World.authenticated hw h₀ s hs).2
  refine ⟨fun before u x after htrace ↦ ?_, ha.name⟩
  obtain ⟨b, hb, hj⟩ := ha.justified before _ after htrace trivial
  rcases hj with _ | ⟨_, pw, _⟩
  obtain ⟨early, late, rfl⟩ := List.append_of_mem hb
  rw [List.append_assoc, List.cons_append] at htrace
  obtain ⟨b', hb', hj'⟩ := ha.justified early _ _ htrace trivial
  rcases hj' with ⟨bytes, _, _, _, hd⟩ | _
  exact ⟨early, pw, late, bytes, rfl, hb', hd⟩

theorem loginRun_service_authenticated : ∃ w, run World.step {} loginRun = .ok w ∧
    ∃ s ∈ w.sessions, ∃ before, s.trace = before ++ [.service (ofString "a") .resolve] ∧
      ∃ early pw late bytes, before = early ++ .authenticate (ofString "a") pw true :: late ∧
        .received .client bytes ∈ early ∧ Decodes bytes (ofString "a") pw := by
  have hrun : (run World.step {} loginRun).toOption.map (fun w ↦ w.sessions.map (·.trace)) =
      some [[.requestAdmit .accepted, .received .client sampleHead.bytes,
        .authenticate (ofString "a") (ofString "a") true,
        .service (ofString "a") (.routeDecision (ofString "h") 80)]
          ++ [.service (ofString "a") .resolve]] := by decide +kernel
  obtain ⟨w, hw, htraces⟩ := exists_run_of_observation hrun
  obtain ⟨s, hs, htrace⟩ : ∃ s ∈ w.sessions, s.trace = _ :=
    List.mem_map.mp (htraces ▸ List.mem_singleton_self _)
  refine ⟨w, hw, s, hs, _, htrace, ?_⟩
  exact (World.service_authenticated ⟨loginRun, hw⟩ rfl hs).1 _ _ _ [] htrace

end LanProxyGateway
