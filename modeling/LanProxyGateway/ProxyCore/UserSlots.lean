import LanProxyGateway.ProxyCore.Slots

/-!
# Is the right user charged?

The admitter counts connections per user name. A session asks for admission under the empty name,
before it knows any other, and gives back under `m_username`, whatever that is when it is closed.
Nothing moves its slot from the empty name to the name of the user in between.

`UsersCounted` says what the counts should be: for every name, the live sessions charged to it. They
are as long as all sessions keep the empty name, and each of the ways out of that is visible in one
step: a user with a name logs in (`NamedLogin`), a session that was refused under a name is closed
(`ClosesNamed`), or a session is let in without a slot (`FindsFull`); closing a session twice is out
of the question here.
-/

open Foundation ByteString

namespace LanProxyGateway

/-! ## Whom a session is charged to -/

/-- The name of a successful login. -/
def Call.login? : Call → Option ByteString
  | .authenticate u _ true => some u
  | _ => none

/-- The name a session should be charged to: the authenticated one, and the empty one before. -/
def Session.chargedTo (s : Session) : ByteString := (s.trace.findSome? Call.login?).getD []

/-- Nobody has logged in under a name. -/
def Session.Nameless (s : Session) : Prop :=
  ∀ u pw, .authenticate u pw true ∈ s.trace → u = []

theorem Session.Nameless.chargedTo {s : Session} (h : s.Nameless) : s.chargedTo = [] := by
  rw [Session.chargedTo]
  rcases hf : s.trace.findSome? Call.login? with _ | u
  · rfl
  · obtain ⟨x, hx, hlogin⟩ := List.exists_of_findSome?_eq_some hf
    rcases x with _ | _ | _ | _ | ⟨v, pw, _ | _⟩ | _ | _
    · cases hlogin
    · cases hlogin
    · cases hlogin
    · cases hlogin
    · cases hlogin
    · rw [Option.getD_some, ← Option.some.inj hlogin]
      exact h v pw hx
    · cases hlogin
    · cases hlogin

/-- The error reply after which a session is closed. -/
def Pending.isClosing : Pending → Prop
  | .write _ (.closing _) => True
  | _ => False

theorem Pending.lane_of_isClosing {p : Pending} (h : p.isClosing) : p.lane = .handshake := by
  rcases p with _ | ⟨_, _ | _ | _ | _ | _ | _ | _ | _⟩ | _ | _ | _ | _ <;>
    first | rfl | exact h.elim

/-- A session that has a name without a login is about to be closed. -/
structure Session.Plain (s : Session) : Prop where
  nameless : s.Nameless
  closing : s.username ≠ [] → ∀ p ∈ s.pending, p.isClosing

namespace Reaction

variable {env : Environment} {b : Buffer} {u u' : ByteString} {p : Pending} {c : Completion}
  {calls : List Call} {ops : List Pending}

/-- A reaction in which nobody logs in under a name. -/
theorem plain (h : Reaction env b u p c calls ops u')
    (hno : ∀ h chunk v pw, p = .read h → c = .received chunk → Presents env b h chunk v pw true →
      v = []) (hu : u ≠ [] → p.isClosing) :
    (∀ v pw, .authenticate v pw true ∈ calls → v = []) ∧ (u' ≠ [] → ∀ q ∈ ops, q.isClosing) := by
  cases h with
  | close => exact ⟨by simp, fun _ q hq ↦ absurd hq List.not_mem_nil⟩
  | refuse => exact ⟨by simp, fun _ q hq ↦ List.mem_singleton.mp hq ▸ trivial⟩
  | httpRefused => exact ⟨by simp, fun _ q hq ↦ List.mem_singleton.mp hq ▸ trivial⟩
  | httpAdmitted chunk v pw hl hr =>
    obtain rfl := hno _ _ _ _ rfl rfl hl
    refine ⟨fun v' pw' hmem ↦ ?_, fun hne ↦ absurd rfl hne⟩
    rcases List.mem_cons.mp hmem with hmem | hmem
    · exact (Call.authenticate.inj hmem).1
    · exact absurd hmem (hr.not_authenticate v' pw' true)
  | login chunk v pw data ok hl =>
    rcases ok with _ | _
    · exact ⟨by simp, fun hne ↦ False.elim (hu hne)⟩
    · obtain rfl := hno _ _ _ _ rfl rfl hl
      refine ⟨fun v' pw' hmem ↦ ?_, fun hne ↦ absurd rfl hne⟩
      exact (Call.authenticate.inj (List.mem_singleton.mp hmem)).1
  | request chunk hr =>
    exact ⟨fun v pw hmem ↦ absurd hmem (hr.not_authenticate v pw true),
      fun hne ↦ False.elim (hu hne)⟩
  | awaitLogin hh | awaitRequest hh =>
    refine ⟨by simp, fun hne ↦ ?_⟩
    have hclosing := hu hne
    rcases hh with ⟨data, rfl⟩ | rfl <;> exact hclosing.elim
  | dropped => exact ⟨by simp, fun _ q hq ↦ absurd hq List.not_mem_nil⟩
  | _ => exact ⟨by simp, fun hne ↦ False.elim (hu hne)⟩

end Reaction

/-! ## The counts of the admitter -/

namespace ConnectionAdmitter

variable {a : ConnectionAdmitter} {n : ℕ}

/-- The counts where `n` sessions are charged to the empty name and none to any other: nobody
queues, and there is no entry for a count of zero. -/
structure Tally (a : ConnectionAdmitter) (n : ℕ) : Prop where
  queue : a.queue = []
  empty : a.userConnections.lookup [] = if n = 0 then none else some (n : Int)
  named : ∀ u ≠ [], a.userConnections.lookup u = none
  limit : 0 < a.maxConnectionsPerUser → (n : Int) ≤ a.maxConnectionsPerUser

theorem Tally.getUserConnections (h : a.Tally n) (u : ByteString) :
    a.getUserConnections u = if u = [] then (n : Int) else 0 := by
  rw [ConnectionAdmitter.getUserConnections]
  by_cases hu : u = []
  · rw [if_pos hu, hu, h.empty]
    split <;> simp [*]
  · rw [if_neg hu, h.named u hu, Option.getD_none]

/-- The limit is reached only by as many sessions. -/
theorem Tally.le_of_userLimitReached (h : a.Tally n) (hl : a.userLimitReached [] = true) :
    a.maxConnectionsPerUser ≤ n := by
  rw [userLimitReached, h.empty] at hl
  split at hl
  · rename_i m hm
    split at hm
    · cases hm
    · rw [Option.some.inj hm]
      exact of_decide_eq_true hl
  · cases hl

theorem Tally.takeSlot (h : a.Tally n) (hl : a.userLimitReached [] = false) :
    (a.takeSlot []).Tally (n + 1) := by
  have hcount : (a.userConnections.lookup []).getD 0 = (n : Int) := by
    rw [h.empty]
    split <;> simp [*]
  refine ⟨h.queue, ?_, fun u hu ↦ ?_, fun hpos ↦ ?_⟩
  · rw [ConnectionAdmitter.takeSlot, AList.lookup_insert, hcount, if_neg (Nat.succ_ne_zero n),
      Nat.cast_succ]
  · rw [ConnectionAdmitter.takeSlot, AList.lookup_insert_ne hu]
    exact h.named u hu
  · rw [userLimitReached, h.empty] at hl
    have hmax : 0 < a.maxConnectionsPerUser := hpos
    show ((n + 1 : ℕ) : Int) ≤ a.maxConnectionsPerUser
    by_cases hn : n = 0
    · rw [hn]
      exact hmax
    · rw [if_neg hn] at hl
      have hlt := not_le.mp (of_decide_eq_false hl)
      push_cast
      omega

theorem Tally.releaseUser (h : a.Tally n) : (a.releaseUser []).Tally (n - 1) := by
  rw [ConnectionAdmitter.releaseUser, h.empty]
  by_cases hn : n = 0
  · rw [if_pos hn]
    refine ⟨h.queue, ?_, h.named, ?_⟩
    · rw [h.empty, hn]
    · rw [hn]
      exact fun hpos ↦ hpos.le
  rw [if_neg hn]
  have hlimit : 0 < a.maxConnectionsPerUser → ((n - 1 : ℕ) : Int) ≤ a.maxConnectionsPerUser :=
    fun hpos ↦ le_trans (by omega) (h.limit hpos)
  by_cases hone : (n : Int) - 1 ≤ 0
  · simp only [if_pos hone]
    refine ⟨h.queue, ?_, fun u hu ↦ ?_, hlimit⟩
    · rw [AList.lookup_erase, if_pos (by omega)]
    · rw [AList.lookup_erase_ne hu]
      exact h.named u hu
  · simp only [if_neg hone]
    refine ⟨h.queue, ?_, fun u hu ↦ ?_, hlimit⟩
    · rw [AList.lookup_insert, if_neg (by omega)]
      congr 1
      omega
    · rw [AList.lookup_insert_ne hu]
      exact h.named u hu

/-- The active connections and the limits apart from those per user do not matter. -/
theorem Tally.congr {b : ConnectionAdmitter} (h : a.Tally n) (hq : b.queue = a.queue)
    (hu : b.userConnections = a.userConnections)
    (hl : b.maxConnectionsPerUser = a.maxConnectionsPerUser) : b.Tally n :=
  ⟨hq.trans h.queue, hu ▸ h.empty, hu ▸ h.named, hl ▸ h.limit⟩

theorem Tally.releaseConnection (h : a.Tally n) (now : SteadyTime) :
    (a.releaseConnection now []).2.2.Tally (n - 1) := by
  have hslot : (a.releaseSlot []).Tally (n - 1) := Tally.releaseUser (h.congr rfl rfl rfl)
  rw [ConnectionAdmitter.releaseConnection, dequeueConnections, hslot.queue]
  exact hslot.congr hslot.queue.symm rfl rfl

end ConnectionAdmitter

/-! ## The counts of the proxy -/

namespace World

/-- The number of live sessions charged to a name. -/
def chargedTo (w : World) (u : ByteString) : ℕ :=
  w.sessions.countP fun s ↦ s.isLive && decide (s.chargedTo = u)

/-- The counts per user are right; so no user has more live sessions than the limit allows, and a
client is turned away for its user only when that user has as many. -/
structure UsersCounted (w : World) : Prop where
  count : ∀ u, w.gateway.admitter.getUserConnections u = w.chargedTo u
  limit : 0 < w.gateway.admitter.maxConnectionsPerUser →
    ∀ u, (w.chargedTo u : Int) ≤ w.gateway.admitter.maxConnectionsPerUser
  rejected : ∀ env a t s, w.step (.start env a) = .ok t → t.sessions = w.sessions ++ [s] →
    .requestAdmit .rejectedUser ∈ s.trace →
    w.gateway.admitter.maxConnectionsPerUser ≤ w.chargedTo []

/-- A user with a name logs in. -/
def NamedLogin (w : World) (e : Event) : Prop :=
  ∃ i k chunk env s h u pw, e = .complete i k (.received chunk) env ∧ w.sessions[i]? = some s ∧
    s.pending[k]? = some (.read h) ∧ Presents env s.clientBuffer h chunk u pw true ∧ u ≠ []

/-- The error reply to a session with a name is through, and the session is closed. -/
def ClosesNamed (w : World) (e : Event) : Prop :=
  ∃ i k c env s p, e = .complete i k c env ∧ w.sessions[i]? = some s ∧ s.pending[k]? = some p ∧
    p.isClosing ∧ s.username ≠ []

/-- A client connects when it can only queue. -/
def FindsFull (w : World) (e : Event) : Prop :=
  ∃ env a, e = .start env a ∧ w.gateway.admitter.WouldQueue

/-- A step none of these is. -/
structure KeepsNames (w : World) (e : Event) : Prop where
  once : ¬ClosesAgain w e
  noLogin : ¬NamedLogin w e
  noClose : ¬ClosesNamed w e
  noQueue : ¬FindsFull w e

/-- The invariant. -/
structure Nameless (w : World) : Prop where
  orderly : ∀ s ∈ w.sessions, s.Orderly
  plain : ∀ s ∈ w.sessions, s.Plain
  tally : w.gateway.admitter.Tally w.live

theorem Nameless.chargedTo {w : World} (hw : w.Nameless) (u : ByteString) :
    w.chargedTo u = if u = [] then w.live else 0 := by
  by_cases hu : u = []
  · rw [if_pos hu, World.chargedTo, live]
    refine List.countP_congr fun s hs ↦ ?_
    rw [(hw.plain s hs).nameless.chargedTo, hu, decide_eq_true rfl, Bool.and_true]
  · rw [if_neg hu, World.chargedTo, List.countP_eq_zero]
    intro s hs
    rw [(hw.plain s hs).nameless.chargedTo, decide_eq_false (Ne.symm hu), Bool.and_false]
    exact Bool.false_ne_true

theorem Nameless.usersCounted {w : World} (hw : w.Nameless) : w.UsersCounted := by
  refine ⟨fun u ↦ ?_, fun hpos u ↦ ?_, fun env a t s ht hs hrej ↦ ?_⟩
  · rw [hw.tally.getUserConnections, hw.chargedTo]
    split <;> rfl
  · rw [hw.chargedTo]
    split
    · exact hw.tally.limit hpos
    · exact hpos.le
  · rw [hw.chargedTo, if_pos rfl]
    refine hw.tally.le_of_userLimitReached ?_
    have hnone : ∀ result, result ≠ .rejectedUser → s.trace ≠ [.requestAdmit result] := by
      intro result hne htrace
      rw [htrace] at hrej
      exact hne (Call.requestAdmit.inj (List.mem_singleton.mp hrej)).symm
    cases moves_of_step ht with
    | idle => exact absurd (congrArg List.length hs) (by simp)
    | start _ _ c h =>
      obtain rfl : c.self = s := (List.cons.inj (List.append_cancel_left hs)).1
      rcases h with ⟨hturned, -⟩ | ⟨result, hturned, hlimit, -⟩ | ⟨hin, -⟩ | ⟨q, -, hin, -⟩
      · obtain ⟨reason, htrace⟩ := hturned.trace
        rw [htrace] at hrej
        cases List.mem_singleton.mp hrej
      · obtain ⟨reason, htrace⟩ := hturned.trace
        rw [htrace] at hrej
        rcases List.mem_pair.mp hrej with hrej | hrej
        · exact hlimit (Call.requestAdmit.inj hrej).symm
        · cases hrej
      · exact absurd hin.trace (hnone _ nofun)
      · exact absurd hin.trace (hnone _ nofun)

theorem plain_of_started {l : Ledger} {t : Ctx} (h : Session.Started l t) : t.self.Plain := by
  have hplain : t.self.username = [] → (∀ u pw ok, .authenticate u pw ok ∉ t.self.trace) →
      t.self.Plain :=
    fun hu hno ↦ ⟨fun u pw hmem ↦ absurd hmem (hno u pw true), fun hne ↦ absurd hu hne⟩
  rcases h with ⟨ht, -⟩ | ⟨result, ht, -⟩ | ⟨ht, -⟩ | ⟨_, -, ht, -⟩
  · refine hplain ht.username ?_
    obtain ⟨reason, htrace⟩ := ht.trace
    simp [htrace]
  · refine hplain ht.username ?_
    obtain ⟨reason, htrace⟩ := ht.trace
    simp [htrace]
  · exact hplain ht.username (by simp [ht.trace])
  · exact hplain ht.username (by simp [ht.trace])

/-- Sessions stay plain while nobody logs in under a name. -/
theorem Moves.plain {w t : World} {e : Event} (hm : Moves w e t) (hn : ¬NamedLogin w e)
    (ho : ∀ s ∈ w.sessions, s.Orderly) (hs : ∀ s ∈ w.sessions, s.Plain) :
    ∀ s ∈ t.sessions, s.Plain := by
  rcases hm with e | ⟨env, a, t, h⟩ | ⟨i, k, c, env, t, calls, ops, hi, hp, h⟩
  · exact hs
  · intro s hmem
    rcases List.mem_append.mp hmem with hmem | hmem
    · exact hs s hmem
    · rw [List.mem_singleton.mp hmem]
      exact plain_of_started h
  · intro s' hmem
    rcases List.mem_or_eq_of_mem_set hmem with hmem | rfl
    · exact hs s' hmem
    rename_i s p
    have hsplain := hs s (List.mem_of_getElem? hi)
    obtain ⟨hcalls, hops⟩ := h.allowed.plain (fun h' chunk v pw hread hchunk hl ↦ by
      by_contra hne
      exact hn ⟨i, k, chunk, env, s, h', v, pw, by rw [hchunk], hi, hread ▸ hp, hl, hne⟩)
      fun hne ↦ hsplain.closing hne p (List.mem_of_getElem? hp)
    refine ⟨fun u pw hauth ↦ ?_, fun hne q hq ↦ ?_⟩
    · rw [h.trace] at hauth
      rcases List.mem_append.mp hauth with hauth | hauth
      · rcases List.mem_append.mp hauth with hauth | hauth
        · exact hsplain.nameless u pw hauth
        · exact absurd hauth (authenticate_not_mem_recorded p c u pw true)
      · exact hcalls u pw hauth
    · rw [h.pending] at hq
      rcases List.mem_append.mp hq with hq | hq
      · have hlane : p.lane ≠ .handshake := by
          intro hlane
          have halone := (ho s (List.mem_of_getElem? hi)).alone hp hlane
          exact List.ne_nil_of_mem hq halone
        have hclosing := hsplain.closing (h.allowed.relay_name hlane ▸ hne) p
          (List.mem_of_getElem? hp)
        exact absurd (Pending.lane_of_isClosing hclosing) hlane
      · exact hops hne q hq

/-- The counts stay right where a step keeps the names. -/
theorem Nameless.tally_of_accounts {w t : World} {e : Event} (hw : w.Nameless)
    (h : Accounts w e t) (hk : KeepsNames w e) : t.gateway.admitter.Tally t.live := by
  have hadmitter : t.gateway.admitter = t.gateway.ledger.admitter := rfl
  rw [hadmitter]
  rcases h with ⟨hlive, hl⟩ | ⟨hlive, hl⟩ | ⟨env, client, a, rfl, hlive, hlimit, ha, hl⟩ |
    ⟨i, k, c, env, rfl, hs, hp, hlive, hl⟩
  · rw [hl, hlive]
    exact hw.tally
  · rw [hl, hlive]
    exact hw.tally
  · rw [hl, hlive]
    rcases ha with ⟨-, rfl⟩ | ⟨hfull, -⟩
    · exact hw.tally.takeSlot hlimit
    · exact absurd ⟨env, client, rfl, hfull⟩ hk.noQueue
  · rename_i s p
    have hname : s.username = [] := by
      by_contra hne
      have hclosing := (hw.plain s (List.mem_of_getElem? hs)).closing hne p
        (List.mem_of_getElem? hp)
      exact hk.noClose ⟨i, k, c, env, s, p, rfl, hs, hp, hclosing, hne⟩
    rw [hl, hlive, hname]
    exact hw.tally.releaseConnection env.now

theorem Nameless.step {w t : World} {e : Event} (hw : w.Nameless) (hk : KeepsNames w e)
    (ht : w.step e = .ok t) : t.Nameless where
  orderly := (moves_of_step ht).orderly hw.orderly
  plain := (moves_of_step ht).plain hk.noLogin hw.orderly hw.plain
  tally := hw.tally_of_accounts ((moves_of_step ht).accounts hw.orderly hk.once) hk

theorem nameless_of_initial {w : World} (h₀ : w.Initial) : w.Nameless := by
  have hlive : w.live = 0 := by rw [live, h₀.sessions]; rfl
  refine ⟨?_, ?_, h₀.queue, ?_, fun u _ ↦ ?_, fun hpos ↦ ?_⟩
  · rw [h₀.sessions]
    exact fun s hs ↦ absurd hs List.not_mem_nil
  · rw [h₀.sessions]
    exact fun s hs ↦ absurd hs List.not_mem_nil
  · rw [h₀.users, hlive]
    rfl
  · rw [h₀.users]
    rfl
  · rw [hlive]
    exact hpos.le

/-- **Users are counted right while nobody has a name.** In every run in which no user with a name
logs in, no session with a name is closed, no client has to queue, and no session is closed twice,
every count is the number of live sessions charged to the user, with what follows for the limit. -/
theorem users_counted {w₀ w : World} {es : List Event} (h₀ : w₀.Initial)
    (hw : run World.step w₀ es = .ok w) (hk : Along World.step KeepsNames w₀ es) :
    w.UsersCounted :=
  (run_induction (fun _ _ _ hI hk ht ↦ Nameless.step hI hk ht) (nameless_of_initial h₀) hk
    hw).usersCounted

/-! ## Steps that can be seen to keep the names -/

/-- The name under which the bytes that complete a read log in, if they do. -/
def loginName? (env : Environment) (b : Buffer) (chunk : Chunk) (h : ReadHandler) :
    Option ByteString :=
  let (u, p) := match h, parseLogin (b.store chunk.bytes) chunk.bytes.length with
    | .auth, .credentials u p => (u, p)
    | _, _ => parseCredentials chunk.bytes
  match env.users.authenticate env.lib env.config env.time u p with
  | .ok true => some u
  | _ => none

theorem loginName?_of_presents {env : Environment} {b : Buffer} {chunk : Chunk} {h : ReadHandler}
    {u p : ByteString} (hl : Presents env b h chunk u p true) :
    loginName? env b chunk h = some u := by
  rw [loginName?.eq_def]
  rcases hl with ⟨hlogin, hok⟩ | ⟨-, -, -, hcredentials, -, hok⟩
  · rw [hlogin]
    dsimp only
    rw [hok]
  · rw [hcredentials]
    dsimp only
    rw [hok]

/-- A client that finds a free slot, or a handler of an open session without a name in which nobody
logs in under one. -/
def seemsPlain (w : World) : Event → Bool
  | .start _ _ => decide (w.gateway.admitter.activeConnections < w.gateway.admitter.maxConnections)
  | .complete i k c env => w.sessions[i]?.all fun s : Session ↦
    s.isOpen && s.username.isEmpty && match s.pending[k]?, c with
      | some (.read h), .received chunk => (loginName? env s.clientBuffer chunk h).all List.isEmpty
      | _, _ => true

theorem keepsNames_of_seemsPlain {w : World} {e : Event} (h : w.seemsPlain e = true) :
    KeepsNames w e := by
  rcases e with ⟨env, a⟩ | ⟨i, k, c, env⟩
  · refine ⟨?_, ?_, ?_, ?_⟩
    · rintro ⟨i, k, message, n, env, s, he, -⟩
      cases he
    · rintro ⟨i, k, chunk, env, s, h, u, pw, he, -⟩
      cases he
    · rintro ⟨i, k, c, env, s, p, he, -⟩
      cases he
    · rintro ⟨env', a', -, hfull, -⟩
      exact absurd (of_decide_eq_true h) (not_lt.mpr hfull)
  · rw [seemsPlain] at h
    have hs : ∀ s, w.sessions[i]? = some s → s.isOpen = true ∧ s.username = [] := by
      intro s hs
      rw [hs, Option.all_some, Bool.and_eq_true, Bool.and_eq_true] at h
      exact ⟨h.1.1, List.isEmpty_iff.mp h.1.2⟩
    refine ⟨?_, ?_, ?_, ?_⟩
    · rintro ⟨i', k', message, n, env', s, he, hi, hclosed, -⟩
      obtain ⟨rfl, -⟩ := Event.complete.inj he
      exact Bool.false_ne_true (hclosed.symm.trans (hs s hi).1)
    · rintro ⟨i', k', chunk, env', s, r, u, pw, he, hi, hp, hl, hne⟩
      obtain ⟨rfl, rfl, rfl, rfl⟩ := Event.complete.inj he
      rw [hi, Option.all_some, hp, Bool.and_eq_true] at h
      have hname := h.2
      dsimp only at hname
      rw [loginName?_of_presents hl, Option.all_some] at hname
      exact hne (List.isEmpty_iff.mp hname)
    · rintro ⟨i', k', c', env', s, p, he, hi, -, -, hne⟩
      obtain ⟨rfl, -⟩ := Event.complete.inj he
      exact hne (hs s hi).2
    · rintro ⟨env', a, he, -⟩
      cases he

/-! ## Two clients -/

/-- There is an account with the empty name and the password of the administrator. -/
def namelessEnvironment : Environment where
  __ := sampleEnvironment .direct
  users := { users := AList.singleton [] {
    passwordHash := (sampleEnvironment .direct).config.adminPasswordHash } }

/-- The login of `b` with the password `a`. -/
def unknownLogin : Chunk where
  bytes := [0x01, 0x01, 98, 0x01, 97]
  nonempty := by decide
  fits := by decide

/-- The head of an HTTP CONNECT to port 80 of `h`, with the credentials `:a`. -/
def namelessHead : Chunk where
  bytes := ofString "CONNECT h:80 HTTP/1.1\r\nProxy-Authorization: Basic OmE=\r\n\r\n"
  nonempty := by decide
  fits := by decide

/-- One client fails to log in as `b` and is closed, the other logs in under the empty name. -/
def twoClientsRun : List Event :=
  [.start namelessEnvironment sampleArrival, .start namelessEnvironment sampleArrival,
    .complete 0 0 (.received sampleGreeting) namelessEnvironment,
    .complete 0 0 .written namelessEnvironment,
    .complete 0 0 (.received unknownLogin) namelessEnvironment,
    .complete 1 0 (.received namelessHead) namelessEnvironment,
    .complete 0 0 .written namelessEnvironment]

theorem twoClientsRun_users_counted : ∃ w, run World.step {} twoClientsRun = .ok w ∧
    w.sessions.map (fun s ↦ (s.isOpen, s.trace.findSome? Call.login?)) =
      [(false, none), (true, some [])] ∧
    w.gateway.admitter.getUserConnections [] = 1 ∧ w.UsersCounted := by
  have hrun : (run World.step {} twoClientsRun).toOption.map (fun w ↦
      (w.sessions.map (fun s ↦ (s.isOpen, s.trace.findSome? Call.login?)),
        w.gateway.admitter.getUserConnections [])) =
      some ([(false, none), (true, some [])], 1) := by decide +kernel
  obtain ⟨w, hw, hobs⟩ := exists_run_of_observation hrun
  obtain ⟨hsessions, hcount⟩ := Prod.mk.inj hobs
  have hplain : Along World.step (fun w e ↦ w.seemsPlain e = true) {} twoClientsRun := by
    decide +kernel
  exact ⟨w, hw, hsessions, hcount, users_counted ⟨rfl, rfl, rfl, rfl, rfl, rfl⟩ hw
    (hplain.mono fun _ _ ↦ keepsNames_of_seemsPlain)⟩

/-- A user who has just logged in is charged for nothing. -/
theorem loginRun_not_users_counted : ∃ w, Reachable World.step {} w ∧
    w.chargedTo (ofString "a") = 1 ∧ w.gateway.admitter.getUserConnections (ofString "a") = 0 ∧
    ¬w.UsersCounted := by
  have hrun : (run World.step {} loginRun).toOption.map (fun w ↦
      (w.chargedTo (ofString "a"), w.gateway.admitter.getUserConnections (ofString "a"))) =
      some (1, 0) := by decide +kernel
  obtain ⟨w, hw, hobs⟩ := exists_run_of_observation hrun
  obtain ⟨hcharged, hcount⟩ := Prod.mk.inj hobs
  refine ⟨w, ⟨loginRun, hw⟩, hcharged, hcount, fun h ↦ ?_⟩
  have heq := h.count (ofString "a")
  rw [hcharged, hcount] at heq
  exact absurd heq (by decide)

end World

end LanProxyGateway
