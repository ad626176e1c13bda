import LanProxyGateway.ProxyCore.UserSlots

/-!
# Who counts the users?

`concurrency_metrics` keeps the connections of every user and their total. Both are raised when a
user logs in, in `do_auth` and in `do_http_auth`, and `dec_user_connections` would lower both; but
nothing calls it. `StatisticsTrue` says what the statistics page takes for granted: the total is the
sum over the users, and the number of a user is that of the open sessions that logged in under the
name.

Since nothing is ever lowered, the statistics are true up to the first time a session that has
logged in is closed, and wrong from then on (`statistics_true_iff`). When a completion closes a
session is a matter of the bytes it brought, `Session.Ends`.
-/

open Foundation ByteString

namespace LanProxyGateway

open LanProxy

/-! ## The tables -/

/-- The entry of the table of a user. -/
def ConcurrencyMetrics.userActive (m : ConcurrencyMetrics) (username : ByteString) : Int :=
  ((m.userMetrics.lookup username).getD {}).activeConnections

/-- The connections of all entries of a table. -/
def sumActive (m : AList fun _ : ByteString ↦ ConnectionCounts) : Int :=
  (m.entries.map fun e ↦ e.2.activeConnections).sum

/-- A sum over a table is the summand of one key and the sum over the others. -/
theorem sum_kerase (key : ByteString) : ∀ l : List (Sigma fun _ : ByteString ↦ ConnectionCounts),
    ((l.dlookup key).getD {}).activeConnections +
      ((l.kerase key).map fun e ↦ e.2.activeConnections).sum =
        (l.map fun e ↦ e.2.activeConnections).sum := by
  intro l
  induction l with
  | nil => rfl
  | cons e l ih =>
    obtain ⟨k, c⟩ := e
    by_cases hk : key = k
    · subst hk
      have hkerase : (⟨key, c⟩ :: l : List (Sigma fun _ : ByteString ↦ ConnectionCounts)).kerase
          key = l := List.kerase_cons_eq rfl
      rw [List.dlookup_cons_eq, hkerase]
      rfl
    · rw [List.dlookup_cons_ne _ _ hk, List.kerase_cons_ne hk, List.map_cons, List.map_cons,
        List.sum_cons, List.sum_cons, ← ih]
      omega

theorem sumActive_countIn (m : AList fun _ : ByteString ↦ ConnectionCounts) (key : ByteString) :
    sumActive (ConcurrencyMetrics.countIn m key) = sumActive m + 1 := by
  have hsum : ((m.lookup key).getD {}).activeConnections +
      ((m.entries.kerase key).map fun e ↦ e.2.activeConnections).sum = sumActive m :=
    sum_kerase key m.entries
  rw [sumActive, ConcurrencyMetrics.countIn, AList.entries_insert, List.map_cons, List.sum_cons,
    ← hsum]
  show _ + 1 + _ = _
  omega

theorem lookup_countIn (m : AList fun _ : ByteString ↦ ConnectionCounts) (u v : ByteString) :
    (((ConcurrencyMetrics.countIn m v).lookup u).getD {}).activeConnections =
      ((m.lookup u).getD {}).activeConnections + if u = v then 1 else 0 := by
  rw [ConcurrencyMetrics.countIn]
  by_cases huv : u = v
  · subst huv
    rw [AList.lookup_insert, if_pos rfl]
    rfl
  · rw [AList.lookup_insert_ne huv, if_neg huv, Int.add_zero]

/-! ## What is observed -/

/-- The counts of the users, and their total. -/
def Gateway.userCounts (g : Gateway) :
    (AList fun _ : ByteString ↦ ConnectionCounts) × Int :=
  (g.concurrency.userMetrics, g.concurrency.activeConnections)

/-- What a call adds to the counts. -/
def bookLogin (counts : (AList fun _ : ByteString ↦ ConnectionCounts) × Int) (x : Call) :
    (AList fun _ : ByteString ↦ ConnectionCounts) × Int :=
  match x.login? with
  | some u => (ConcurrencyMetrics.countIn counts.1 u, counts.2 + 1)
  | none => counts

/-- Calls that are no logins. -/
theorem foldl_bookLogin_of_no_login {calls : List Call} (h : ∀ x ∈ calls, x.login? = none)
    (counts : (AList fun _ : ByteString ↦ ConnectionCounts) × Int) :
    calls.foldl bookLogin counts = counts := by
  induction calls with
  | nil => rfl
  | cons x calls ih =>
    rw [List.forall_mem_cons] at h
    rw [List.foldl_cons, bookLogin, h.1]
    exact ih h.2

namespace Session

/-- The user a session has logged in as. -/
def user? (s : Session) : Option ByteString := s.trace.findSome? Call.login?

/-- The read `h` has brought `length` bytes, and its handler will close the session. -/
def EndsRead (env : Environment) (client remote : Buffer) (length : ℕ) : ReadHandler → Prop
  | .handshake => isHttpConnect client length = false ∧ parseGreeting client length = .invalid
  | .handshakeAgain => parseGreeting client length = .invalid
  | .auth => parseLogin client length = .invalid
  | .request => parseRequest env.v6Text client length = .invalid
  | .v2raynGreeting _ _ => length < 2 ∨ remote.byte 0 ≠ socksVersion ∨ remote.byte 1 ≠ authNone
  | .v2raynConnect => length < 2 ∨ remote.byte 1 ≠ 0x00
  | _ => False

/-- The handler of a write closes the session after it has gone through. -/
def EndsWritten : WriteHandler → Prop
  | .methodReply supportAuth => supportAuth = false
  | .authReply authenticated => authenticated = false
  | .closing _ => True
  | _ => False

/-- The handler of a write closes the session after it has failed. -/
def EndsWriteFailed : WriteHandler → Prop
  | .methodReply _ => False
  | .authReply authenticated => authenticated = false
  | _ => True

/-- The completion `c` of `p` closes the session. -/
def Ends (env : Environment) (s : Session) : Pending → Completion → Prop
  | .read h, .received chunk =>
    match h.side with
    | .client =>
      EndsRead env (s.clientBuffer.store chunk.bytes) s.remoteBuffer chunk.bytes.length h
    | .remote =>
      EndsRead env s.clientBuffer (s.remoteBuffer.store chunk.bytes) chunk.bytes.length h
  | .read _, .failed _ _ => True
  | .write _ h, .written => EndsWritten h
  | .write _ h, .failed _ _ => EndsWriteFailed h
  | .resolveV2rayn, .failed _ _ => True
  | _, _ => False

/-! ## What the handlers do to the counts -/

open SessionM

/-- Between two states of a session the counts of the users follow the calls. -/
def Booked (s t : Ctx) : Prop :=
  ∃ calls, t.self.trace = s.self.trace ++ calls ∧
    t.gateway.userCounts = calls.foldl bookLogin s.gateway.userCounts

theorem Booked.trans {s t u : Ctx} (h : Booked s t) (h' : Booked t u) : Booked s u := by
  obtain ⟨calls, htrace, hcounts⟩ := h
  obtain ⟨calls', htrace', hcounts'⟩ := h'
  refine ⟨calls ++ calls', ?_, ?_⟩
  · rw [htrace', htrace, List.append_assoc]
  · rw [hcounts', hcounts, List.foldl_append]

/-- The calls are those of the trace. -/
theorem Booked.counts_eq {s t : Ctx} (h : Booked s t) {calls : List Call}
    (ht : t.self.trace = s.self.trace ++ calls) :
    t.gateway.userCounts = calls.foldl bookLogin s.gateway.userCounts := by
  obtain ⟨calls', htrace, hcounts⟩ := h
  rw [htrace, List.append_cancel_left_eq] at ht
  exact ht ▸ hcounts

/-- A handler ran from `s` to `t`, and it closed the session where `ends` says so. -/
structure Ran (ends : Prop) (s t : Ctx) : Prop where
  booked : Booked s t
  closed : ends → t.self.isOpen = false
  kept : ¬ends → t.self.isOpen = s.self.isOpen

/-- Every run of the program comes out like this. -/
def Runs (ends : Prop) (s : Ctx) (m : SessionM Unit) : Prop :=
  wp m (fun _ t ↦ Ran ends s t) (fun _ ↦ True) s

variable {env : Environment} {ends : Prop} {s : Ctx}

/-- A piece of a handler without a login. -/
theorem Ran.of_calls {t : Ctx} (calls : List Call) (hends : ¬ends)
    (htrace : t.self.trace = s.self.trace ++ calls) (hcalls : ∀ x ∈ calls, x.login? = none)
    (hcounts : t.gateway.userCounts = s.gateway.userCounts)
    (hopen : t.self.isOpen = s.self.isOpen) : Ran ends s t := by
  refine ⟨⟨calls, htrace, ?_⟩, fun h ↦ absurd h hends, fun _ ↦ hopen⟩
  rw [foldl_bookLogin_of_no_login hcalls]
  exact hcounts

/-- A piece of a handler that makes no call. -/
theorem Ran.of_trace {t : Ctx} (hends : ¬ends) (htrace : t.self.trace = s.self.trace)
    (hcounts : t.gateway.userCounts = s.gateway.userCounts)
    (hopen : t.self.isOpen = s.self.isOpen) : Ran ends s t :=
  .of_calls [] hends (htrace.trans (List.append_nil _).symm) (by simp) hcounts hopen

/-- A piece of a handler that makes one call, and no login. -/
theorem Ran.of_call {t : Ctx} (x : Call) (hends : ¬ends)
    (htrace : t.self.trace = s.self.trace ++ [x]) (hx : x.login? = none)
    (hcounts : t.gateway.userCounts = s.gateway.userCounts)
    (hopen : t.self.isOpen = s.self.isOpen) : Ran ends s t := by
  refine .of_calls [x] hends htrace (fun y hy ↦ ?_) hcounts hopen
  rw [List.mem_singleton.mp hy]
  exact hx

/-- A piece of a handler in front of the rest. -/
theorem Runs.after {m : SessionM Unit} {s₁ : Ctx} (h : Runs ends s₁ m) (hs : Ran False s s₁) :
    wp m (fun _ t ↦ Ran ends s t) (fun _ ↦ True) s₁ := by
  refine wp_mono h ?_ fun _ h ↦ h
  intro _ t ht
  exact ⟨hs.booked.trans ht.booked, ht.closed, fun hends ↦ (ht.kept hends).trans (hs.kept id)⟩

theorem userCounts_release (env : Environment) (s : Session) (g : Gateway) :
    (s.release env g).userCounts = g.userCounts := by
  rw [release]
  split <;> split <;> rfl

theorem userCounts_addTraffic (s : Session) (g : Gateway) :
    (s.addTraffic g).userCounts = g.userCounts := by
  rw [addTraffic]
  split <;> rfl

theorem closeSession_runs (reason : Text) (hends : ends) (s : Ctx) :
    Runs ends s (closeSession env reason) := by
  have hend : ∀ t : Ctx, t.self.trace = s.self.trace ++ [.close reason] → t.self.isOpen = false →
      t.gateway.userCounts = s.gateway.userCounts → Ran ends s t := by
    intro t htrace hopen hcounts
    exact ⟨⟨[.close reason], htrace, hcounts⟩, fun _ ↦ hopen, fun h ↦ absurd hends h⟩
  simp only [Runs, closeSession, logClose, dumpStats, wp_bind, wp_modifySelf, wp_call, wp_get,
    wp_modifyGateway, wp_ite, wp_log, wp_pure, wp_throw, implies_true, and_true]
  refine ⟨fun _ _ ↦ hend _ rfl rfl ?_, fun _ _ ↦ hend _ rfl rfl ?_⟩
  · exact (userCounts_addTraffic _ _).trans (userCounts_release env s.self s.gateway)
  · exact userCounts_release env s.self s.gateway

theorem post_runs (q : Pending) (hends : ¬ends) (s : Ctx) : Runs ends s (post q) :=
  .of_trace hends rfl rfl rfl

theorem replyEstablished_runs (hends : ¬ends) (s : Ctx) : Runs ends s replyEstablished := by
  simp only [Runs, replyEstablished, wp_bind, wp_get, wp_ite, wp_ofExcept, implies_true, and_true]
  exact ⟨fun _ ↦ post_runs _ hends s, fun _ _ _ ↦ post_runs _ hends s⟩

theorem failWith_runs (code : UInt8) (reason : Text) (hends : ¬ends) (s : Ctx) :
    Runs ends s (failWith code reason) := by
  simp only [Runs, failWith, wp_bind, wp_get, wp_ite]
  exact ⟨fun _ ↦ post_runs _ hends s, fun _ ↦ post_runs _ hends s⟩

/-- What `do_auth` and `do_http_auth` do with the answer to a login. -/
theorem ran_of_login {t : Ctx} (username password : ByteString) (authenticated : Bool)
    (hends : ¬ends)
    (htrace : t.self.trace = s.self.trace ++ [.authenticate username password authenticated])
    (hcounts : t.gateway.userCounts = if authenticated then
      (ConcurrencyMetrics.countIn s.gateway.userCounts.1 username, s.gateway.userCounts.2 + 1)
      else s.gateway.userCounts)
    (hopen : t.self.isOpen = s.self.isOpen) : Ran ends s t := by
  refine ⟨⟨_, htrace, ?_⟩, fun h ↦ absurd h hends, fun _ ↦ hopen⟩
  rw [hcounts]
  rcases authenticated with _ | _ <;> rfl

theorem handleSocks5Handshake_runs (length : ℕ) (s : Ctx)
    (hends : ends ↔ parseGreeting s.self.clientBuffer length = .invalid) :
    Runs ends s (handleSocks5Handshake env length) := by
  rw [Runs, handleSocks5Handshake]
  simp only [wp_bind, wp_get]
  split
  · rename_i hparse
    simp only [wp_bind, wp_log, implies_true, and_true]
    exact fun _ ↦ closeSession_runs _ (hends.mpr hparse) s
  · rename_i hparse
    exact post_runs _ (by simp [hends, hparse]) s
  · rename_i hparse
    exact post_runs _ (by simp [hends, hparse]) s
  · rename_i hparse
    simp only [wp_bind, wp_log, implies_true, and_true]
    exact fun _ ↦ post_runs _ (by simp [hends, hparse]) s

theorem onAuthRead_runs (length : ℕ) (s : Ctx)
    (hends : ends ↔ parseLogin s.self.clientBuffer length = .invalid) :
    Runs ends s (onAuthRead env length) := by
  rw [Runs, onAuthRead]
  simp only [wp_bind, wp_get]
  split
  · rename_i hparse
    exact closeSession_runs _ (hends.mpr hparse) s
  · rename_i hparse
    exact post_runs _ (by simp [hends, hparse]) s
  · rename_i username password hparse
    have hno : ¬ends := by simp [hends, hparse]
    simp only [noteLogin, noteFailedLogin, wp_bind, wp_ofExcept, wp_call, wp_ite, wp_modifySelf,
      wp_get, wp_modifyGateway, wp_log, wp_post, implies_true, and_true, Bool.not_eq_true]
    intro authenticated _
    refine ⟨?_, ?_⟩
    · rintro rfl -
      exact ran_of_login username password true hno rfl rfl rfl
    · rintro rfl -
      exact ran_of_login username password false hno rfl rfl rfl

theorem doRouteDecision_runs (hends : ¬ends) (s : Ctx) : Runs ends s (doRouteDecision env) := by
  rw [Runs, doRouteDecision]
  simp only [wp_bind, wp_get, wp_serve]
  have hservice : ∀ {t : Ctx} (a b : Service), t.self.trace = s.self.trace ++
      [.service s.self.username a] ++ [.service s.self.username b] →
      t.gateway.userCounts = s.gateway.userCounts → t.self.isOpen = s.self.isOpen →
      Ran ends s t := by
    intro t a b htrace hcounts hopen
    refine .of_calls _ hends (htrace.trans (List.append_assoc _ _ _)) ?_ hcounts hopen
    simp [Call.login?]
  split
  · simp only [doResolve, wp_bind, wp_modifySelf, wp_log, wp_serve, wp_get, wp_post, implies_true,
      and_true]
    exact fun _ ↦ hservice _ _ rfl rfl rfl
  · simp only [chooseNode, doConnectViaV2rayn, wp_bind, wp_modifySelf, wp_serve, wp_get]
    split <;>
    · simp only [wp_bind, wp_modifySelf, wp_modifyGateway, wp_log, wp_post, implies_true, and_true]
      intro _
      refine .of_calls [_, _, _] hends ((List.append_assoc _ _ _).trans
        (List.append_assoc _ _ _)) ?_ rfl rfl
      simp [Call.login?]

theorem doHttpAuth_runs (hends : ¬ends) (s : Ctx) : Runs ends s (doHttpAuth env) := by
  simp only [Runs, doHttpAuth, noteLogin, noteFailedLogin, wp_bind, wp_get, wp_ofExcept, wp_call,
    wp_ite, wp_log, wp_modifySelf, wp_modifyGateway, wp_post, implies_true, and_true,
    Bool.not_eq_true]
  intro authenticated _
  refine ⟨?_, ?_⟩
  · rintro rfl -
    refine (doRouteDecision_runs hends _).after ?_
    exact ran_of_login s.self.httpUsername s.self.httpPassword true id rfl rfl rfl
  · rintro rfl -
    exact ran_of_login s.self.httpUsername s.self.httpPassword false hends rfl rfl rfl

theorem handleHttpConnect_runs (length : ℕ) (hends : ¬ends) (s : Ctx) :
    Runs ends s (handleHttpConnect env length) := by
  rw [Runs, handleHttpConnect]
  simp only [wp_bind, wp_get]
  split
  · exact post_runs _ hends s
  · simp only [wp_bind, wp_ofExcept, wp_modifySelf, wp_ite, wp_log, wp_post, implies_true, and_true]
    refine fun port _ ↦ ⟨fun _ _ ↦ ?_, fun _ _ ↦ ?_⟩
    · exact .of_trace hends rfl rfl rfl
    · exact (doHttpAuth_runs hends _).after (.of_trace id rfl rfl rfl)

theorem onHandshakeRead_runs (length : ℕ) (s : Ctx)
    (hends : ends ↔ isHttpConnect s.self.clientBuffer length = false ∧
      parseGreeting s.self.clientBuffer length = .invalid) :
    Runs ends s (onHandshakeRead env length) := by
  rw [Runs, onHandshakeRead]
  simp only [wp_bind, wp_get, wp_ite, wp_modifySelf, Bool.not_eq_true]
  refine ⟨fun hhttp ↦ ?_, fun hhttp ↦ ?_⟩
  · have hno : ¬ends := by simp [hends, hhttp]
    exact (handleHttpConnect_runs length hno _).after (.of_trace id rfl rfl rfl)
  · exact handleSocks5Handshake_runs length s (by simp [hends, hhttp])

theorem onRequestRead_runs (length : ℕ) (s : Ctx)
    (hends : ends ↔ parseRequest env.v6Text s.self.clientBuffer length = .invalid) :
    Runs ends s (onRequestRead env length) := by
  rw [Runs, onRequestRead]
  simp only [wp_bind, wp_get]
  split
  · rename_i hparse
    exact closeSession_runs _ (hends.mpr hparse) s
  · rename_i hparse
    exact post_runs _ (by simp [hends, hparse]) s
  · rename_i hparse
    exact post_runs _ (by simp [hends, hparse]) s
  · rename_i hparse
    exact post_runs _ (by simp [hends, hparse]) s
  · rename_i host port hparse
    simp only [wp_bind, wp_modifySelf, wp_log, implies_true, and_true]
    intro _
    have hno : ¬ends := by simp [hends, hparse]
    exact (doRouteDecision_runs hno _).after (.of_trace id rfl rfl rfl)

theorem onV2raynGreetingRead_runs (host : ByteString) (port : UInt16) (length : ℕ) (s : Ctx)
    (hends : ends ↔ length < 2 ∨ s.self.remoteBuffer.byte 0 ≠ socksVersion ∨
      s.self.remoteBuffer.byte 1 ≠ authNone) :
    Runs ends s (onV2raynGreetingRead env host port length) := by
  simp only [Runs, onV2raynGreetingRead, wp_bind, wp_get, wp_ite]
  refine ⟨fun hshort ↦ ?_, fun hlong ↦ ⟨fun hbytes ↦ ?_, fun hbytes ↦ ?_⟩⟩
  · exact closeSession_runs _ (hends.mpr (.inl hshort)) s
  · exact closeSession_runs _ (hends.mpr (.inr hbytes)) s
  · exact post_runs _ (fun h ↦ (hends.mp h).elim hlong hbytes) s

theorem onV2raynConnectRead_runs (length : ℕ) (s : Ctx)
    (hends : ends ↔ length < 2 ∨ s.self.remoteBuffer.byte 1 ≠ 0x00) :
    Runs ends s (onV2raynConnectRead env length) := by
  simp only [Runs, onV2raynConnectRead, wp_bind, wp_get, wp_ite, wp_modifySelf,
    wp_modifyGateway, wp_log, implies_true, and_true]
  refine ⟨fun hshort ↦ ?_, fun hlong ↦ ⟨fun hbyte ↦ ?_, fun hbyte ↦ ?_⟩⟩
  · exact closeSession_runs _ (hends.mpr (.inl hshort)) s
  · exact closeSession_runs _ (hends.mpr (.inr hbyte)) s
  · have hno : ¬ends := fun h ↦ (hends.mp h).elim hlong hbyte
    refine ⟨fun _ _ ↦ ?_, fun _ _ ↦ ?_⟩ <;>
      exact (replyEstablished_runs hno _).after (.of_trace id rfl rfl rfl)

theorem onRead_runs (h : ReadHandler) (length : ℕ) (s : Ctx) :
    Runs (EndsRead env s.self.clientBuffer s.self.remoteBuffer length h) s
      (onRead env length h) := by
  rcases h with _ | _ | _ | _ | _ | _ | ⟨host, port⟩ | _ | _ | _
  · exact onHandshakeRead_runs length s Iff.rfl
  · exact handleSocks5Handshake_runs length s Iff.rfl
  · exact onAuthRead_runs length s Iff.rfl
  · exact post_runs _ id s
  · exact onRequestRead_runs length s Iff.rfl
  · exact post_runs _ id s
  · exact onV2raynGreetingRead_runs host port length s Iff.rfl
  · exact onV2raynConnectRead_runs length s Iff.rfl
  · simp only [Runs, onRead, onRelayClientRead, doWriteRemote, wp_bind, wp_modifySelf, wp_get,
      wp_modifyGateway, wp_post]
    exact .of_trace id rfl rfl rfl
  · simp only [Runs, onRead, onRelayRemoteRead, doWriteClient, wp_bind, wp_modifySelf, wp_get,
      wp_modifyGateway, wp_post]
    exact .of_trace id rfl rfl rfl

theorem onWritten_runs (h : WriteHandler) (s : Ctx) :
    Runs (EndsWritten h) s (onWritten env h) := by
  rcases h with supportAuth | authenticated | reason | failure | ⟨host, port⟩ | _ | _ | _
  · rcases supportAuth
    · exact closeSession_runs _ rfl s
    · exact post_runs _ Bool.true_eq_false.mp s
  · rcases authenticated
    · exact closeSession_runs _ rfl s
    · exact post_runs _ Bool.true_eq_false.mp s
  · exact closeSession_runs _ trivial s
  · simp only [Runs, onWritten, doStream, doReadClient, doReadRemote, wp_bind, wp_serve, wp_post]
    exact .of_call _ id rfl rfl rfl rfl
  · exact post_runs _ id s
  · exact post_runs _ id s
  · exact post_runs _ id s
  · exact post_runs _ id s

theorem onWriteFailed_runs (h : WriteHandler) (s : Ctx) :
    Runs (EndsWriteFailed h) s (onWriteFailed env h) := by
  rcases h with supportAuth | authenticated | reason | failure | ⟨host, port⟩ | _ | _ | _
  · exact .of_trace id rfl rfl rfl
  · rcases authenticated
    · exact closeSession_runs _ rfl s
    · exact .of_trace Bool.true_eq_false.mp rfl rfl rfl
  all_goals exact closeSession_runs _ trivial s

/-- **The counts follow the logins, and `Ends` says when a session is closed.** -/
theorem dispatch_runs {p : Pending} {c : Completion} {m : SessionM Unit}
    (hm : dispatch env p c = some m) (s : Ctx) : Runs (s.self.Ends env p c) s m := by
  unfold dispatch at hm
  split at hm
  · rename_i h chunk
    obtain rfl := Option.some.inj hm
    rcases hside : h.side with _ | _
    · simp only [Runs, Ends, receive, hside, wp_bind, wp_modifySelf, wp_call]
      exact (onRead_runs h _ _).after (.of_call _ id rfl rfl rfl rfl)
    · simp only [Runs, Ends, receive, hside, wp_bind, wp_modifySelf, wp_call]
      exact (onRead_runs h _ _).after (.of_call _ id rfl rfl rfl rfl)
  · obtain rfl := Option.some.inj hm
    exact closeSession_runs _ trivial s
  · rename_i data h
    obtain rfl := Option.some.inj hm
    simp only [Runs, Ends, wp_bind, wp_call]
    exact (onWritten_runs h _).after (.of_call _ id rfl rfl rfl rfl)
  · rename_i data h message n
    obtain rfl := Option.some.inj hm
    simp only [Runs, Ends, wp_bind, wp_call]
    refine (onWriteFailed_runs h _).after (.of_calls [_, _] id (List.append_assoc _ _ _) ?_ rfl rfl)
    simp [Call.login?]
  · rename_i host results
    obtain rfl := Option.some.inj hm
    rcases results with _ | ⟨ep, results⟩ <;>
    · simp only [Runs, onResolved, doConnectDirect, wp_bind, wp_modifySelf, wp_serve, wp_post]
      exact .of_call _ id rfl rfl rfl rfl
  · obtain rfl := Option.some.inj hm
    simp only [Runs, onResolveFailed, wp_bind, wp_log, implies_true, and_true]
    exact fun _ ↦ failWith_runs _ _ id s
  · split at hm
    · obtain rfl := Option.some.inj hm
      simp only [Runs, onDirectConnected, wp_bind, wp_modifySelf, wp_get, wp_modifyGateway, wp_log,
        implies_true, and_true]
      exact fun _ ↦ (replyEstablished_runs id _).after (.of_trace id rfl rfl rfl)
    · cases hm
  · obtain rfl := Option.some.inj hm
    simp only [Runs, onDirectConnectFailed, wp_bind, wp_get, wp_log, implies_true, and_true]
    exact fun _ ↦ failWith_runs _ _ id s
  · obtain rfl := Option.some.inj hm
    exact post_runs _ id s
  · obtain rfl := Option.some.inj hm
    exact closeSession_runs _ trivial s
  · split at hm
    · obtain rfl := Option.some.inj hm
      simp only [Runs, doSocks5ClientHandshake, wp_bind, wp_modifySelf, wp_get]
      exact (post_runs _ id _).after (.of_trace id rfl rfl rfl)
    · cases hm
  · obtain rfl := Option.some.inj hm
    simp only [Runs, onV2raynConnectFailed, wp_bind, wp_log, implies_true, and_true]
    exact fun _ ↦ failWith_runs _ _ id s
  · cases hm

end Session

namespace Session

open SessionM

/-- Starting a session counts nobody. -/
theorem start_books (env : Environment) (a : Arrival) (g : Gateway) :
    wp (start env a.remote) (fun _ t ↦ Booked ⟨a.session, g⟩ t) (fun _ ↦ True) ⟨a.session, g⟩ := by
  have hclose : ∀ {s s₁ : Ctx} (reason : Text), Ran False s s₁ →
      wp (closeSession env reason) (fun _ t ↦ Booked s t) (fun _ ↦ True) s₁ := by
    intro s s₁ reason hs
    refine wp_mono ((closeSession_runs reason trivial s₁).after hs) ?_ fun _ h ↦ h
    exact fun _ t ht ↦ ht.booked
  rcases a.remote with _ | ep
  · trivial
  simp only [start, wp_bind, wp_modifySelf, wp_get, wp_ite, wp_log, wp_modifyGateway, implies_true,
    and_true]
  refine ⟨fun _ _ ↦ ?_, fun _ ↦ ⟨fun _ ↦ ?_, fun _ _ ↦ ?_⟩⟩
  · exact hclose _ (.of_trace id rfl rfl rfl)
  · simp only [requestAdmission, onAdmission, doHandshake, wp_bind, wp_get, wp_ite,
      wp_modifyGateway, wp_call, wp_log, wp_modifySelf, wp_post, implies_true, and_true]
    refine ⟨fun _ _ ↦ ?_, fun _ ↦ ⟨fun _ _ _ ↦ ?_, fun _ _ ↦ ?_⟩⟩
    · exact hclose _ (.of_call _ id rfl rfl rfl rfl)
    · exact ⟨_, rfl, rfl⟩
    · exact ⟨_, rfl, rfl⟩
  · exact hclose _ (.of_trace id rfl rfl rfl)

end Session

/-! ## Who has logged in -/

/-- The operations of a session that has not logged in yet. -/
def Pending.isAnonymous : Pending → Bool
  | .read .handshake | .read .handshakeAgain | .read .auth | .read .authAgain
  | .write _ (.methodReply _) => true
  | _ => false

theorem Pending.lane_of_isAnonymous {p : Pending} (h : p.isAnonymous = true) :
    p.lane = .handshake := by
  unfold isAnonymous at h
  split at h
  all_goals first | rfl | exact absurd h Bool.false_ne_true

theorem login?_recorded (p : Pending) (c : Completion) : ∀ x ∈ recorded p c, x.login? = none := by
  rw [recorded.eq_def]
  split <;> simp [Call.login?]

theorem Routed.no_login {u : ByteString} {calls : List Call} {ops : List Pending}
    (h : Routed u calls ops) : ∀ x ∈ calls, x.login? = none := by
  intro x hx
  obtain ⟨y, rfl⟩ := h.eq_service hx
  rfl

theorem Routed.ops_not_anonymous {u : ByteString} {calls : List Call} {ops : List Pending}
    (h : Routed u calls ops) : ∀ q ∈ ops, q.isAnonymous = false := by
  rcases h with ⟨host, port⟩ | ⟨host, port⟩ <;> simp [Pending.isAnonymous]

/-- What a handler has to do with logins. -/
inductive LoginShare (p : Pending) (calls : List Call) (ops : List Pending) : Prop
  | quiet (hcalls : ∀ x ∈ calls, x.login? = none)
    (hops : ∀ q ∈ ops, q.isAnonymous = true → p.isAnonymous = true)
  | login (v : ByteString) (x : Call) (rest : List Call) (hp : p.isAnonymous = true)
    (hcalls : calls = x :: rest) (hx : x.login? = some v) (hrest : ∀ y ∈ rest, y.login? = none)
    (hops : ∀ q ∈ ops, q.isAnonymous = false)

/-- **A session logs in at most once**: after a login no operation is started that leads to
another. -/
theorem Reaction.loginShare {env : Environment} {b : Buffer} {u u' : ByteString} {p : Pending}
    {c : Completion} {calls : List Call} {ops : List Pending}
    (h : Reaction env b u p c calls ops u') : LoginShare p calls ops := by
  cases h with
  | greetingAgain hh | greeting hh =>
    refine .quiet (by simp) fun _ _ _ ↦ ?_
    rcases hh with rfl | rfl <;> rfl
  | awaitLogin hh =>
    refine .quiet (by simp) fun _ _ _ ↦ ?_
    rcases hh with ⟨data, rfl⟩ | rfl <;> rfl
  | httpAdmitted chunk v pw _ hr =>
    exact .login _ _ _ rfl rfl rfl hr.no_login hr.ops_not_anonymous
  | login chunk v pw data ok =>
    rcases ok with _ | _
    · exact .quiet (by simp [Call.login?]) fun _ _ _ ↦ rfl
    · exact .login _ _ _ rfl rfl rfl (by simp) (by simp [Pending.isAnonymous])
  | request chunk hr =>
    refine .quiet hr.no_login fun q hq hanonymous ↦ ?_
    rw [hr.ops_not_anonymous q hq] at hanonymous
    cases hanonymous
  | loginAgain => exact .quiet (by simp) fun _ _ _ ↦ rfl
  | _ => exact .quiet (by simp [Call.login?]) (by simp [Pending.isAnonymous])

namespace Session

/-- A session that may still log in has not done so. -/
def Undecided (s : Session) : Prop := ∀ p ∈ s.pending, p.isAnonymous = true → s.user? = none

theorem user?_of_append {s t : Session} {calls : List Call} (ht : t.trace = s.trace ++ calls) :
    t.user? = s.user?.or (calls.findSome? Call.login?) := by
  rw [user?, ht, List.findSome?_append, user?]

theorem user?_of_no_login {s t : Session} {calls : List Call} (ht : t.trace = s.trace ++ calls)
    (hcalls : ∀ x ∈ calls, x.login? = none) : t.user? = s.user? := by
  rw [user?_of_append ht, List.findSome?_eq_none_iff.mpr hcalls, Option.or_none]

theorem no_login_of_started {l : Ledger} {t : Ctx} (h : Started l t) :
    ∀ x ∈ t.self.trace, x.login? = none := by
  rcases h with ⟨ht, -⟩ | ⟨_, ht, -⟩ | ⟨ht, -⟩ | ⟨_, -, ht, -⟩
  · obtain ⟨reason, htrace⟩ := ht.trace
    simp [htrace, Call.login?]
  · obtain ⟨reason, htrace⟩ := ht.trace
    simp [htrace, Call.login?]
  · simp [ht.trace, Call.login?]
  · simp [ht.trace, Call.login?]

variable {env : Environment} {s : Session} {g : Gateway} {t : Ctx} {k : ℕ} {p : Pending}
  {c : Completion} {calls : List Call} {ops : List Pending}

/-- What a reaction makes of the user. -/
theorem user?_of_react (hs : s.Orderly) (hu : s.Undecided) (hp : s.pending[k]? = some p)
    (h : Yields env (Reaction env s.clientBuffer s.username p c) ⟨s.resume k p c, g⟩ t calls ops) :
    ((∀ x ∈ calls, x.login? = none) ∧ t.self.user? = s.user?) ∨
      ∃ v x rest, calls = x :: rest ∧ x.login? = some v ∧ (∀ y ∈ rest, y.login? = none) ∧
        s.user? = none ∧ t.self.user? = some v ∧ s.isOpen = true ∧ t.self.isOpen = true := by
  have hmem : p ∈ s.pending := List.mem_of_getElem? hp
  have hresume : (s.resume k p c).user? = s.user? :=
    user?_of_no_login rfl (login?_recorded p c)
  rcases h.allowed.loginShare with ⟨hcalls, -⟩ | ⟨v, x, rest, hanonymous, rfl, hx, hrest, -⟩
  · exact .inl ⟨hcalls, (user?_of_no_login h.trace hcalls).trans hresume⟩
  · have hnone := hu p hmem hanonymous
    have hopen : s.isOpen = true := by
      by_contra hclosed
      rw [Bool.not_eq_true] at hclosed
      exact hs.closed hclosed p hmem (Pending.lane_of_isAnonymous hanonymous)
    refine .inr ⟨v, x, rest, rfl, hx, hrest, hnone, ?_, hopen, ?_⟩
    · rw [user?_of_append h.trace, hresume, hnone, List.findSome?_cons, hx]
      rfl
    · rcases h.settles with ⟨-, hsame, -⟩ | ⟨reason, hcalls, -, -⟩
      · exact hsame.trans hopen
      · obtain ⟨rfl, -⟩ := List.cons.inj hcalls
        cases hx

theorem undecided_of_react (hs : s.Orderly) (hu : s.Undecided) (hp : s.pending[k]? = some p)
    (h : Yields env (Reaction env s.clientBuffer s.username p c) ⟨s.resume k p c, g⟩ t calls ops) :
    t.self.Undecided := by
  have hmem : p ∈ s.pending := List.mem_of_getElem? hp
  intro q hq hanonymous
  have hpending : t.self.pending = s.pending.eraseIdx k ++ ops := h.pending
  have hlane := Pending.lane_of_isAnonymous hanonymous
  have hnew : q ∈ ops := by
    rw [hpending, List.mem_append] at hq
    refine hq.resolve_left fun hold ↦ ?_
    exact ((pairwise_eraseIdx Apart.symm hs.apart hp).2 q hold).2.2 hlane
  rcases h.allowed.loginShare with ⟨hcalls, hops⟩ | ⟨-, -, -, -, -, -, -, hops⟩
  · rw [user?_of_no_login h.trace hcalls]
    refine (user?_of_no_login rfl (login?_recorded p c)).trans ?_
    exact hu p hmem (hops q hnew hanonymous)
  · rw [hops q hnew] at hanonymous
    cases hanonymous

end Session

namespace World

/-! ## The statistics -/

/-- The open sessions that have logged in as `u`. -/
def openAs (w : World) (u : ByteString) : ℕ :=
  w.sessions.countP fun s ↦ s.isOpen && decide (s.user? = some u)

/-- The statistics say how many connections there are. -/
structure StatisticsTrue (w : World) : Prop where
  total : w.gateway.concurrency.activeConnections = sumActive w.gateway.concurrency.userMetrics
  users : ∀ u, w.gateway.concurrency.userActive u = w.openAs u

/-- A completion closes an open session that has logged in. -/
def ClosesLogin (w : World) (e : Event) : Prop :=
  ∃ i k c env s p, e = .complete i k c env ∧ w.sessions[i]? = some s ∧ s.pending[k]? = some p ∧
    s.Ends env p c ∧ s.isOpen = true ∧ s.user? ≠ none

/-- What a step does to the counts and to the open sessions with a login. -/
inductive Books (w : World) (e : Event) (t : World) : Prop
  | same (he : ¬ClosesLogin w e) (hcounts : t.gateway.userCounts = w.gateway.userCounts)
    (hopen : ∀ u, t.openAs u = w.openAs u)
  | login (v : ByteString) (he : ¬ClosesLogin w e) (hcounts : t.gateway.userCounts =
      (ConcurrencyMetrics.countIn w.gateway.userCounts.1 v, w.gateway.userCounts.2 + 1))
    (hopen : ∀ u, t.openAs u = w.openAs u + if u = v then 1 else 0)
  | closed (v : ByteString) (he : ClosesLogin w e)
    (hcounts : t.gateway.userCounts = w.gateway.userCounts) (hpos : 0 < w.openAs v)
    (hopen : t.openAs v = w.openAs v - 1)

theorem openAs_set {w : World} {i : ℕ} {s : Session} (hs : w.sessions[i]? = some s) (g : Gateway)
    (t : Session) (u : ByteString) : openAs ⟨g, w.sessions.set i t⟩ u =
      w.openAs u - (if s.isOpen && decide (s.user? = some u) then 1 else 0) +
        if t.isOpen && decide (t.user? = some u) then 1 else 0 := by
  obtain ⟨hlt, rfl⟩ := List.getElem?_eq_some_iff.mp hs
  rw [openAs, List.countP_set hlt, openAs]

theorem openAs_pos {w : World} {i : ℕ} {s : Session} {u : ByteString}
    (hs : w.sessions[i]? = some s) (hopen : s.isOpen = true) (hu : s.user? = some u) :
    0 < w.openAs u := by
  refine List.countP_pos_iff.mpr ⟨s, List.mem_of_getElem? hs, ?_⟩
  rw [hopen, hu, decide_eq_true rfl]
  rfl

/-- A session that is as open as before, under the same user. -/
theorem openAs_set_of_same {w : World} {i : ℕ} {s t : Session} (hs : w.sessions[i]? = some s)
    (g : Gateway) (hopen : t.isOpen = s.isOpen) (huser : t.user? = s.user?) (u : ByteString) :
    openAs ⟨g, w.sessions.set i t⟩ u = w.openAs u := by
  rw [openAs_set hs, hopen, huser]
  split
  · rename_i h
    rw [Bool.and_eq_true, decide_eq_true_eq] at h
    exact Nat.sub_add_cancel (openAs_pos hs h.1 h.2)
  · rfl

/-- The run of the handler behind a completion. -/
theorem step_complete {w t : World} {i k : ℕ} {c : Completion} {env : Environment} {s : Session}
    {p : Pending} {m : SessionM Unit} (hs : w.sessions[i]? = some s) (hp : s.pending[k]? = some p)
    (hm : Session.dispatch env p c = some m) (ht : w.step (.complete i k c env) = .ok t) :
    ∃ x, m ⟨{ s with pending := s.pending.eraseIdx k }, w.gateway⟩ = .ok ((), x) ∧
      t = ⟨x.gateway, w.sessions.set i x.self⟩ := by
  rw [step, handler] at ht
  simp only [hs, hp, hm, Option.bind_eq_bind, Option.bind_some] at ht
  rcases hr : m ⟨{ s with pending := s.pending.eraseIdx k }, w.gateway⟩ with x | ⟨⟨⟩, x⟩
  · rw [hr] at ht
    cases ht
  · rw [hr] at ht
    exact ⟨x, rfl, (Except.ok.inj ht).symm⟩

/-- The completion that closes a session fits its operation. -/
theorem exists_dispatch_of_ends {env : Environment} {s : Session} {p : Pending} {c : Completion}
    (h : s.Ends env p c) : ∃ m, Session.dispatch env p c = some m := by
  unfold Session.Ends at h
  split at h
  · exact ⟨_, rfl⟩
  · exact ⟨_, rfl⟩
  · exact ⟨_, rfl⟩
  · exact ⟨_, rfl⟩
  · exact ⟨_, rfl⟩
  · exact h.elim

/-- What the run of a handler does to the statistics. -/
theorem books_of_react {w : World} {i k : ℕ} {c : Completion} {env : Environment} {s : Session}
    {p : Pending} {x : Ctx} {calls : List Call} {ops : List Pending} (ho : s.Orderly)
    (hu : s.Undecided) (hs : w.sessions[i]? = some s) (hp : s.pending[k]? = some p)
    (h : Session.Yields env (Reaction env s.clientBuffer s.username p c)
      ⟨s.resume k p c, w.gateway⟩ x calls ops)
    (hran : Session.Ran (s.Ends env p c)
      ⟨{ s with pending := s.pending.eraseIdx k }, w.gateway⟩ x) :
    Books w (.complete i k c env) ⟨x.gateway, w.sessions.set i x.self⟩ := by
  have hcloses : ClosesLogin w (.complete i k c env) ↔
      s.Ends env p c ∧ s.isOpen = true ∧ s.user? ≠ none := by
    constructor
    · rintro ⟨i', k', c', env', s', p', he, hs', hp', hrest⟩
      cases he
      obtain rfl := Option.some.inj (hs.symm.trans hs')
      obtain rfl := Option.some.inj (hp.symm.trans hp')
      exact hrest
    · exact fun h ↦ ⟨i, k, c, env, s, p, rfl, hs, hp, h⟩
  have hcounts : x.gateway.userCounts = calls.foldl bookLogin w.gateway.userCounts := by
    have htrace : x.self.trace = s.trace ++ (recorded p c ++ calls) := by
      rw [h.trace, ← List.append_assoc]
      rfl
    rw [hran.booked.counts_eq htrace, List.foldl_append,
      foldl_bookLogin_of_no_login (login?_recorded p c)]
  -- either nobody logs in, and only an end can change the number of open sessions, or it is one
  -- login of a session that stays open
  rcases Session.user?_of_react ho hu hp h with ⟨hcalls, huser⟩ |
    ⟨v, y, rest, rfl, hy, hrest, hnone, huser, hopen, hopen'⟩
  · rw [foldl_bookLogin_of_no_login hcalls] at hcounts
    by_cases hends : s.Ends env p c
    · have hclosed := hran.closed hends
      rcases hv : s.user? with _ | v
      · refine .same (fun he ↦ (hcloses.mp he).2.2 hv) hcounts fun u ↦ ?_
        rw [openAs_set hs, hclosed, hv, decide_eq_false (Option.some_ne_none u).symm]
        simp
      -- a session that was closed before is closed once more
      rcases hso : s.isOpen with _ | _
      · refine .same (fun he ↦ ?_) hcounts fun u ↦ ?_
        · rw [hso] at hcloses
          exact Bool.false_ne_true (hcloses.mp he).2.1
        · rw [openAs_set hs, hclosed, hso]
          rfl
      · refine .closed v (hcloses.mpr ⟨hends, hso, hv ▸ Option.some_ne_none v⟩) hcounts
          (openAs_pos hs hso hv) ?_
        rw [openAs_set hs, hclosed, hso, hv, decide_eq_true rfl]
        rfl
    · refine .same (fun he ↦ hends (hcloses.mp he).1) hcounts fun u ↦ ?_
      exact openAs_set_of_same hs _ (hran.kept hends) huser u
  · refine .login v (fun he ↦ (hcloses.mp he).2.2 hnone) ?_ fun u ↦ ?_
    · rw [hcounts, List.foldl_cons, foldl_bookLogin_of_no_login hrest, bookLogin, hy]
    · rw [openAs_set hs, hopen, hopen', hnone, huser,
        decide_eq_false (Option.some_ne_none u).symm]
      simp only [Option.some.injEq, eq_comm]
      simp

/-- **What a step does to the statistics.** -/
theorem books_of_step {w t : World} {e : Event} (ho : ∀ s ∈ w.sessions, s.Orderly)
    (hu : ∀ s ∈ w.sessions, s.Undecided) (ht : w.step e = .ok t) : Books w e t := by
  rcases step_cases ht with hidle | ⟨env, a, x, rfl, hstart, rfl⟩ |
    ⟨i, k, c, env, s, p, m, x, rfl, hs, hp, hm, hrun, rfl⟩
  · obtain rfl : w = t := hidle.symm
    refine .same ?_ rfl fun _ ↦ rfl
    rintro ⟨i, k, c, env, s, p, rfl, hs, hp, hends, hopen, -⟩
    obtain ⟨m, hm⟩ := exists_dispatch_of_ends hends
    obtain ⟨x, hrun, hx⟩ := step_complete hs hp hm ht
    -- the handler would have closed the session, and it is open afterwards
    have hclosed := (wp_of_ok (Session.dispatch_runs hm _) hrun).closed hends
    have hsome : w.sessions[i]? = some x.self := by
      rw [hx]
      exact List.getElem?_set_self (List.getElem?_eq_some_iff.mp hs).1
    obtain rfl := Option.some.inj (hs.symm.trans hsome)
    rw [hopen] at hclosed
    cases hclosed
  · have hstarted := wp_of_ok (Session.start_starts a w.gateway) hstart
    have hbooked := wp_of_ok (Session.start_books env a w.gateway) hstart
    have hno := Session.no_login_of_started hstarted
    have hcounts := hbooked.counts_eq (List.nil_append _).symm
    rw [foldl_bookLogin_of_no_login hno] at hcounts
    refine .same ?_ hcounts fun u ↦ ?_
    · rintro ⟨i, k, c, env, s, p, he, -⟩
      cases he
    · have hnone : x.self.user? = none := List.findSome?_eq_none_iff.mpr hno
      rw [openAs, List.countP_append, List.countP_singleton, hnone,
        decide_eq_false (Option.some_ne_none u).symm, Bool.and_false]
      rfl
  · obtain ⟨calls, ops, hy⟩ := wp_of_ok (Session.dispatch_reacts hm _) hrun
    have hran := wp_of_ok (Session.dispatch_runs hm _) hrun
    have hmem := List.mem_of_getElem? hs
    exact books_of_react (ho s hmem) (hu s hmem) hs hp hy hran

/-! ## Runs -/

/-- The invariant. -/
structure Tracked (w : World) : Prop where
  orderly : ∀ s ∈ w.sessions, s.Orderly
  undecided : ∀ s ∈ w.sessions, s.Undecided
  statistics : w.StatisticsTrue

variable {w t : World} {e : Event}

theorem Moves.undecided (hm : Moves w e t) (ho : ∀ s ∈ w.sessions, s.Orderly)
    (hu : ∀ s ∈ w.sessions, s.Undecided) : ∀ s ∈ t.sessions, s.Undecided := by
  -- a new session has made no login, and a reaction keeps a session undecided until it logs in
  rcases hm with e | ⟨env, a, t, h⟩ | ⟨i, k, c, env, t, calls, ops, hs, hp, h⟩
  · exact hu
  · intro s hmem
    rcases List.mem_append.mp hmem with hmem | hmem
    · exact hu s hmem
    · rw [List.mem_singleton.mp hmem]
      exact fun _ _ _ ↦ List.findSome?_eq_none_iff.mpr (Session.no_login_of_started h)
  · intro s hmem
    rcases List.mem_or_eq_of_mem_set hmem with hmem | rfl
    · exact hu s hmem
    · have hold := List.mem_of_getElem? hs
      exact Session.undecided_of_react (ho _ hold) (hu _ hold) hp h

theorem Tracked.step (hw : w.Tracked) (hc : ¬ClosesLogin w e) (ht : w.step e = .ok t) :
    t.Tracked := by
  have hm := moves_of_step ht
  refine ⟨hm.orderly hw.orderly, hm.undecided hw.orderly hw.undecided, ?_⟩
  rcases books_of_step hw.orderly hw.undecided ht with ⟨-, hcounts, hopen⟩ |
    ⟨v, -, hcounts, hopen⟩ | ⟨v, he, -⟩
  · obtain ⟨husers, htotal⟩ := Prod.mk.inj hcounts
    refine ⟨?_, fun u ↦ ?_⟩
    · rw [husers, htotal, hw.statistics.total]
    · rw [ConcurrencyMetrics.userActive, husers, hopen u]
      exact hw.statistics.users u
  · obtain ⟨husers, htotal⟩ := Prod.mk.inj hcounts
    refine ⟨?_, fun u ↦ ?_⟩
    · rw [husers, htotal, sumActive_countIn]
      exact congrArg (· + 1) hw.statistics.total
    · rw [ConcurrencyMetrics.userActive, husers, lookup_countIn, hopen u, Nat.cast_add,
        ← hw.statistics.users u]
      split <;> rfl
  · exact absurd he hc

/-- Closing a session with a login leaves a connection in the statistics that is none. -/
theorem Tracked.not_statisticsTrue (hw : w.Tracked) (hc : ClosesLogin w e)
    (ht : w.step e = .ok t) : ¬t.StatisticsTrue := by
  intro htrue
  rcases books_of_step hw.orderly hw.undecided ht with ⟨hno, -⟩ | ⟨-, hno, -⟩ |
    ⟨v, -, hcounts, hpos, hopen⟩
  · exact hno hc
  · exact hno hc
  · have hafter := htrue.users v
    rw [ConcurrencyMetrics.userActive, (Prod.mk.inj hcounts).1, hopen] at hafter
    have hbefore := hw.statistics.users v
    -- the count of the user is as before, and there is one session less
    rw [ConcurrencyMetrics.userActive, hafter] at hbefore
    omega

/-- **When the statistics are true.** From a proxy without sessions whose statistics are empty, they
are true in every state of a run exactly when no step of the run closes an open session that has
logged in. -/
theorem statistics_true_iff {w₀ w : World} {es : List Event} (h₀ : w₀.sessions = [])
    (hcounts : w₀.gateway.userCounts = (∅, 0)) (hw : run step w₀ es = .ok w) :
    Along step (fun w e ↦ ¬ClosesLogin w e) w₀ es ↔ Throughout step StatisticsTrue w₀ es := by
  have hinit : w₀.Tracked := by
    obtain ⟨husers, htotal⟩ := Prod.mk.inj hcounts
    refine ⟨?_, ?_, ?_, fun u ↦ ?_⟩
    · rw [h₀]
      exact fun s hs ↦ absurd hs List.not_mem_nil
    · rw [h₀]
      exact fun s hs ↦ absurd hs List.not_mem_nil
    · rw [husers, htotal]
      rfl
    · rw [ConcurrencyMetrics.userActive, husers, openAs, h₀]
      rfl
  exact along_iff_throughout_of_run (I := Tracked) (fun w hw ↦ hw.statistics)
    (fun w e t hw hc ht ↦ hw.step hc ht)
    (fun w e t hw hc ht ↦ hw.not_statisticsTrue (not_not.mp hc) ht) hinit hw

theorem loginRun_statistics_true : ∃ w, run step {} loginRun = .ok w ∧
    w.openAs (ofString "a") = 1 ∧ Throughout step StatisticsTrue {} loginRun := by
  have hrun : (run step {} loginRun).toOption.map (fun w ↦ w.openAs (ofString "a")) = some 1 := by
    decide +kernel
  obtain ⟨w, hw, hopen⟩ := exists_run_of_observation hrun
  refine ⟨w, hw, hopen, (statistics_true_iff rfl rfl hw).mp ⟨?_, ?_⟩⟩
  · rintro ⟨i, k, c, env, s, p, he, -⟩
    cases he
  · refine fun u hu ↦ ⟨?_, fun _ _ ↦ trivial⟩
    rintro ⟨i, k, c, env, s, p, -, hs, -, -, -, huser⟩
    have husers : (step {} (.start (sampleEnvironment .direct) sampleArrival)).toOption.map
        (fun w ↦ w.sessions.map Session.user?) = some [none] := by decide +kernel
    rw [hu] at husers
    refine huser (List.mem_singleton.mp ?_)
    rw [← Option.some.inj husers]
    exact List.mem_map_of_mem (List.mem_of_getElem? hs)

/-- A client logs in, its host is not found, and the session is closed once the client has been
told. -/
def leaveRun : List Event :=
  loginRun ++ [.complete 0 0 (.failed (.lit "Host not found") 0) (sampleEnvironment .direct),
    .complete 0 0 .written (sampleEnvironment .direct)]

/-- Its only session is closed, for the first and only time, and stays in the statistics. -/
theorem leaveRun_not_statisticsTrue : ∃ w, Reachable step {} w ∧
    w.sessions.map (fun s ↦ s.trace.count (.close (.lit "dns failed"))) = [1] ∧
    w.openAs (ofString "a") = 0 ∧ w.gateway.concurrency.activeConnections = 1 ∧
    w.gateway.concurrency.userActive (ofString "a") = 1 ∧ ¬w.StatisticsTrue := by
  have hrun : (run step {} leaveRun).toOption.map (fun w ↦
      (w.sessions.map (fun s ↦ s.trace.count (.close (.lit "dns failed"))),
        w.openAs (ofString "a"), w.gateway.concurrency.activeConnections,
        w.gateway.concurrency.userActive (ofString "a"))) = some ([1], 0, 1, 1) := by
    decide +kernel
  obtain ⟨w, hw, hobs⟩ := exists_run_of_observation hrun
  simp only [Prod.mk.injEq] at hobs
  obtain ⟨hclosed, hopen, htotal, hactive⟩ := hobs
  refine ⟨w, ⟨leaveRun, hw⟩, hclosed, hopen, htotal, hactive, fun htrue ↦ ?_⟩
  have hequal := htrue.users (ofString "a")
  rw [hactive, hopen] at hequal
  exact absurd hequal (by decide)

end World

end LanProxyGateway
