import LanProxyGateway.Foundation.Run
import LanProxyGateway.WebServer.Login

/-!
# Can the lockout be evaded?

The law of the lockout is stated on the log of the answers (`tally`): five failed logins since the
last success or the end of the last lock, and for 900 seconds every attempt is refused; and an
attempt under one name leaves the counts and the locks of the others alone. The handler's records
keep to it (`Follows`) until more than a thousand names have a count: then the next attempt, under
whatever name, drops all counts. `lockout_iff` says that this is the one way around it.
-/

open Foundation ByteString

namespace LanProxyGateway

namespace LoginRecords

variable {r r' : LoginRecords} {c : LoginContext} {now : Int} {username password u v : ByteString}

/-! ## The count and the lock of a name -/

/-- The failed logins that are counted for a name. -/
def failures (r : LoginRecords) (username : ByteString) : Int :=
  (r.failCount.lookup username).getD 0

/-- The end of the lock of a name, if it has one that has not expired. -/
def lock (r : LoginRecords) (now : Int) (username : ByteString) : Option Int :=
  (r.lockUntil.lookup username).filter (now < ·)

theorem lock_cleanup {t : Int} (h : t ≤ now) : (r.cleanup t).lock now u = r.lock now u := by
  rw [lock, lock, cleanup, lookup_keepValues, Option.filter_filter]
  congr 1
  funext lockEnd
  rw [Bool.and_eq_right_iff_imp, decide_eq_true_iff, decide_eq_true_iff]
  exact h.trans_lt

theorem failures_cleanup (h : r.failCount.entries.length ≤ 1000) :
    (r.cleanup now).failures u = r.failures u := by
  rw [failures, cleanup, if_neg (by omega), failures]

theorem failures_forget_self : (r.forget u).failures u = 0 := by
  rw [failures, forget, AList.lookup_erase]
  rfl

theorem failures_forget_of_ne (h : v ≠ u) : (r.forget u).failures v = r.failures v := by
  rw [failures, forget, AList.lookup_erase_ne h, failures]

theorem lock_forget_of_ne (h : v ≠ u) : (r.forget u).lock now v = r.lock now v := by
  rw [lock, forget, AList.lookup_erase_ne h, lock]

theorem fail_of_le {t : Int} (h : 5 ≤ r.failures u + 1) : r.fail t u =
    ⟨r.failCount.erase u, r.lockUntil.insert u (t + 900)⟩ := if_pos h

theorem fail_of_lt {t : Int} (h : ¬5 ≤ r.failures u + 1) : r.fail t u =
    ⟨r.failCount.insert u (r.failures u + 1), r.lockUntil⟩ := if_neg h

theorem failures_fail_of_ne {t : Int} (h : v ≠ u) : (r.fail t u).failures v = r.failures v := by
  by_cases hcount : 5 ≤ r.failures u + 1
  · rw [fail_of_le hcount, failures, AList.lookup_erase_ne h, failures]
  · rw [fail_of_lt hcount, failures, AList.lookup_insert_ne h, failures]

theorem lock_fail_of_ne {t : Int} (h : v ≠ u) : (r.fail t u).lock now v = r.lock now v := by
  by_cases hcount : 5 ≤ r.failures u + 1
  · rw [fail_of_le hcount, lock, AList.lookup_insert_ne h, lock]
  · rw [fail_of_lt hcount, lock, lock]

/-! ## What an attempt can come to -/

/-- The answers to an attempt under a name, and what they do to the records after the cleanup. -/
inductive Answers (r : LoginRecords) (now : Int) (u : ByteString) :
    LoginResponse → LoginRecords → Prop
  | locked (lockEnd : Int) (h : r.lock now u = some lockEnd) :
    Answers r now u (.locked (lockEnd - now)) r
  | refused (response : LoginResponse) (h : r.lock now u = none)
    (hcode : response.code = 400 ∨ response.code = 403) : Answers r now u response r
  | loggedIn (role : ByteString) (h : r.lock now u = none) :
    Answers r now u (.loggedIn u role) (r.forget u)
  | failed (h : r.lock now u = none) : Answers r now u .invalidCredentials (r.fail now u)

theorem answers_check (h : r.lock c.now u = none) :
    Answers r c.now u (check c r u password).1 (check c r u password).2 := by
  rw [check]
  split
  · split
    · exact .refused _ h (.inl rfl)
    · exact .loggedIn _ h
    · exact .failed h
  · split
    · exact .refused _ h (.inl rfl)
    · simp only
      split
      · exact .refused _ h (.inr rfl)
      · split
        · exact .refused _ h (.inr rfl)
        · exact .loggedIn _ h
    · exact .failed h

theorem answers_login {body : Option Json} (hcredentials : credentials body = some (u, password)) :
    Answers (r.cleanup c.now) c.now u (login c r body).1 (login c r body).2 := by
  rw [login, hcredentials]
  simp only
  rcases hlookup : (r.cleanup c.now).lockUntil.lookup u with _ | lockEnd
  · apply answers_check
    rw [lock, hlookup]
    rfl
  · simp only
    split
    · rename_i hlt
      refine .locked lockEnd ?_
      rw [lock, hlookup]
      exact Option.filter_some_pos (decide_eq_true hlt)
    · rename_i hlt
      apply answers_check
      rw [lock, hlookup]
      exact Option.filter_some_neg (by simpa using hlt)

/-- An attempt under one name leaves the counts of the others as the cleanup left them. -/
theorem Answers.failures_of_ne {response : LoginResponse} (h : Answers r now u response r')
    (hv : v ≠ u) : r'.failures v = r.failures v := by
  cases h with
  | locked | refused => rfl
  | loggedIn => exact failures_forget_of_ne hv
  | failed => exact failures_fail_of_ne hv

/-- It leaves their locks alone, too. -/
theorem Answers.lock_of_ne {response : LoginResponse} {t : Int} (h : Answers r t u response r')
    (hv : v ≠ u) : r'.lock now v = r.lock now v := by
  cases h with
  | locked | refused => rfl
  | loggedIn => exact lock_forget_of_ne hv
  | failed => exact lock_fail_of_ne hv

end LoginRecords

/-! ## The law -/

open LoginRecords

/-- An attempt to log in. -/
structure Attempt where
  context : LoginContext
  body : Option Json

/-- An attempt under a name, with its answer. -/
structure LogEntry where
  time : Int
  username : ByteString
  response : LoginResponse

/-- The records of the handler, and the log of the attempts so far. -/
structure LoginHistory where
  records : LoginRecords := {}
  log : List LogEntry := []

/-- An attempt is answered. -/
def attempt (s : LoginHistory) (a : Attempt) : Except Empty LoginHistory :=
  .ok {
    records := (login a.context s.records a.body).2
    log := s.log ++ match credentials a.body with
      | some (username, _) => [⟨a.context.now, username, (login a.context s.records a.body).1⟩]
      | none => [] }

/-- What the answers so far mean for a name: how many failed since its last success or the end of
its last lock, and when the lock ends that five failures have brought. -/
structure Tally where
  strikes : ℕ := 0
  lockEnd : Option Int := none
  deriving DecidableEq, Repr

def Tally.next (t : Tally) (e : LogEntry) : Tally :=
  match e.response with
  | .invalidCredentials =>
    if t.strikes + 1 = 5 then ⟨0, some (e.time + 900)⟩ else { t with strikes := t.strikes + 1 }
  | .loggedIn _ _ => {}
  | _ => t

/-- The tally of a name. -/
def tally (username : ByteString) (log : List LogEntry) : Tally :=
  (log.filter (·.username = username)).foldl Tally.next {}

/-- An attempt that is answered as the law says: refused while its name is locked, and without
consequences for other names. -/
def Lawful (s : LoginHistory) (a : Attempt) : Prop :=
  ∀ u password, credentials a.body = some (u, password) →
    (∀ lockEnd, (tally u s.log).lockEnd = some lockEnd → a.context.now < lockEnd →
      (login a.context s.records a.body).1.code = 429) ∧
    ∀ v ≠ u, (login a.context s.records a.body).2.failures v = s.records.failures v ∧
      (login a.context s.records a.body).2.lock a.context.now v = s.records.lock a.context.now v

/-- The clock does not go back. -/
def Onward (s : LoginHistory) (a : Attempt) : Prop := ∀ e ∈ s.log, e.time ≤ a.context.now

/-- No more than a thousand names have a count when the attempt comes. -/
def FewNames (s : LoginHistory) (a : Attempt) : Prop :=
  ∀ u password, credentials a.body = some (u, password) → s.records.failCount.entries.length ≤ 1000

/-! ## The records keep to the law -/

variable {log : List LogEntry} {e : LogEntry} {u v : ByteString} {t : Tally} {r r' : LoginRecords}

theorem tally_concat_self (h : e.username = u) : tally u (log ++ [e]) = (tally u log).next e := by
  rw [tally, List.filter_append, List.filter_cons_of_pos (by simpa using h), List.filter_nil,
    List.foldl_concat, tally]

theorem tally_concat_of_ne (h : e.username ≠ u) : tally u (log ++ [e]) = tally u log := by
  rw [tally, List.filter_append, List.filter_cons_of_neg (by simpa using h), List.filter_nil,
    List.append_nil, tally]

/-- What the records say about a name agrees with its tally. A lock has to agree only from the last
answer on, and until it ends. -/
structure Agrees (r : LoginRecords) (log : List LogEntry) (t : Tally) (u : ByteString) : Prop where
  failures : r.failures u = t.strikes
  few : t.strikes < 5
  locked : ∀ lockEnd now, t.lockEnd = some lockEnd → (∀ e ∈ log, e.time ≤ now) → now < lockEnd →
    r.lock now u = some lockEnd

/-- An answer to somebody else. -/
theorem Agrees.of_ne {now : Int} {response : LoginResponse} (h : Agrees r log t v)
    (hfew : r.failCount.entries.length ≤ 1000) (hans : Answers (r.cleanup now) now u response r')
    (hv : v ≠ u) : Agrees r' (log ++ [⟨now, u, response⟩]) t v where
  failures := by rw [hans.failures_of_ne hv, failures_cleanup hfew, h.failures]
  few := h.few
  locked lockEnd later hlock honward hlt := by
    rw [List.forall_mem_append, List.forall_mem_singleton] at honward
    rw [hans.lock_of_ne hv, lock_cleanup honward.2]
    exact h.locked lockEnd later hlock honward.1 hlt

/-- An answer under the name itself. -/
theorem Agrees.answered {now : Int} {response : LoginResponse} (h : Agrees r log t u)
    (honward : ∀ e ∈ log, e.time ≤ now) (hfew : r.failCount.entries.length ≤ 1000)
    (hans : Answers (r.cleanup now) now u response r') :
    Agrees r' (log ++ [⟨now, u, response⟩]) (t.next ⟨now, u, response⟩) u := by
  have hfailures : (r.cleanup now).failures u = t.strikes := by
    rw [failures_cleanup hfew, h.failures]
  -- the tally stays as it is, and so do the records, but for locks that have expired
  have hsame : Agrees (r.cleanup now) (log ++ [⟨now, u, response⟩]) t u := by
    refine ⟨hfailures, h.few, fun lockEnd later hlock honward' hlt ↦ ?_⟩
    rw [List.forall_mem_append, List.forall_mem_singleton] at honward'
    rw [lock_cleanup honward'.2]
    exact h.locked lockEnd later hlock honward'.1 hlt
  -- where the name is not locked, a lock of the tally has expired
  have hexpired : (r.cleanup now).lock now u = none → ∀ lockEnd, t.lockEnd = some lockEnd →
      ∀ later, now ≤ later → ¬later < lockEnd := by
    intro hnone lockEnd hlock later hle hlt
    have hlocked := h.locked lockEnd now hlock honward (hle.trans_lt hlt)
    rw [lock_cleanup le_rfl, hlocked] at hnone
    cases hnone
  cases hans with
  | locked lockEnd hlock => exact hsame
  | refused response hnone hcode =>
    have hnext : t.next ⟨now, u, response⟩ = t := by
      cases response with
      | loggedIn | invalidCredentials => exact absurd hcode (by simp [LoginResponse.code])
      | badRequest | accountDisabled | accountExpired | locked => rfl
    rwa [hnext]
  | loggedIn role hnone => exact ⟨failures_forget_self, Nat.zero_lt_succ 4, nofun⟩
  | failed hnone =>
    rw [Tally.next]
    have hfew := h.few
    by_cases hfifth : t.strikes + 1 = 5
    · rw [if_pos hfifth]
      have hle : 5 ≤ (r.cleanup now).failures u + 1 := by omega
      rw [fail_of_le hle]
      refine ⟨?_, Nat.zero_lt_succ 4, fun lockEnd later hlock _ hlt ↦ ?_⟩
      · rw [LoginRecords.failures, AList.lookup_erase]
        rfl
      · obtain rfl := Option.some.inj hlock
        rw [lock, AList.lookup_insert]
        exact Option.filter_some_pos (decide_eq_true hlt)
    · rw [if_neg hfifth]
      have hnot : ¬5 ≤ (r.cleanup now).failures u + 1 := by omega
      rw [fail_of_lt hnot]
      refine ⟨?_, ?_, fun lockEnd later hlock honward' hlt ↦ ?_⟩
      · rw [LoginRecords.failures, AList.lookup_insert, Option.getD_some, hfailures]
        rfl
      · change t.strikes + 1 < 5
        omega
      · rw [List.forall_mem_append, List.forall_mem_singleton] at honward'
        exact absurd hlt (hexpired hnone lockEnd hlock later honward'.2)

/-- What is known along a run in which few names have a count. -/
structure Follows (s : LoginHistory) : Prop where
  agrees : ∀ u, Agrees s.records s.log (tally u s.log) u

theorem follows_start : Follows {} where
  agrees _ := ⟨rfl, Nat.zero_lt_succ 4, nofun⟩

/-- **An attempt keeps the records to the law.** -/
theorem Follows.attempt {s s' : LoginHistory} {a : Attempt} (h : Follows s) (honward : Onward s a)
    (hfew : FewNames s a) (hstep : attempt s a = .ok s') : Follows s' := by
  obtain rfl := Except.ok.inj hstep
  rcases hcredentials : credentials a.body with _ | ⟨u, password⟩
  · rw [login, hcredentials, List.append_nil]
    exact h
  · have hans := answers_login (c := a.context) (r := s.records) hcredentials
    have hcount := hfew u password hcredentials
    refine ⟨fun v ↦ ?_⟩
    change Agrees _ (s.log ++ [_]) (tally v (s.log ++ [_])) v
    by_cases hv : v = u
    · subst hv
      rw [tally_concat_self (u := v) rfl]
      exact (h.agrees v).answered honward hcount hans
    · rw [tally_concat_of_ne (Ne.symm hv)]
      exact (h.agrees v).of_ne hcount hans hv

/-- And it is answered as the law says. -/
theorem Follows.lawful {s : LoginHistory} {a : Attempt} (h : Follows s) (honward : Onward s a)
    (hfew : FewNames s a) : Lawful s a := by
  intro u password hcredentials
  have hans := answers_login (c := a.context) (r := s.records) hcredentials
  have hcount := hfew u password hcredentials
  refine ⟨fun lockEnd hlock hlt ↦ ?_, fun v hv ↦ ⟨?_, ?_⟩⟩
  · have hlocked : (s.records.cleanup a.context.now).lock a.context.now u = some lockEnd := by
      rw [lock_cleanup le_rfl]
      exact (h.agrees u).locked lockEnd _ hlock honward hlt
    generalize (login a.context s.records a.body).1 = response at hans ⊢
    generalize (login a.context s.records a.body).2 = r at hans
    cases hans with
    | locked => rfl
    | refused _ hnone | loggedIn _ hnone | failed hnone =>
      rw [hlocked] at hnone
      cases hnone
  · rw [hans.failures_of_ne hv, failures_cleanup hcount]
  · rw [hans.lock_of_ne hv, lock_cleanup le_rfl]

/-! ## The exact condition -/

/-- Whoever has a count has failed at least once. -/
def Counted (r : LoginRecords) : Prop := ∀ u count, r.failCount.lookup u = some count → 0 < count

theorem Counted.failures_nonneg (h : Counted r) (u : ByteString) : 0 ≤ r.failures u := by
  rw [LoginRecords.failures]
  rcases hlookup : r.failCount.lookup u with _ | count
  · exact le_rfl
  · exact (h u count hlookup).le

theorem Counted.erase (h : Counted r) (u : ByteString) (locks : AList fun _ : ByteString ↦ Int) :
    Counted ⟨r.failCount.erase u, locks⟩ := by
  intro v count hv
  by_cases hne : v = u
  · rw [hne, AList.lookup_erase] at hv
    cases hv
  · rw [AList.lookup_erase_ne hne] at hv
    exact h v count hv

theorem Counted.cleanup (h : Counted r) (now : Int) : Counted (r.cleanup now) := by
  intro v count hv
  rw [LoginRecords.cleanup] at hv
  split at hv
  · rw [AList.lookup_empty] at hv
    cases hv
  · exact h v count hv

theorem Counted.answered {now : Int} {response : LoginResponse} (h : Counted r)
    (hans : Answers r now u response r') : Counted r' := by
  cases hans with
  | locked | refused => exact h
  | loggedIn => exact h.erase u _
  | failed =>
    by_cases hcount : 5 ≤ r.failures u + 1
    · rw [fail_of_le hcount]
      exact h.erase u _
    · rw [fail_of_lt hcount]
      intro v count hv
      by_cases hne : v = u
      · rw [hne, AList.lookup_insert] at hv
        obtain rfl := Option.some.inj hv
        exact Int.lt_add_one_of_le (h.failures_nonneg u)
      · rw [AList.lookup_insert_ne hne] at hv
        exact h v count hv

theorem Counted.attempt {s s' : LoginHistory} {a : Attempt} (h : Counted s.records)
    (hstep : attempt s a = .ok s') : Counted s'.records := by
  obtain rfl := Except.ok.inj hstep
  rcases hcredentials : credentials a.body with _ | ⟨u, password⟩
  · rw [login, hcredentials]
    exact h
  · exact (h.cleanup _).answered (answers_login hcredentials)

/-- Two names have a count, so one of them is not the given one. -/
theorem exists_ne_of_length (u : ByteString) (h : 2 ≤ r.failCount.entries.length) :
    ∃ v ≠ u, ∃ count, r.failCount.lookup v = some count := by
  have hnodup := r.failCount.nodupKeys
  have hlookup : ∀ v count, ⟨v, count⟩ ∈ r.failCount.entries → r.failCount.lookup v = some count :=
    fun v count hmem ↦ AList.mem_lookup_iff.mpr hmem
  generalize r.failCount.entries = entries at h hnodup hlookup
  rcases entries with _ | ⟨⟨v, count⟩, _ | ⟨⟨v', count'⟩, rest⟩⟩
  · exact absurd h (Nat.not_succ_le_zero 1)
  · exact absurd h (Nat.not_succ_le_self 1)
  · by_cases hv : v = u
    · have hne : v ≠ v' := by
        rintro rfl
        exact (List.nodupKeys_cons.mp hnodup).1 List.mem_cons_self
      refine ⟨v', fun hv' ↦ hne (hv.trans hv'.symm), count', hlookup v' count' ?_⟩
      exact List.mem_cons_of_mem _ List.mem_cons_self
    · exact ⟨v, hv, count, hlookup v count List.mem_cons_self⟩

/-- Dropping all counts does harm to somebody else. -/
theorem fewNames_of_lawful {s : LoginHistory} {a : Attempt} (hcounted : Counted s.records)
    (h : Lawful s a) : FewNames s a := by
  intro u password hcredentials
  by_contra hmany
  obtain ⟨v, hv, count, hcount⟩ := exists_ne_of_length (r := s.records) u (by omega)
  have hkept := ((h u password hcredentials).2 v hv).1
  have hdropped : (s.records.cleanup a.context.now).failures v = 0 := by
    rw [LoginRecords.failures, cleanup, if_pos (by omega), AList.lookup_empty]
    rfl
  rw [(answers_login (c := a.context) (r := s.records) hcredentials).failures_of_ne hv, hdropped,
    LoginRecords.failures, hcount] at hkept
  exact absurd hkept (hcounted v count hcount).ne

/-- **The lockout.** Along attempts at times that do not go back, all answers are lawful exactly
when never more than a thousand names have a count. -/
theorem lockout_iff {attempts : List Attempt} (honward : Along attempt Onward {} attempts) :
    Along attempt Lawful {} attempts ↔ Along attempt FewNames {} attempts := by
  constructor
  · intro h
    have hstart : Counted {} := fun u count hu ↦ absurd hu (by rw [AList.lookup_empty]; exact nofun)
    exact h.of_invariant (I := fun s ↦ Counted s.records) (fun s a hs ha ↦ fewNames_of_lawful hs ha)
      (fun s a t hs _ ht ↦ hs.attempt ht) hstart
  · intro h
    exact (honward.and h).of_invariant (fun s a hs ha ↦ hs.lawful ha.1 ha.2)
      (fun s a t hs ha ht ↦ hs.attempt ha.1 ha.2 ht) follows_start

/-! ## How many names have a count -/

/-- An answer gives a count to one more name at most. -/
theorem length_answered {now : Int} {response : LoginResponse}
    (hans : Answers r now u response r') :
    r'.failCount.entries.length ≤ r.failCount.entries.length + 1 := by
  have herase : (r.failCount.erase u).entries.length ≤ r.failCount.entries.length :=
    (List.kerase_sublist u _).length_le
  cases hans with
  | locked | refused => exact Nat.le_succ _
  | loggedIn => exact herase.trans (Nat.le_succ _)
  | failed =>
    by_cases hcount : 5 ≤ r.failures u + 1
    · rw [fail_of_le hcount]
      exact herase.trans (Nat.le_succ _)
    · rw [fail_of_lt hcount]
      exact Nat.succ_le_succ herase

theorem length_cleanup (r : LoginRecords) (now : Int) :
    (r.cleanup now).failCount.entries.length ≤ r.failCount.entries.length := by
  rw [cleanup]
  split
  · exact Nat.zero_le _
  · exact le_rfl

/-- A thousand attempts are too few to do harm. -/
theorem fewNames_of_length {attempts : List Attempt} {s : LoginHistory}
    (h : s.records.failCount.entries.length + attempts.length ≤ 1001) :
    Along attempt FewNames s attempts := by
  induction attempts generalizing s with
  | nil => trivial
  | cons a attempts ih =>
    rw [List.length_cons] at h
    refine ⟨fun _ _ _ ↦ by omega, fun t ht ↦ ih ?_⟩
    obtain rfl := Except.ok.inj ht
    have hlength : (login a.context s.records a.body).2.failCount.entries.length ≤
        s.records.failCount.entries.length + 1 := by
      rcases hcredentials : credentials a.body with _ | ⟨u, password⟩
      · rw [login, hcredentials]
        exact Nat.le_succ _
      · exact (length_answered (answers_login hcredentials)).trans
          (Nat.succ_le_succ (length_cleanup _ _))
    change (login a.context s.records a.body).2.failCount.entries.length + _ ≤ _
    omega

/-! ## A thousand names -/

/-- A gateway without users, where every login fails. -/
def emptyContext : LoginContext where
  now := 0
  lib := ⟨fun _ ↦ none, fun _ _ _ ↦ []⟩

/-- An attempt under a name there. -/
def failing (username : ByteString) : Attempt where
  context := emptyContext
  body := some (.ofFields [("username", .string username)])

theorem credentials_failing (username : ByteString) :
    credentials (failing username).body = some (username, []) := by
  simp [credentials, failing]

theorem onward_of_failing {names : List ByteString} {s : LoginHistory}
    (h : ∀ e ∈ s.log, e.time ≤ 0) : Along attempt Onward s (names.map failing) := by
  induction names generalizing s with
  | nil => trivial
  | cons name names ih =>
    refine ⟨h, fun t ht ↦ ih ?_⟩
    obtain rfl := Except.ok.inj ht
    rw [credentials_failing]
    exact List.forall_mem_append.mpr ⟨h, List.forall_mem_singleton.mpr le_rfl⟩

/-- As long as nobody is locked, such an attempt fails. -/
theorem login_failing {name : ByteString} (hlocks : r.lockUntil = ∅) :
    login emptyContext r (failing name).body =
      (.invalidCredentials, (r.cleanup 0).fail 0 name) := by
  have hlookup : (r.cleanup emptyContext.now).lockUntil.lookup name = none := by
    rw [cleanup, hlocks]
    exact AList.lookup_empty name
  have hcheck : check emptyContext (r.cleanup 0) name [] =
      (.invalidCredentials, (r.cleanup 0).fail 0 name) := by
    rw [check]
    split
    · rfl
    · rename_i hname
      have hnobody : emptyContext.users.hashFor emptyContext.config emptyContext.now name =
          none := by
        rw [UserManager.hashFor, if_neg hname]
        rfl
      rw [UserManager.authenticate, hnobody]
      rfl
  rw [login, credentials_failing]
  simp only
  rw [hlookup]
  exact hcheck

/-- With fewer than four failures before, it counts one more. -/
theorem attempt_failing {s : LoginHistory} {name : ByteString} (hlocks : s.records.lockUntil = ∅)
    (hcount : (s.records.cleanup 0).failures name < 4) : attempt s (failing name) = .ok {
      records := ⟨(s.records.cleanup 0).failCount.insert name
        ((s.records.cleanup 0).failures name + 1), ∅⟩
      log := s.log ++ [⟨0, name, .invalidCredentials⟩] } := by
  have hlogin : login (failing name).context s.records (failing name).body =
      (.invalidCredentials, (s.records.cleanup 0).fail 0 name) := login_failing hlocks
  have hclean : (s.records.cleanup 0).lockUntil = ∅ := by
    rw [cleanup, hlocks]
    rfl
  rw [attempt, hlogin, credentials_failing, fail_of_lt (by omega), hclean]
  rfl

/-- The name that is attacked. -/
def victim : ByteString := ofString "u"

/-- A name that is tried six times is locked when the last attempt comes, and the answers are
lawful. -/
theorem six_attempts_lawful :
    Along attempt Lawful {} ((List.replicate 6 victim).map failing) :=
  (lockout_iff (onward_of_failing fun _ he ↦ absurd he List.not_mem_nil)).mpr
    (fewNames_of_length (by decide))

/-- Other names, as many as one likes. -/
def other (i : ℕ) : ByteString := ofString "n" ++ toDecimal i

theorem other_inj {i j : ℕ} : other i = other j ↔ i = j := by
  rw [other, other, List.append_cancel_left_eq, toDecimal_inj]

theorem other_ne_victim (i : ℕ) : other i ≠ victim := by
  intro h
  have hhead : (110 : UInt8) = 117 := (List.cons.inj h).1
  exact absurd hhead (by decide)

/-- Four failures of the victim, and then one of each of the first `k` other names. -/
def crowd (k : ℕ) : List ByteString :=
  [victim, victim, victim, victim] ++ (List.range k).map other

/-- What the records and the log say then. -/
structure Crowded (s : LoginHistory) (k : ℕ) : Prop where
  locks : s.records.lockUntil = ∅
  names : s.records.failCount.entries.length = k + 1
  strangers : ∀ i, k ≤ i → other i ∉ s.records.failCount
  tally : tally victim s.log = ⟨4, none⟩

theorem Crowded.attempt {s s' : LoginHistory} {k : ℕ} (h : Crowded s k) (hk : k < 1000)
    (hstep : attempt s (failing (other k)) = .ok s') : Crowded s' (k + 1) := by
  have hclean : (s.records.cleanup 0).failCount = s.records.failCount :=
    if_neg (by rw [h.names]; omega)
  have hstranger : other k ∉ s.records.failCount := h.strangers k le_rfl
  have hfailures : (s.records.cleanup 0).failures (other k) = 0 := by
    rw [LoginRecords.failures, hclean, AList.lookup_eq_none.mpr hstranger]
    rfl
  rw [attempt_failing h.locks (by omega), hclean] at hstep
  obtain rfl := Except.ok.inj hstep
  refine ⟨rfl, ?_, fun i hi ↦ ?_, ?_⟩
  · rw [AList.insert_of_notMem hstranger, List.length_cons, h.names]
  · rw [AList.mem_insert, not_or, other_inj]
    exact ⟨by omega, h.strangers i (by omega)⟩
  · rw [tally_concat_of_ne (other_ne_victim k), h.tally]

theorem exists_crowded {k : ℕ} (hk : k ≤ 1000) :
    ∃ s, run attempt {} ((crowd k).map failing) = .ok s ∧ Crowded s k := by
  induction k with
  | zero =>
    refine ⟨_, rfl, rfl, rfl, fun i _ hmem ↦ ?_, rfl⟩
    have hvictim : other i ∈ [victim] := AList.mem_keys.mp hmem
    exact other_ne_victim i (List.mem_singleton.mp hvictim)
  | succ k ih =>
    obtain ⟨s, hrun, hs⟩ := ih (Nat.le_of_succ_le hk)
    have hcrowd : (crowd (k + 1)).map failing = (crowd k).map failing ++ [failing (other k)] := by
      rw [crowd, crowd, List.range_succ, List.map_append, List.map_append, List.map_append,
        List.map_append, List.append_assoc]
      rfl
    rcases hstep : attempt s (failing (other k)) with x | t
    · exact x.elim
    · refine ⟨t, ?_, hs.attempt hk hstep⟩
      rw [hcrowd]
      exact run_concat_iff.mpr ⟨s, hrun, hstep⟩

/-- **A thousand names evade the lockout.** Five logins of the victim have failed, and the next one
is not refused. -/
theorem victim_is_not_locked : ∃ s,
    run attempt {} ((crowd 1000 ++ [victim]).map failing) = .ok s ∧
      Along attempt Onward {} ((crowd 1000 ++ [victim]).map failing) ∧
      (tally victim s.log).lockEnd = some 900 ∧
      (login emptyContext s.records (failing victim).body).1.code = 401 ∧
      ¬Lawful s (failing victim) := by
  obtain ⟨s, hrun, hs⟩ := exists_crowded le_rfl
  have hclean : (s.records.cleanup 0).failCount = ∅ := if_pos (by rw [hs.names]; decide)
  have hfailures : (s.records.cleanup 0).failures victim = 0 := by
    rw [LoginRecords.failures, hclean]
    rfl
  -- the fifth failure drops all counts before it counts itself
  have hstep := attempt_failing hs.locks (show _ < (4 : Int) by rw [hfailures]; decide)
  set t : LoginHistory := ⟨⟨_, ∅⟩, s.log ++ [⟨0, victim, .invalidCredentials⟩]⟩ with ht
  have htally : (tally victim t.log).lockEnd = some 900 := by
    rw [ht, tally_concat_self (u := victim) rfl, hs.tally]
    rfl
  have hcode : (login emptyContext t.records (failing victim).body).1.code = 401 := by
    rw [login_failing rfl]
    rfl
  have hrun' : run attempt {} ((crowd 1000 ++ [victim]).map failing) = .ok t := by
    rw [List.map_append]
    exact run_concat_iff.mpr ⟨s, hrun, hstep⟩
  refine ⟨t, hrun', onward_of_failing fun e he ↦ absurd he List.not_mem_nil, htally, hcode,
    fun h ↦ ?_⟩
  have hrefused := (h victim [] (credentials_failing victim)).1 900 htally (by decide)
  exact absurd (hcode.symm.trans hrefused) (by decide)

end LanProxyGateway
