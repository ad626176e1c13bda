import LanProxyGateway.ProxyCore.Lifecycle

/-!
# Does every session give its slot back once?

Three singletons count the sessions that have been let in and not closed: the total of the overload
protector, the active connections of the metrics, and the active connections of the admitter as long
as nobody waits in its queue. `SlotsCounted` says that each count is right.

Closing an open session takes one off each of them, and that is where a slot comes back. But
`close_session` may run again: the two relay chains of a session fail one after the other, and each
of them closes it. The second time takes the slot of another session, unless there is none left and
the counters stop at zero; `ClosesAgain` is such a step, and without one the counts stay right. The
admitter has a second way to go wrong: a session whose place in the queue times out goes on without
a slot, and gives back one it never had.
-/

open Foundation ByteString

namespace LanProxyGateway

/-! ## The admitter -/

namespace ConnectionAdmitter

variable {a : ConnectionAdmitter} {n : ℕ}

/-- The admitter and `n` sessions match: each has a slot or a place in the queue, and nobody queues
while there is room. With a limit below one there are no slots, and the queue only ever grows. -/
structure Seats (a : ConnectionAdmitter) (n : ℕ) : Prop where
  nonneg : 0 ≤ a.activeConnections
  seated : 0 < a.maxConnections → a.activeConnections + a.queue.length = n ∧
    a.activeConnections ≤ a.maxConnections ∧
    (a.queue ≠ [] → a.activeConnections = a.maxConnections)
  closed : a.maxConnections ≤ 0 → a.activeConnections = 0 ∧ n ≤ a.queue.length

theorem Seats.eq_of_queue_nil (h : a.Seats n) (hq : a.queue = []) : a.activeConnections = n := by
  rcases lt_or_ge 0 a.maxConnections with hmax | hmax
  · have hseated := (h.seated hmax).1
    rwa [hq, List.length_nil, Nat.cast_zero, Int.add_zero] at hseated
  · obtain ⟨hactive, hle⟩ := h.closed hmax
    rw [hq, List.length_nil, Nat.le_zero] at hle
    rw [hactive, hle, Nat.cast_zero]

theorem Seats.takeSlot (h : a.Seats n) (hroom : a.activeConnections < a.maxConnections)
    (username : ByteString) : (a.takeSlot username).Seats (n + 1) := by
  have hmax : 0 < a.maxConnections := h.nonneg.trans_lt hroom
  obtain ⟨hsum, -, hfull⟩ := h.seated hmax
  have hnil : a.queue = [] := by
    by_contra hne
    exact absurd (hfull hne) hroom.ne
  refine ⟨?_, fun _ ↦ ⟨?_, ?_, fun hne ↦ absurd hnil hne⟩, fun hle ↦ absurd hle (not_le.mpr hmax)⟩
  · exact Int.add_nonneg h.nonneg (by decide)
  · show a.activeConnections + 1 + (a.queue.length : Int) = ((n + 1 : ℕ) : Int)
    omega
  · exact hroom

theorem length_enqueue (q : QueuedConnection) :
    (a.enqueue q).queue.length = a.queue.length + 1 := by
  rw [enqueue]
  split
  · show (a.queue.takeWhile _ ++ q :: a.queue.dropWhile _).length = _
    rw [List.length_append, List.length_cons, ← Nat.add_assoc, ← List.length_append,
      List.takeWhile_append_dropWhile]
  · exact List.length_append

theorem Seats.enqueue (h : a.Seats n) (hfull : a.maxConnections ≤ a.activeConnections)
    (q : QueuedConnection) : (a.enqueue q).Seats (n + 1) := by
  have hactive : (a.enqueue q).activeConnections = a.activeConnections := by
    rw [ConnectionAdmitter.enqueue]
    split <;> rfl
  have hmax : (a.enqueue q).maxConnections = a.maxConnections := by
    rw [ConnectionAdmitter.enqueue]
    split <;> rfl
  refine ⟨?_, fun hpos ↦ ?_, fun hle ↦ ?_⟩
  · rw [hactive]
    exact h.nonneg
  · rw [hmax] at hpos
    rw [hactive, hmax, length_enqueue]
    obtain ⟨hsum, hle, -⟩ := h.seated hpos
    refine ⟨?_, hle, fun _ ↦ le_antisymm hle hfull⟩
    push_cast
    omega
  · rw [hmax] at hle
    rw [hactive, length_enqueue]
    obtain ⟨hzero, hn⟩ := h.closed hle
    exact ⟨hzero, by omega⟩

/-- There is no slot left, but a place in the queue. -/
def WouldQueue (a : ConnectionAdmitter) : Prop :=
  a.maxConnections ≤ a.activeConnections ∧ a.queueEnabled = true ∧ a.queue.length < a.maxQueueSize

/-- Releasing a slot touches the count of the user and the active connections. -/
theorem releaseSlot_eq (a : ConnectionAdmitter) (username : ByteString) :
    ∃ users, a.releaseSlot username = { a with
      activeConnections := decrementClamped a.activeConnections
      userConnections := users } := by
  rw [releaseSlot, releaseUser]
  split
  · split
    · exact ⟨_, rfl⟩
    · exact ⟨_, rfl⟩
  · exact ⟨_, rfl⟩

/-- Nobody is admitted from the queue where there is no room. -/
theorem admitFromQueue_of_full (qs : List QueuedConnection)
    (h : a.maxConnections ≤ a.activeConnections) :
    (admitFromQueue qs a).2 = { a with queue := qs } := by
  rcases qs with _ | ⟨q, qs⟩
  · rfl
  · rw [admitFromQueue, if_neg (not_lt.mpr h)]

/-- One place is for the first in the queue. -/
theorem admitFromQueue_cons (q : QueuedConnection) (qs : List QueuedConnection)
    (h : a.activeConnections + 1 = a.maxConnections) :
    (admitFromQueue (q :: qs) a).2 = { a.takeSlot q.username with queue := qs } := by
  rw [admitFromQueue, if_pos (by omega)]
  exact admitFromQueue_of_full qs h.symm.le

/-- Where nobody has waited too long, the timeouts do nothing. -/
theorem checkQueueTimeouts_of_fresh {now : SteadyTime}
    (h : ∀ q ∈ a.queue, a.hasTimedOut now q = false) : (a.checkQueueTimeouts now).2 = a := by
  have hfilter : (a.queue.filter fun q ↦ !a.hasTimedOut now q) = a.queue :=
    List.filter_eq_self.mpr fun q hq ↦ by rw [h q hq, Bool.not_false]
  rw [checkQueueTimeouts]
  simp only [hfilter]

/-- **Giving back a slot.** Where nobody behind the first in the queue has waited too long, one
session less is seated. -/
theorem Seats.releaseConnection (h : a.Seats n) {now : SteadyTime}
    (hfresh : ∀ q ∈ a.queue.tail, a.hasTimedOut now q = false) (username : ByteString) :
    (a.releaseConnection now username).2.2.Seats (n - 1) := by
  obtain ⟨users, hslot⟩ := releaseSlot_eq a username
  have hrelease : (a.releaseConnection now username).2.2 =
      ((admitFromQueue a.queue { a with
        activeConnections := decrementClamped a.activeConnections
        userConnections := users }).2.checkQueueTimeouts now).2 := by
    rw [ConnectionAdmitter.releaseConnection, dequeueConnections, hslot]
  rw [hrelease]
  rcases lt_or_ge 0 a.maxConnections with hmax | hmax
  · obtain ⟨hsum, hle, hfull⟩ := h.seated hmax
    rcases hq : a.queue with _ | ⟨q, qs⟩
    · rw [hq, List.length_nil] at hsum
      have hdec : decrementClamped a.activeConnections = ((n - 1 : ℕ) : Int) := by
        rw [decrementClamped]
        split <;> omega
      refine ⟨?_, fun _ ↦ ⟨?_, ?_, fun hne ↦ absurd rfl hne⟩,
        fun hle ↦ absurd hmax (not_lt.mpr hle)⟩
      · exact (Int.natCast_nonneg _).trans_eq hdec.symm
      · exact (Int.add_zero _).trans hdec
      · exact hdec.trans_le (show ((n - 1 : ℕ) : Int) ≤ a.maxConnections by omega)
    · have hactive : a.activeConnections = a.maxConnections := hfull (by simp [hq])
      have hdec : decrementClamped a.activeConnections + 1 = a.maxConnections := by
        rw [decrementClamped_of_pos (hactive ▸ hmax), hactive]
        omega
      rw [hq, List.length_cons] at hsum
      rw [hq, List.tail_cons] at hfresh
      rw [admitFromQueue_cons q qs hdec, checkQueueTimeouts_of_fresh hfresh]
      refine ⟨?_, fun _ ↦ ⟨?_, hdec.le, fun _ ↦ hdec⟩, fun hle ↦ absurd hmax (not_lt.mpr hle)⟩
      · exact hmax.le.trans_eq hdec.symm
      · show decrementClamped a.activeConnections + 1 + (qs.length : Int) = ((n - 1 : ℕ) : Int)
        push_cast at hsum
        omega
  · obtain ⟨hzero, hn⟩ := h.closed hmax
    have hdec : decrementClamped a.activeConnections = 0 := by rw [hzero]; rfl
    have hfull := admitFromQueue_of_full (a := { a with
      activeConnections := decrementClamped a.activeConnections
      userConnections := users }) a.queue (hmax.trans_eq hdec.symm)
    rw [hfull]
    refine ⟨hdec.symm.le, fun hpos ↦ absurd hpos (not_lt.mpr hmax), fun _ ↦ ⟨hdec, ?_⟩⟩
    show n - 1 ≤ (a.queue.filter fun q ↦ !a.hasTimedOut now q).length
    rcases hq : a.queue with _ | ⟨q, qs⟩
    · rw [hq, List.length_nil] at hn
      omega
    · rw [hq, List.tail_cons] at hfresh
      rw [hq, List.length_cons] at hn
      have hqs : (qs.filter fun q ↦ !a.hasTimedOut now q) = qs :=
        List.filter_eq_self.mpr fun q hq ↦ by rw [hfresh q hq, Bool.not_false]
      rw [List.filter_cons, hqs]
      split
      · rw [List.length_cons]
        omega
      · omega

end ConnectionAdmitter

/-! ## The counts of the proxy -/

/-- Let in and not closed. -/
def Session.isLive (s : Session) : Bool := s.admitted && s.isOpen

namespace World

/-- The number of sessions that have been let in and not closed. -/
def live (w : World) : ℕ := w.sessions.countP Session.isLive

/-- The three counts are the number of live sessions. -/
structure SlotsCounted (w : World) : Prop where
  total : w.gateway.overload.totalConnections = w.live
  active : w.gateway.metrics.activeConnections = w.live
  admitter : w.gateway.admitter.queue = [] → w.gateway.admitter.activeConnections = w.live

/-- Something fails for a session that has been closed already, while another one is live. -/
def ClosesAgain (w : World) (e : Event) : Prop :=
  ∃ i k message n env s, e = .complete i k (.failed message n) env ∧ w.sessions[i]? = some s ∧
    s.isOpen = false ∧ k < s.pending.length ∧ 0 < w.live

/-- A handler runs when somebody behind the first in the queue has waited too long. -/
def OutwaitsQueue (w : World) (e : Event) : Prop :=
  ∃ i k c env, e = .complete i k c env ∧
    ∃ q ∈ w.gateway.admitter.queue.tail, w.gateway.admitter.hasTimedOut env.now q = true

/-- What a step does to the counters and to the number of live sessions. -/
inductive Accounts (w : World) (e : Event) (t : World) : Prop
  | same (hlive : t.live = w.live) (hledger : t.gateway.ledger = w.gateway.ledger)
  | refused (hlive : t.live = w.live) (hledger : t.gateway.ledger = { w.gateway.ledger with
      overload := w.gateway.ledger.overload.incTotalConnections.decTotalConnections })
  | letIn (env : Environment) (client : Arrival) (a : ConnectionAdmitter)
    (he : e = .start env client) (hlive : t.live = w.live + 1)
    (hlimit : w.gateway.admitter.userLimitReached [] = false)
    (ha : (w.gateway.admitter.activeConnections < w.gateway.admitter.maxConnections ∧
        a = w.gateway.admitter.takeSlot []) ∨
      (w.gateway.admitter.WouldQueue ∧ ∃ q, a = w.gateway.admitter.enqueue q))
    (hledger : t.gateway.ledger = ⟨w.gateway.overload.incTotalConnections,
      w.gateway.metrics.activeConnections + 1, a⟩)
  | gaveBack (i k : ℕ) (c : Completion) (env : Environment) {s : Session} {p : Pending}
    (he : e = .complete i k c env) (hs : w.sessions[i]? = some s) (hp : s.pending[k]? = some p)
    (hlive : t.live = w.live - 1)
    (hledger : t.gateway.ledger = w.gateway.ledger.giveBack env.now s.username)

theorem live_append (w : World) (g : Gateway) (s : Session) :
    live ⟨g, w.sessions ++ [s]⟩ = w.live + if s.isLive then 1 else 0 := by
  rw [live, List.countP_append, List.countP_singleton, live]

theorem live_set {w : World} {i : ℕ} {s : Session} (hs : w.sessions[i]? = some s) (g : Gateway)
    (t : Session) : live ⟨g, w.sessions.set i t⟩ =
      w.live - (if s.isLive then 1 else 0) + if t.isLive then 1 else 0 := by
  obtain ⟨hlt, rfl⟩ := List.getElem?_eq_some_iff.mp hs
  rw [live, List.countP_set hlt, live]

theorem live_pos {w : World} {i : ℕ} {s : Session} (hs : w.sessions[i]? = some s)
    (hlive : s.isLive = true) : 0 < w.live :=
  List.countP_pos_iff.mpr ⟨s, List.mem_of_getElem? hs, hlive⟩

/-- **The inversion lemma for the counters**, for a step that does not close a session again. -/
theorem Moves.accounts {w t : World} {e : Event} (hm : Moves w e t)
    (ho : ∀ s ∈ w.sessions, s.Orderly) (hc : ¬ClosesAgain w e) : Accounts w e t := by
  rcases hm with e | ⟨env, a, t, h⟩ | ⟨i, k, c, env, t, calls, ops, hs, hp, h⟩
  · exact .same rfl rfl
  · have hturned : ∀ {calls}, Session.TurnedAway t calls →
        live ⟨t.gateway, w.sessions ++ [t.self]⟩ = w.live := by
      intro calls ht
      rw [live_append, Session.isLive, ht.isOpen, Bool.and_false, if_neg Bool.false_ne_true]
      rfl
    have hlet : ∀ {result}, Session.LetIn t result →
        live ⟨t.gateway, w.sessions ++ [t.self]⟩ = w.live + 1 := by
      intro result ht
      rw [live_append, Session.isLive, ht.isOpen, ht.admitted]
      rfl
    rcases h with ⟨ht, hl⟩ | ⟨_, ht, -, hl⟩ | ⟨ht, hlimit, hroom, hl⟩ |
      ⟨q, -, ht, hlimit, hfull, henabled, hspace, hl⟩
    · exact .same (hturned ht) hl
    · exact .refused (hturned ht) hl
    · exact .letIn env a _ rfl (hlet ht) hlimit (.inl ⟨hroom, rfl⟩) hl
    · exact .letIn env a _ rfl (hlet ht) hlimit (.inr ⟨⟨hfull, henabled, hspace⟩, q, rfl⟩) hl
  · rename_i s p
    have horderly := ho s (List.mem_of_getElem? hs)
    have hmem : p ∈ s.pending := List.mem_of_getElem? hp
    have hadm : s.admitted = true := horderly.admitted (List.ne_nil_of_mem hmem)
    have hadm' : t.self.admitted = true := h.admitted.trans hadm
    rcases h.settles with ⟨-, hopen, hl⟩ | ⟨reason, hcalls, hopen, hl⟩
    · refine .same ?_ hl
      have hsame : t.self.isLive = s.isLive := by
        rw [Session.isLive, Session.isLive, hadm, hadm', hopen]
        rfl
      rw [live_set hs, hsame]
      split
      · exact Nat.sub_add_cancel (live_pos hs (by assumption))
      · rfl
    · refine .gaveBack i k c env rfl hs hp ?_ ?_
      · have hdead : t.self.isLive = false := by rw [Session.isLive, hopen, Bool.and_false]
        rw [live_set hs, hdead, if_neg Bool.false_ne_true, Nat.add_zero]
        rcases hso : s.isOpen with _ | _
        · -- the session was closed before, so nobody may be live
          have hfail := (h.allowed.of_close (hcalls ▸ List.mem_singleton_self _)).2.2.2.resolve_left
            (horderly.closed hso p hmem)
          rcases c with _ | _ | _ | _ | ⟨message, n⟩
          · exact hfail.elim
          · exact hfail.elim
          · exact hfail.elim
          · exact hfail.elim
          · have hzero : w.live = 0 := by
              by_contra hne
              exact hc ⟨i, k, message, n, env, s, rfl, hs, hso,
                (List.getElem?_eq_some_iff.mp hp).1, Nat.pos_of_ne_zero hne⟩
            rw [hzero, Nat.zero_sub, Nat.zero_sub]
        · rw [Session.isLive, hadm, hso]
          rfl
      · exact hl.trans (if_pos hadm)

/-! ## Runs in which no session is closed twice -/

theorem Accounts.totals {w t : World} {e : Event} (h : Accounts w e t)
    (htotal : w.gateway.overload.totalConnections = w.live)
    (hactive : w.gateway.metrics.activeConnections = w.live) :
    t.gateway.overload.totalConnections = t.live ∧ t.gateway.metrics.activeConnections =
      t.live := by
  have hoverload : t.gateway.overload = t.gateway.ledger.overload := rfl
  have hmetrics : t.gateway.metrics.activeConnections = t.gateway.ledger.active := rfl
  have hdec : decrementClamped (w.live : Int) = ((w.live - 1 : ℕ) : Int) := by
    rw [decrementClamped]
    split <;> omega
  rw [hoverload, hmetrics]
  rcases h with ⟨hlive, hl⟩ | ⟨hlive, hl⟩ | ⟨_, _, a, -, hlive, -, -, hl⟩ |
    ⟨i, k, c, env, -, -, -, hlive, hl⟩
  · rw [hl, hlive]
    exact ⟨htotal, hactive⟩
  · rw [hl, hlive]
    refine ⟨?_, hactive⟩
    show decrementClamped (w.gateway.overload.totalConnections + 1) = _
    rw [htotal, decrementClamped_of_pos (by omega), Int.add_sub_cancel]
  · rw [hl, hlive, Nat.cast_succ]
    exact ⟨congrArg (· + 1) htotal, congrArg (· + 1) hactive⟩
  · rw [hl, hlive, ← hdec]
    exact ⟨congrArg decrementClamped htotal, congrArg decrementClamped hactive⟩

theorem Accounts.seats {w t : World} {e : Event} (h : Accounts w e t) (hq : ¬OutwaitsQueue w e)
    (hs : w.gateway.admitter.Seats w.live) : t.gateway.admitter.Seats t.live := by
  have hadmitter : t.gateway.admitter = t.gateway.ledger.admitter := rfl
  rw [hadmitter]
  rcases h with ⟨hlive, hl⟩ | ⟨hlive, hl⟩ | ⟨_, _, a, -, hlive, -, ha, hl⟩ |
    ⟨i, k, c, env, rfl, -, -, hlive, hl⟩
  · rw [hl, hlive]
    exact hs
  · rw [hl, hlive]
    exact hs
  · rw [hl, hlive]
    rcases ha with ⟨hroom, rfl⟩ | ⟨hfull, q, rfl⟩
    · exact hs.takeSlot hroom []
    · exact hs.enqueue hfull.1 q
  · rw [hl, hlive]
    refine hs.releaseConnection (fun q hmem ↦ ?_) _
    by_contra hne
    exact hq ⟨i, k, c, env, rfl, q, hmem, Bool.not_eq_false _ ▸ hne⟩

theorem seats_of_initial {w : World} (h₀ : w.Initial) : w.gateway.admitter.Seats w.live := by
  have hlive : w.live = 0 := by rw [live, h₀.sessions]; rfl
  rw [hlive]
  refine ⟨h₀.admitter.ge, fun hpos ↦ ⟨?_, ?_, fun hne ↦ absurd h₀.queue hne⟩,
    fun _ ↦ ⟨h₀.admitter, ?_⟩⟩
  · rw [h₀.admitter, h₀.queue]
    rfl
  · exact h₀.admitter.trans_le hpos.le
  · exact Nat.zero_le _

/-- **Slots are counted right while no session is closed twice.** In every run in which nothing
fails for a closed session while another one is live, the two totals are the number of live
sessions; so is the count of the admitter when its queue is empty, if in addition nobody outwaits
the queue. -/
theorem slots_counted {w₀ w : World} {es : List Event} (h₀ : w₀.Initial)
    (hw : run step w₀ es = .ok w) (hc : Along step (fun w e ↦ ¬ClosesAgain w e) w₀ es) :
    w.gateway.overload.totalConnections = w.live ∧ w.gateway.metrics.activeConnections = w.live ∧
      (Along step (fun w e ↦ ¬OutwaitsQueue w e) w₀ es → w.SlotsCounted) := by
  have hlive : w₀.live = 0 := by rw [live, h₀.sessions]; rfl
  have ho₀ : ∀ s ∈ w₀.sessions, s.Orderly := by
    rw [h₀.sessions]
    exact fun s hs ↦ absurd hs List.not_mem_nil
  have htotals₀ : w₀.gateway.overload.totalConnections = w₀.live ∧
      w₀.gateway.metrics.activeConnections = w₀.live := by
    rw [hlive]
    exact ⟨h₀.overload, h₀.active⟩
  have htotals := run_induction (I := fun w : World ↦ (∀ s ∈ w.sessions, s.Orderly) ∧
      w.gateway.overload.totalConnections = w.live ∧ w.gateway.metrics.activeConnections = w.live)
    (fun w e t hI hc ht ↦ ⟨(moves_of_step ht).orderly hI.1,
      ((moves_of_step ht).accounts hI.1 hc).totals hI.2.1 hI.2.2⟩) ⟨ho₀, htotals₀⟩ hc hw
  refine ⟨htotals.2.1, htotals.2.2, fun hq ↦ ⟨htotals.2.1, htotals.2.2, ?_⟩⟩
  have hseats := run_induction (I := fun w : World ↦ (∀ s ∈ w.sessions, s.Orderly) ∧
      w.gateway.admitter.Seats w.live)
    (fun w e t hI hc ht ↦ ⟨(moves_of_step ht).orderly hI.1,
      ((moves_of_step ht).accounts hI.1 hc.1).seats hc.2 hI.2⟩)
    ⟨ho₀, seats_of_initial h₀⟩ (hc.and hq) hw
  exact hseats.2.eq_of_queue_nil

theorem loginRun_slots_counted : ∃ w, run step {} loginRun = .ok w ∧ w.live = 1 ∧
    w.gateway.overload.totalConnections = w.live ∧
    w.gateway.metrics.activeConnections = w.live := by
  have hrun : (run step {} loginRun).toOption.map live = some 1 := by decide +kernel
  obtain ⟨w, hw, hlive⟩ := exists_run_of_observation hrun
  have hc : Along step (fun w e ↦ ¬ClosesAgain w e) {} loginRun := by
    refine ⟨?_, fun _ _ ↦ ⟨?_, fun _ _ ↦ trivial⟩⟩ <;> rintro ⟨i, k, message, n, env, s, he, -⟩ <;>
      cases he
  have hcounted := slots_counted ⟨rfl, rfl, rfl, rfl, rfl, rfl⟩ hw hc
  exact ⟨w, hw, hlive, hcounted.1, hcounted.2.1⟩

/-- A second client connects while a tunnel is up, then both directions of the tunnel fail. -/
def doubleCloseRun : List Event :=
  relayRun ++ [.start (sampleEnvironment .direct) sampleArrival,
    .complete 0 0 (.failed (.lit "End of file") 0) (sampleEnvironment .direct),
    .complete 0 0 (.failed (.lit "Operation canceled") 0) (sampleEnvironment .direct)]

/-- The tunnel has taken the slot of the second client with it. -/
theorem doubleCloseRun_not_counted :
    ∃ w, Reachable step {} w ∧ w.live = 1 ∧ w.gateway.overload.totalConnections = 0 ∧
      w.gateway.metrics.activeConnections = 0 ∧ w.gateway.admitter.activeConnections = 0 ∧
      w.gateway.admitter.queue = [] ∧ ¬w.SlotsCounted := by
  have hrun : (run step {} doubleCloseRun).toOption.map (fun w ↦ (w.live,
      w.gateway.overload.totalConnections, w.gateway.metrics.activeConnections,
      w.gateway.admitter.activeConnections, w.gateway.admitter.queue)) =
      some (1, 0, 0, 0, []) := by decide +kernel
  obtain ⟨w, hw, hobs⟩ := exists_run_of_observation hrun
  simp only [Prod.mk.injEq] at hobs
  obtain ⟨hlive, htotal, hactive, hadmitter, hqueue⟩ := hobs
  refine ⟨w, ⟨doubleCloseRun, hw⟩, hlive, htotal, hactive, hadmitter, hqueue, fun hcounted ↦ ?_⟩
  have heq := hcounted.total
  rw [htotal, hlive] at heq
  exact absurd heq (by decide)

end World

end LanProxyGateway
