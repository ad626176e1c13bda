import LanProxyGateway.Concurrency.Admission
import LanProxyGateway.Foundation.FixedWindow

/-!
# What the rate limiter promises

`check_connection_rate` is a counter with fixed windows of one second, one for each address: what an
address asks is `Windowed` (`windowed_questions`), so at most twice the limit is let in within a
second. A record that a failed login created has no window yet, and the epoch of the clock stands in
for its beginning.

A ban is a date in the record of an address, and dates only move forward. The one failure that sets
no date is the one that creates the record: where a single failure is the limit, the address is then
kept out by the count of its window alone, which ends after sixty seconds (`banHolds_iff`).

The counts are integers here. They are no larger than the number of calls (`count_le_length`), so
they are those of an `int` for as long as fewer than `2 ^ 31` calls have been made.
-/

open Foundation

namespace LanProxyGateway

/-- A call that changes the limiter. -/
inductive RateCall
  | checkConnectionRate (now : SteadyTime) (clientIp : ByteString)
  | recordAuthFailure (now : SteadyTime) (clientIp : ByteString)

namespace RateCall

def now : RateCall → SteadyTime
  | checkConnectionRate now _ => now
  | recordAuthFailure now _ => now

def clientIp : RateCall → ByteString
  | checkConnectionRate _ clientIp => clientIp
  | recordAuthFailure _ clientIp => clientIp

end RateCall

/-- The length of a window of connections. -/
def oneSecond : SteadyTime := 1000000000

/-- So many whole seconds have passed. -/
theorem le_wholeSeconds_iff {n : Int} (hn : 0 < n) {d : SteadyTime} :
    n ≤ wholeSeconds d ↔ n * oneSecond ≤ d := by
  rw [wholeSeconds, oneSecond]
  constructor
  · intro h
    rcases le_total 0 d with hd | hd
    · rw [Int.tdiv_eq_ediv_of_nonneg hd] at h
      omega
    · have hle : d.tdiv 1000000000 ≤ 0 := Int.tdiv_le_tdiv (by decide) hd
      omega
  · exact Int.le_tdiv_of_mul_le (by decide)

/-- A window is over when it has lasted its time. -/
theorem window_over_iff {n : Int} (hn : 0 < n) {start now : SteadyTime} :
    n ≤ wholeSeconds (now - start) ↔ start + n * oneSecond ≤ now := by
  rw [le_wholeSeconds_iff hn]
  exact le_sub_iff_add_le'

namespace RateLimiter

/-- `rate_limiter::init`. -/
def init (maxConnPerIpPerSec maxAuthFailsPerMin banDurationSec : Int) : RateLimiter :=
  { maxConnPerIpPerSec, maxAuthFailsPerMin, banDurationSec }

def after (r : RateLimiter) : RateCall → RateLimiter
  | .checkConnectionRate now clientIp => (r.checkConnectionRate now clientIp).2
  | .recordAuthFailure now clientIp => r.recordAuthFailure now clientIp

/-- The limiter after calls made one after the other. -/
def afterAll (r : RateLimiter) (calls : List RateCall) : RateLimiter := calls.foldl after r

/-- The call would begin a window: there is no record, or its window is over. -/
def opensWindow (r : RateLimiter) (now : SteadyTime) (clientIp : ByteString) : Bool :=
  match r.rates.lookup clientIp with
  | none => true
  | some info => decide (1 ≤ wholeSeconds (now - info.connWindowStart))

/-- What a call asks about the address, if it does. -/
def question (ip : ByteString) (r : RateLimiter) : RateCall → Option (Question SteadyTime)
  | .checkConnectionRate now clientIp =>
    if clientIp = ip then
      some ⟨now, r.opensWindow now ip, (r.checkConnectionRate now ip).1⟩
    else none
  | .recordAuthFailure _ _ => none

/-- What is asked about the address in a sequence of calls. -/
def questions (ip : ByteString) : RateLimiter → List RateCall → List (Question SteadyTime)
  | _, [] => []
  | r, call :: calls => (r.question ip call).toList ++ questions ip (r.after call) calls

variable {r : RateLimiter} {ip : ByteString} {now : SteadyTime} {calls : List RateCall}

theorem afterAll_concat (r : RateLimiter) (calls : List RateCall) (call : RateCall) :
    r.afterAll (calls ++ [call]) = (r.afterAll calls).after call := by
  rw [afterAll, List.foldl_append]
  rfl

theorem questions_concat (r : RateLimiter) (calls : List RateCall) (call : RateCall) :
    questions ip r (calls ++ [call]) =
      questions ip r calls ++ ((r.afterAll calls).question ip call).toList := by
  induction calls generalizing r with
  | nil => rw [List.nil_append, questions, questions, questions, List.append_nil]; rfl
  | cons c calls ih =>
    rw [List.cons_append, questions, questions, ih, List.append_assoc]
    rfl

theorem exists_call_of_mem_questions {q : Question SteadyTime} (hq : q ∈ questions ip r calls) :
    ∃ call ∈ calls, call.now = q.time := by
  induction calls generalizing r with
  | nil => exact absurd hq List.not_mem_nil
  | cons call calls ih =>
    rcases List.mem_append.mp hq with hfirst | hrest
    · refine ⟨call, List.mem_cons_self, ?_⟩
      cases call with
      | checkConnectionRate now clientIp =>
        rw [question] at hfirst
        split at hfirst
        · rw [List.mem_singleton.mp hfirst]
          rfl
        · exact absurd hfirst List.not_mem_nil
      | recordAuthFailure now clientIp => exact absurd hfirst List.not_mem_nil
    · obtain ⟨call', hmem, htime⟩ := ih hrest
      exact ⟨call', List.mem_cons_of_mem call hmem, htime⟩

/-! ## What a call does -/

/-- A call leaves the settings alone. -/
theorem settings_after (r : RateLimiter) (call : RateCall) :
    (r.after call).maxConnPerIpPerSec = r.maxConnPerIpPerSec ∧
      (r.after call).maxAuthFailsPerMin = r.maxAuthFailsPerMin ∧
      (r.after call).banDurationSec = r.banDurationSec := by
  cases call with
  | checkConnectionRate now clientIp =>
    rw [after, checkConnectionRate]
    split
    · exact ⟨rfl, rfl, rfl⟩
    · split <;> exact ⟨rfl, rfl, rfl⟩
  | recordAuthFailure now clientIp =>
    rw [after, recordAuthFailure]
    split <;> exact ⟨rfl, rfl, rfl⟩

/-- A call leaves the records of other addresses alone. -/
theorem lookup_after_of_ne {call : RateCall} (h : call.clientIp ≠ ip) :
    (r.after call).rates.lookup ip = r.rates.lookup ip := by
  cases call with
  | checkConnectionRate now clientIp =>
    rw [after, checkConnectionRate]
    split
    · exact AList.lookup_insert_ne (Ne.symm h)
    · split <;> exact AList.lookup_insert_ne (Ne.symm h)
  | recordAuthFailure now clientIp =>
    rw [after, recordAuthFailure]
    split <;> exact AList.lookup_insert_ne (Ne.symm h)

/-- The failure that creates the record. -/
theorem lookup_recordAuthFailure_of_none (now : SteadyTime) (h : r.rates.lookup ip = none) :
    (r.recordAuthFailure now ip).rates.lookup ip =
      some { authFailCount := 1, authWindowStart := now } := by
  rw [recordAuthFailure, h]
  exact AList.lookup_insert _

/-- The record of an address after a failed login. -/
theorem lookup_recordAuthFailure {info : IpRateInfo} (now : SteadyTime)
    (h : r.rates.lookup ip = some info) :
    ∃ info', (r.recordAuthFailure now ip).rates.lookup ip = some info' ∧
      info'.connCount = info.connCount ∧ info'.connWindowStart = info.connWindowStart ∧
      (info'.authFailCount = 1 ∧ 60 ≤ wholeSeconds (now - info.authWindowStart) ∧
          info'.authWindowStart = now ∨
        info'.authFailCount = info.authFailCount + 1 ∧
          ¬60 ≤ wholeSeconds (now - info.authWindowStart) ∧
          info'.authWindowStart = info.authWindowStart) ∧
      info'.bannedUntil = if r.maxAuthFailsPerMin ≤ info'.authFailCount
        then now + r.banDurationSec * 1000000000 else info.bannedUntil := by
  rw [recordAuthFailure, h]
  simp only [AList.lookup_insert]
  refine ⟨_, rfl, ?_⟩
  split_ifs with hwindow hlimit hlimit
  · exact ⟨rfl, rfl, .inl ⟨rfl, hwindow, rfl⟩, rfl⟩
  · exact ⟨rfl, rfl, .inl ⟨rfl, hwindow, rfl⟩, rfl⟩
  · exact ⟨rfl, rfl, .inr ⟨rfl, hwindow, rfl⟩, rfl⟩
  · exact ⟨rfl, rfl, .inr ⟨rfl, hwindow, rfl⟩, rfl⟩

/-- The question that creates the record. -/
theorem lookup_checkConnectionRate_of_none (now : SteadyTime) (h : r.rates.lookup ip = none) :
    (r.checkConnectionRate now ip).2.rates.lookup ip =
      some { connCount := 1, connWindowStart := now } := by
  rw [checkConnectionRate, h]
  exact AList.lookup_insert _

/-- The record of an address after a question about its connections. -/
theorem lookup_checkConnectionRate {info : IpRateInfo} (now : SteadyTime)
    (h : r.rates.lookup ip = some info) :
    (r.checkConnectionRate now ip).2.rates.lookup ip =
      some (if 1 ≤ wholeSeconds (now - info.connWindowStart)
        then { info with connCount := 1, connWindowStart := now }
        else { info with connCount := info.connCount + 1 }) := by
  rw [checkConnectionRate, h]
  simp only
  split
  · exact AList.lookup_insert _
  · exact AList.lookup_insert _

/-! ## Windows of connections -/

/-- What the record of an address knows of the questions about it. -/
structure Records (qs : List (Question SteadyTime)) (info : IpRateInfo) : Prop where
  count : ∀ part, part <:+ qs → Question.InOneWindow part →
    (part.countP (·.allowed) : Int) ≤ info.connCount
  inside : ∀ q ∈ qs, q.time < info.connWindowStart + oneSecond
  start : ∀ q ∈ qs, q.opens = true → q.time ≤ info.connWindowStart

/-- The questions about an address, next to its record. -/
structure Watched (m : ℕ) (r : RateLimiter) (ip : ByteString) (qs : List (Question SteadyTime)) :
    Prop where
  windowed : Question.Windowed oneSecond m qs
  unknown : r.rates.lookup ip = none → qs = []
  known : ∀ info, r.rates.lookup ip = some info → Records qs info

variable {m : ℕ} {qs : List (Question SteadyTime)}

/-- A question that begins a window. -/
theorem records_opened (hle : ∀ q ∈ qs, q.time ≤ now) {info : IpRateInfo}
    (hcount : info.connCount = 1) (hstart : info.connWindowStart = now) :
    Records (qs ++ [⟨now, true, true⟩]) info where
  count := by
    intro part hpart hone
    rcases List.suffix_concat_iff.mp hpart with rfl | ⟨rest, rfl, -⟩
    · rw [hcount]
      decide
    · rw [Question.eq_nil_of_inOneWindow_concat rfl hone, hcount]
      exact le_rfl
  inside := by
    intro q hq
    have hlt : now < now + oneSecond := lt_add_of_pos_right now (by decide)
    rw [hstart]
    rcases List.mem_append.mp hq with hq | hq
    · exact (hle q hq).trans_lt hlt
    · rw [List.mem_singleton.mp hq]
      exact hlt
  start := by
    intro q hq _
    rw [hstart]
    rcases List.mem_append.mp hq with hq | hq
    · exact hle q hq
    · rw [List.mem_singleton.mp hq]

/-- A question inside a window. -/
theorem Records.counted {info : IpRateInfo} (h : Records qs info) {allowed : Bool}
    (hopen : now < info.connWindowStart + oneSecond) :
    Records (qs ++ [⟨now, false, allowed⟩]) { info with connCount := info.connCount + 1 } where
  count := by
    intro part hpart hone
    have hzero := h.count [] List.nil_suffix fun _ h ↦ absurd h List.not_mem_nil
    rcases List.suffix_concat_iff.mp hpart with rfl | ⟨rest, rfl, hrest⟩
    · exact hzero.trans (Int.le_add_one le_rfl)
    · have hcount := h.count rest hrest (Question.inOneWindow_of_concat hone)
      rw [List.countP_append, List.countP_singleton]
      split <;> push_cast <;> omega
  inside := by
    intro q hq
    rcases List.mem_append.mp hq with hq | hq
    · exact h.inside q hq
    · rw [List.mem_singleton.mp hq]
      exact hopen
  start := by
    intro q hq ho
    rcases List.mem_append.mp hq with hq | hq
    · exact h.start q hq ho
    · rw [List.mem_singleton.mp hq] at ho
      cases ho

theorem watched_of_lookup {info : IpRateInfo} (hinfo : r.rates.lookup ip = some info)
    (hwindowed : Question.Windowed oneSecond m qs) (hrecords : Records qs info) :
    Watched m r ip qs where
  windowed := hwindowed
  unknown := fun hnone ↦ by
    rw [hinfo] at hnone
    cases hnone
  known := fun info' hinfo' ↦ Option.some.inj (hinfo.symm.trans hinfo') ▸ hrecords

theorem Watched.recordAuthFailure (h : Watched m r ip qs) (now : SteadyTime) :
    Watched m (r.recordAuthFailure now ip) ip qs := by
  rcases hinfo : r.rates.lookup ip with _ | info
  · have hlookup := lookup_recordAuthFailure_of_none now hinfo
    obtain rfl := h.unknown hinfo
    refine watched_of_lookup hlookup h.windowed ⟨fun part hpart _ ↦ ?_,
      fun _ hq ↦ absurd hq List.not_mem_nil, fun _ hq ↦ absurd hq List.not_mem_nil⟩
    rw [List.suffix_nil.mp hpart]
    rfl
  · obtain ⟨info', hlookup, hcount, hstart, -⟩ := lookup_recordAuthFailure now hinfo
    have hrecords := h.known info hinfo
    exact watched_of_lookup hlookup h.windowed
      ⟨hcount ▸ hrecords.count, hstart ▸ hrecords.inside, hstart ▸ hrecords.start⟩

/-- What is asked and answered when a window begins. -/
theorem question_of_opensWindow (h : r.opensWindow now ip = true) :
    r.question ip (.checkConnectionRate now ip) = some ⟨now, true, true⟩ := by
  rw [question, if_pos rfl, h]
  rw [opensWindow] at h
  rw [checkConnectionRate]
  split
  · rfl
  · rename_i info hinfo
    rw [hinfo, decide_eq_true_eq] at h
    rw [if_pos h]

theorem Watched.checkConnectionRate (h : Watched m r ip qs) (hm : 1 ≤ m)
    (hlimit : r.maxConnPerIpPerSec = m) (hle : ∀ q ∈ qs, q.time ≤ now) :
    Watched m (r.checkConnectionRate now ip).2 ip
      (qs ++ (r.question ip (.checkConnectionRate now ip)).toList) := by
  rcases hinfo : r.rates.lookup ip with _ | info
  · have hlookup := lookup_checkConnectionRate_of_none now hinfo
    obtain rfl := h.unknown hinfo
    rw [question_of_opensWindow (by rw [opensWindow, hinfo]), Option.toList_some]
    refine watched_of_lookup hlookup (h.windowed.concat hle
      (fun _ _ hq ↦ absurd hq List.not_mem_nil) fun part hpart _ ↦ ?_) (records_opened hle rfl rfl)
    rw [List.suffix_nil.mp hpart]
    exact hm
  have hrecords := h.known info hinfo
  have hlookup := lookup_checkConnectionRate now hinfo
  by_cases hover : 1 ≤ wholeSeconds (now - info.connWindowStart)
  · -- the window is over, and the question begins another one
    rw [if_pos hover] at hlookup
    rw [question_of_opensWindow (by rw [opensWindow, hinfo]; exact decide_eq_true hover),
      Option.toList_some]
    rw [window_over_iff one_pos, one_mul] at hover
    refine watched_of_lookup hlookup (h.windowed.concat hle (fun _ q hq ↦ ⟨?_, fun ho ↦ ?_⟩)
      fun part _ hone ↦ ?_) (records_opened hle rfl rfl)
    · exact (hrecords.inside q hq).trans_le hover
    · exact (add_le_add_left (hrecords.start q hq ho) oneSecond).trans hover
    · rw [Question.eq_nil_of_inOneWindow_concat rfl hone]
      exact hm
  · have hquestion : r.question ip (.checkConnectionRate now ip) =
        some ⟨now, false, decide (info.connCount + 1 ≤ m)⟩ := by
      rw [question, if_pos rfl, opensWindow, RateLimiter.checkConnectionRate, hinfo, ← hlimit]
      simp only [hover, if_false, decide_false]
    rw [if_neg hover] at hlookup
    rw [window_over_iff one_pos, one_mul, not_le] at hover
    rw [hquestion, Option.toList_some]
    refine watched_of_lookup hlookup (h.windowed.concat hle (fun ho ↦ absurd ho Bool.false_ne_true)
      fun part hpart hone ↦ ?_) (hrecords.counted hover)
    have hone := Question.inOneWindow_of_concat hone
    have hcount := hrecords.count part hpart hone
    have hbounded := h.windowed.bounded part hpart.isInfix hone
    rw [List.countP_append, List.countP_singleton]
    simp only [decide_eq_true_eq]
    split <;> omega

/-- **One call.** -/
theorem Watched.after (h : Watched m r ip qs) (hm : 1 ≤ m) (hlimit : r.maxConnPerIpPerSec = m)
    (call : RateCall) (hle : ∀ q ∈ qs, q.time ≤ call.now) :
    Watched m (r.after call) ip (qs ++ (r.question ip call).toList) := by
  by_cases hip : call.clientIp = ip
  · cases call with
    | checkConnectionRate now clientIp =>
      obtain rfl : clientIp = ip := hip
      exact h.checkConnectionRate hm hlimit hle
    | recordAuthFailure now clientIp =>
      obtain rfl : clientIp = ip := hip
      rw [question, Option.toList_none, List.append_nil]
      exact h.recordAuthFailure now
  · have hlookup := lookup_after_of_ne (r := r) hip
    have hnone : r.question ip call = none := by
      cases call with
      | checkConnectionRate now clientIp => exact if_neg hip
      | recordAuthFailure now clientIp => rfl
    rw [hnone, Option.toList_none, List.append_nil]
    exact ⟨h.windowed, hlookup ▸ h.unknown, hlookup ▸ h.known⟩

/-- The settings stay what they were. -/
theorem settings_afterAll (r : RateLimiter) (calls : List RateCall) :
    (r.afterAll calls).maxConnPerIpPerSec = r.maxConnPerIpPerSec ∧
      (r.afterAll calls).maxAuthFailsPerMin = r.maxAuthFailsPerMin ∧
      (r.afterAll calls).banDurationSec = r.banDurationSec := by
  induction calls using List.reverseRecOn with
  | nil => exact ⟨rfl, rfl, rfl⟩
  | append_singleton calls call ih =>
    obtain ⟨hconn, hfails, hban⟩ := settings_after (r.afterAll calls) call
    rw [afterAll_concat]
    exact ⟨hconn.trans ih.1, hfails.trans ih.2.1, hban.trans ih.2.2⟩

/-- **All calls.** -/
theorem watched_questions (maxAuthFailsPerMin banDurationSec : Int) (hm : 1 ≤ m) (ip : ByteString)
    {calls : List RateCall} (hsorted : calls.Pairwise (·.now ≤ ·.now)) :
    Watched m ((init m maxAuthFailsPerMin banDurationSec).afterAll calls) ip
      (questions ip (init m maxAuthFailsPerMin banDurationSec) calls) := by
  induction calls using List.reverseRecOn with
  | nil => exact ⟨Question.windowed_nil _ _, fun _ ↦ rfl, fun info hinfo ↦ by cases hinfo⟩
  | append_singleton calls call ih =>
    obtain ⟨hcalls, -, hlast⟩ := List.pairwise_append.mp hsorted
    rw [afterAll_concat, questions_concat]
    refine (ih hcalls).after hm (settings_afterAll _ calls).1 call fun q hq ↦ ?_
    obtain ⟨earlier, hearlier, htime⟩ := exists_call_of_mem_questions hq
    rw [← htime]
    exact hlast earlier hearlier call (List.mem_singleton.mpr rfl)

/-- **The rate.** Whatever is called, the questions about an address fall into windows of a second,
at most as many as the limit are answered with yes in each, and at most twice as many within any
second. The count of a window is the `int` of the code while there are fewer than `2 ^ 31` calls
(`count_le_length`). -/
theorem windowed_questions {maxAuthFailsPerMin banDurationSec : Int} (hm : 1 ≤ m) (ip : ByteString)
    {calls : List RateCall} (hsorted : calls.Pairwise (·.now ≤ ·.now)) :
    Question.Windowed oneSecond m (questions ip (init m maxAuthFailsPerMin banDurationSec) calls) ∧
      ∀ t, (questions ip (init m maxAuthFailsPerMin banDurationSec) calls).countP
        (fun q ↦ q.allowed && decide (t ≤ q.time ∧ q.time ≤ t + oneSecond)) ≤ 2 * m := by
  have h := (watched_questions maxAuthFailsPerMin banDurationSec hm ip hsorted).windowed
  exact ⟨h, h.countP_le⟩

/-- Two connections a second, and three questions. -/
theorem windowed_three_questions :
    Question.Windowed oneSecond 2 (questions [10] (init (2 : ℕ) 5 60)
        [.checkConnectionRate 0 [10], .checkConnectionRate 1 [10], .checkConnectionRate 2 [10]]) ∧
      ∀ t, (questions [10] (init (2 : ℕ) 5 60) [.checkConnectionRate 0 [10],
          .checkConnectionRate 1 [10], .checkConnectionRate 2 [10]]).countP
        (fun q ↦ q.allowed && decide (t ≤ q.time ∧ q.time ≤ t + oneSecond)) ≤ 2 * 2 :=
  windowed_questions (by decide) [10] (by simp [RateCall.now])

/-- The counts of a record are no larger than the number of calls, and so no `int` of them overflows
before the calls do. -/
theorem count_le_length {m a b : Int} {info : IpRateInfo}
    (hinfo : ((init m a b).afterAll calls).rates.lookup ip = some info) :
    info.connCount ≤ calls.length ∧ info.authFailCount ≤ calls.length := by
  induction calls using List.reverseRecOn generalizing info with
  | nil => cases hinfo
  | append_singleton calls call ih =>
    rw [afterAll_concat] at hinfo
    rw [List.length_append, List.length_singleton]
    push_cast
    by_cases hip : call.clientIp = ip
    rotate_left
    · rw [lookup_after_of_ne hip] at hinfo
      obtain ⟨hconn, hfails⟩ := ih hinfo
      omega
    subst hip
    generalize (init m a b).afterAll calls = r at hinfo ih
    cases call with
    | checkConnectionRate now clientIp =>
      change (r.checkConnectionRate now clientIp).2.rates.lookup clientIp = some info at hinfo
      rcases hold : r.rates.lookup clientIp with _ | old
      · rw [lookup_checkConnectionRate_of_none now hold] at hinfo
        obtain rfl := Option.some.inj hinfo
        exact ⟨by simp, by positivity⟩
      · rw [lookup_checkConnectionRate now hold] at hinfo
        obtain rfl := Option.some.inj hinfo
        obtain ⟨hconn, hfails⟩ := ih hold
        split
        · exact ⟨by simp, hfails.trans (Int.le_add_one le_rfl)⟩
        · exact ⟨Int.add_le_add_right hconn 1, hfails.trans (Int.le_add_one le_rfl)⟩
    | recordAuthFailure now clientIp =>
      change (r.recordAuthFailure now clientIp).rates.lookup clientIp = some info at hinfo
      rcases hold : r.rates.lookup clientIp with _ | old
      · rw [lookup_recordAuthFailure_of_none now hold] at hinfo
        obtain rfl := Option.some.inj hinfo
        exact ⟨by positivity, by simp⟩
      · obtain ⟨new, hnew, hsame, -, hfails, -⟩ := lookup_recordAuthFailure now hold
        obtain rfl := Option.some.inj (hnew.symm.trans hinfo)
        obtain ⟨hconn, hcount⟩ := ih hold
        rw [hsame]
        refine ⟨hconn.trans (Int.le_add_one le_rfl), ?_⟩
        rcases hfails with ⟨hone, -⟩ | ⟨hnext, -⟩
        · rw [hone]
          simp
        · rw [hnext]
          exact Int.add_le_add_right hcount 1

/-! ## Bans -/

/-- The failures counted in the current window of an address. -/
def failures (r : RateLimiter) (ip : ByteString) : Int :=
  (r.rates.lookup ip).elim 0 (·.authFailCount)

/-- After a failure at time `t` nothing lets the address in before its ban is over. -/
def BanHolds (r : RateLimiter) (t : SteadyTime) (ip : ByteString) : Prop :=
  ∀ (calls : List RateCall) (u : SteadyTime), calls.Pairwise (·.now ≤ ·.now) →
    (∀ call ∈ calls, t ≤ call.now ∧ call.now ≤ u) → t ≤ u →
    u < t + r.banDurationSec * oneSecond →
    ((r.recordAuthFailure t ip).afterAll calls).checkAuthRate u ip = false

/-- An address has a record when a call has been about it. -/
theorem mem_rates_afterAll_iff {m a b : Int} :
    ((init m a b).afterAll calls).rates.lookup ip ≠ none ↔ ∃ call ∈ calls, call.clientIp = ip := by
  induction calls using List.reverseRecOn with
  | nil => exact iff_of_false (fun h ↦ h rfl) fun ⟨_, h, _⟩ ↦ absurd h List.not_mem_nil
  | append_singleton calls call ih =>
    rw [afterAll_concat]
    by_cases hip : call.clientIp = ip
    · refine iff_of_true ?_ ⟨call, List.mem_append_right _ (List.mem_singleton.mpr rfl), hip⟩
      subst hip
      generalize (init m a b).afterAll calls = r
      cases call with
      | checkConnectionRate now clientIp =>
        change (r.checkConnectionRate now clientIp).2.rates.lookup clientIp ≠ none
        rcases hinfo : r.rates.lookup clientIp with _ | info
        · rw [lookup_checkConnectionRate_of_none now hinfo]
          exact Option.some_ne_none _
        · rw [lookup_checkConnectionRate now hinfo]
          exact Option.some_ne_none _
      | recordAuthFailure now clientIp =>
        change (r.recordAuthFailure now clientIp).rates.lookup clientIp ≠ none
        rcases hinfo : r.rates.lookup clientIp with _ | info
        · rw [lookup_recordAuthFailure_of_none now hinfo]
          exact Option.some_ne_none _
        · obtain ⟨info', hinfo', -⟩ := lookup_recordAuthFailure now hinfo
          rw [hinfo']
          exact Option.some_ne_none _
    · rw [lookup_after_of_ne hip, ih]
      constructor
      · rintro ⟨earlier, hearlier, hip⟩
        exact ⟨earlier, List.mem_append_left _ hearlier, hip⟩
      · rintro ⟨earlier, hearlier, hearlierip⟩
        rcases List.mem_append.mp hearlier with hearlier | hlast
        · exact ⟨earlier, hearlier, hearlierip⟩
        · rw [List.mem_singleton.mp hlast] at hearlierip
          exact absurd hearlierip hip

/-- The record keeps the address out until `t + d`: by its date, or, for as long as the window that
begins at `t` lasts, by its count. -/
def KeptOut (r : RateLimiter) (t d : SteadyTime) (ip : ByteString) : Prop :=
  ∃ info, r.rates.lookup ip = some info ∧ (t + d ≤ info.bannedUntil ∨
    d ≤ 60 * oneSecond ∧ info.authWindowStart = t ∧ r.maxAuthFailsPerMin ≤ info.authFailCount)

variable {t d u : SteadyTime}

theorem KeptOut.checkAuthRate (h : r.KeptOut t d ip) (hu : u < t + d) :
    r.checkAuthRate u ip = false := by
  obtain ⟨info, hinfo, hdate | ⟨hshort, rfl, hcount⟩⟩ := h
  · rw [RateLimiter.checkAuthRate, hinfo]
    exact if_pos (hu.trans_le hdate)
  · have hopen : ¬60 ≤ wholeSeconds (u - info.authWindowStart) := by
      rw [window_over_iff (by decide), not_le]
      exact hu.trans_le (add_le_add_right hshort _)
    rw [RateLimiter.checkAuthRate, hinfo]
    simp only [hopen, if_false, decide_eq_false (not_lt.mpr hcount), ite_self]

/-- A call before the ban is over leaves the address out. -/
theorem KeptOut.after (h : r.KeptOut t (r.banDurationSec * oneSecond) ip) {call : RateCall}
    (hlo : t ≤ call.now) (hhi : call.now < t + r.banDurationSec * oneSecond) :
    (r.after call).KeptOut t (r.banDurationSec * oneSecond) ip := by
  obtain ⟨info, hinfo, hkept⟩ := h
  have hfails := (settings_after r call).2.1
  by_cases hip : call.clientIp = ip
  rotate_left
  · exact ⟨info, (lookup_after_of_ne hip).trans hinfo, hfails.symm ▸ hkept⟩
  cases call with
  | checkConnectionRate now clientIp =>
    obtain rfl : clientIp = ip := hip
    refine ⟨_, lookup_checkConnectionRate now hinfo, ?_⟩
    rw [hfails]
    split <;> exact hkept
  | recordAuthFailure now clientIp =>
    obtain rfl : clientIp = ip := hip
    obtain ⟨info', hinfo', -, -, hwindow, hbanned⟩ := lookup_recordAuthFailure now hinfo
    refine ⟨info', hinfo', .inl ?_⟩
    have hlater : t + r.banDurationSec * oneSecond ≤ now + r.banDurationSec * oneSecond :=
      add_le_add_left hlo _
    rw [hbanned]
    split
    · exact hlater
    · rename_i hlimit
      rcases hkept with hdate | ⟨hshort, hstart, hcount⟩
      · exact hdate
      · -- one more failure in a window that has reached the limit reaches it again
        have hopen : ¬60 ≤ wholeSeconds (now - info.authWindowStart) := by
          rw [window_over_iff (by decide), not_le, hstart]
          exact lt_of_lt_of_le hhi (add_le_add_right hshort _)
        rcases hwindow with ⟨-, hover, -⟩ | ⟨hnext, -, -⟩
        · exact absurd hover hopen
        · rw [hnext] at hlimit
          exact absurd (hcount.trans (Int.le_add_one le_rfl)) hlimit

theorem KeptOut.afterAll (hban : r.KeptOut t (r.banDurationSec * oneSecond) ip)
    (hcalls : ∀ call ∈ calls, t ≤ call.now ∧ call.now < t + r.banDurationSec * oneSecond) :
    (r.afterAll calls).KeptOut t (r.banDurationSec * oneSecond) ip := by
  induction calls using List.reverseRecOn with
  | nil => exact hban
  | append_singleton calls call ih =>
    rw [afterAll_concat]
    have hlast := hcalls call (List.mem_append_right _ (List.mem_singleton.mpr rfl))
    have hkept := ih fun c hc ↦ hcalls c (List.mem_append_left _ hc)
    have hsame := (settings_afterAll r calls).2.2
    rw [← hsame] at hkept hlast ⊢
    exact hkept.after hlast.1 hlast.2

/-- A ban holds when the record keeps the address out from the start. -/
theorem banHolds_of_keptOut
    (h : (r.recordAuthFailure t ip).KeptOut t (r.banDurationSec * oneSecond) ip) :
    r.BanHolds t ip := by
  intro calls u _ hcalls _ hu
  have hsame : (r.recordAuthFailure t ip).banDurationSec = r.banDurationSec :=
    (settings_after r (.recordAuthFailure t ip)).2.2
  rw [← hsame] at h hu
  have hkept := h.afterAll fun call hcall ↦
    ⟨(hcalls call hcall).1, (hcalls call hcall).2.trans_lt hu⟩
  exact hkept.checkAuthRate hu

/-- **When a ban holds.** The failure that reaches the limit keeps the address out for the whole ban
exactly when it is not the first call about the address, or the limit is more than one failure, or
the ban is no longer than the window (or over before the epoch of the clock). -/
theorem banHolds_iff (m a b : Int) (calls : List RateCall) (t : SteadyTime) (ip : ByteString) :
    (a ≤ (((init m a b).afterAll calls).recordAuthFailure t ip).failures ip →
        ((init m a b).afterAll calls).BanHolds t ip) ↔
      (∃ call ∈ calls, call.clientIp = ip) ∨ 2 ≤ a ∨ b ≤ 60 ∨ t + b * oneSecond ≤ 0 := by
  rw [← mem_rates_afterAll_iff (m := m) (a := a) (b := b)]
  obtain ⟨-, ha, hb⟩ := settings_afterAll (init m a b) calls
  generalize (init m a b).afterAll calls = r at ha hb ⊢
  change r.maxAuthFailsPerMin = a at ha
  change r.banDurationSec = b at hb
  subst ha hb
  rcases hinfo : r.rates.lookup ip with _ | info
  rotate_left
  · -- the record is there, and the failure puts the date into it
    refine iff_of_true (fun hreached ↦ banHolds_of_keptOut ?_) (.inl (Option.some_ne_none info))
    obtain ⟨info', hinfo', -, -, -, hbanned⟩ := lookup_recordAuthFailure t hinfo
    rw [failures, hinfo', Option.elim_some] at hreached
    rw [if_pos hreached] at hbanned
    exact ⟨info', hinfo', .inl hbanned.ge⟩
  have hlookup := lookup_recordAuthFailure_of_none t hinfo
  have hfails : (r.recordAuthFailure t ip).maxAuthFailsPerMin = r.maxAuthFailsPerMin :=
    (settings_after r (.recordAuthFailure t ip)).2.1
  rw [or_iff_right (not_not_intro rfl), failures, hlookup, Option.elim_some]
  constructor
  · intro h
    by_contra hnot
    simp only [not_or, not_le] at hnot
    obtain ⟨hsingle, hlong, hdate⟩ := hnot
    have hone : r.maxAuthFailsPerMin ≤ 1 := Int.lt_add_one_iff.mp hsingle
    have hlt : t + 60 * oneSecond < t + r.banDurationSec * oneSecond :=
      add_lt_add_right (mul_lt_mul_of_pos_right hlong (by decide)) t
    -- the window is over, the ban is not
    have hfalse := h hone [] (max (t + 60 * oneSecond) 0) .nil
      (fun _ hcall ↦ absurd hcall List.not_mem_nil)
      (le_max_of_le_left (le_add_of_nonneg_right (by decide))) (max_lt hlt hdate)
    have hover : 60 ≤ wholeSeconds (max (t + 60 * oneSecond) 0 - t) :=
      (window_over_iff (by decide)).mpr (le_max_left _ _)
    change (r.recordAuthFailure t ip).checkAuthRate _ ip = false at hfalse
    rw [checkAuthRate, hlookup] at hfalse
    simp only [hover, if_true, not_lt.mpr (le_max_right (t + 60 * oneSecond) 0), if_false]
      at hfalse
    cases hfalse
  · rintro (htwo | hshort | hdate) hreached
    · exact absurd hreached (not_le.mpr (Int.lt_iff_add_one_le.mpr htwo))
    · refine banHolds_of_keptOut ⟨_, hlookup, .inr ⟨?_, rfl, hfails.symm ▸ hreached⟩⟩
      exact mul_le_mul_of_nonneg_right hshort (by decide)
    · exact banHolds_of_keptOut ⟨_, hlookup, .inl hdate⟩

/-- One failure is the limit, the ban is two minutes, and the address is back after one. -/
theorem firstFailure_ban_ends :
    1 ≤ (((init 10 1 120).afterAll []).recordAuthFailure 0 [10]).failures [10] ∧
      ¬((init 10 1 120).afterAll []).BanHolds 0 [10] := by
  refine ⟨by decide, fun h ↦ ?_⟩
  have hback : ((((init 10 1 120).afterAll []).recordAuthFailure 0 [10]).afterAll
      []).checkAuthRate (60 * oneSecond) [10] = true := by decide
  have hout := h [] (60 * oneSecond) .nil (fun _ hcall ↦ absurd hcall List.not_mem_nil) (by decide)
    (by decide)
  rw [hback] at hout
  cases hout

end RateLimiter

end LanProxyGateway
