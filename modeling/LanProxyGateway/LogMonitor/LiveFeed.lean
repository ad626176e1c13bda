import LanProxyGateway.LogMonitor.StructuredLogger
import Mathlib.Data.Finset.Insert

/-!
# The live feed

A thread that logs puts its entry into the memory under one lock and hands it to the broadcast under
another, where `ws_handler` sends it to every connection there is. Between the two other threads may
log, and connections come and go.

Whatever they do, a connection that stays open is sent what each thread logs, in the order in which
the thread logs it, nothing twice and nothing left out but the entry that the thread has in hand
(`feed_complete`); the memory has the entries of all threads in the order of the first lock
(`memory_eq`).
-/

open Foundation ByteString

namespace LanProxyGateway

/-- The logger, the threads that are in a call of it, and the connections. Threads and connections
are numbered. -/
structure LiveFeed where
  logger : StructuredLogger := {}
  /-- `m_connections`. -/
  connections : Finset ℕ := ∅
  /-- The entry of a thread that is in the memory and has not been broadcast. -/
  inHand : ℕ → Option LogRecord := fun _ ↦ none
  /-- All that has come into the memory, and from which thread. -/
  recorded : List (ℕ × LogRecord) := []
  /-- All that a connection has been sent. -/
  sent : ℕ → List (ℕ × LogRecord) := fun _ ↦ []

namespace LiveFeed

inductive Event
  /-- `info`, `warn` or `error`, up to `add_memory_entry`. -/
  | log (thread : ℕ) (r : LogRecord)
  /-- The rest of such a call. -/
  | broadcast (thread : ℕ)
  /-- `main` sets the callback. -/
  | broadcastCallback
  | onOpen (conn : ℕ)
  | onClose (conn : ℕ)

/-- A thread that is in a call does not begin another, and an exception ends the call. -/
def log (s : LiveFeed) (thread : ℕ) (r : LogRecord) : LiveFeed :=
  match s.inHand thread, s.logger.log r with
  | none, .ok logger => { s with
      logger := logger
      inHand := Function.update s.inHand thread (some r)
      recorded := s.recorded ++ [(thread, r)] }
  | _, _ => s

/-- `ws_handler::broadcast`. -/
def sendText (s : LiveFeed) (message : ℕ × LogRecord) : LiveFeed :=
  { s with sent := fun conn ↦
      if conn ∈ s.connections then s.sent conn ++ [message] else s.sent conn }

def broadcast (s : LiveFeed) (thread : ℕ) : LiveFeed :=
  match s.inHand thread with
  | none => s
  | some r =>
    let t := { s with inHand := Function.update s.inHand thread none }
    if s.logger.broadcastCb then t.sendText (thread, r) else t

def next (s : LiveFeed) : Event → LiveFeed
  | .log thread r => s.log thread r
  | .broadcast thread => s.broadcast thread
  | .broadcastCallback => { s with logger := s.logger.broadcastCallback }
  | .onOpen conn => { s with connections := insert conn s.connections }
  | .onClose conn => { s with connections := s.connections.erase conn }

def step (s : LiveFeed) (e : Event) : Except Empty LiveFeed := .ok (s.next e)

/-- The entries of one thread. -/
def ofThread (i : ℕ) (l : List (ℕ × LogRecord)) : List LogRecord :=
  (l.filter (·.1 = i)).map (·.2)

@[simp] theorem ofThread_append (i : ℕ) (l l' : List (ℕ × LogRecord)) :
    ofThread i (l ++ l') = ofThread i l ++ ofThread i l' := by
  rw [ofThread, List.filter_append, List.map_append]
  rfl

@[simp] theorem ofThread_self (i : ℕ) (r : LogRecord) : ofThread i [(i, r)] = [r] := by
  simp [ofThread]

theorem ofThread_of_ne {i j : ℕ} (h : j ≠ i) (r : LogRecord) : ofThread i [(j, r)] = [] := by
  simp [ofThread, h]

/-! ## One step -/

/-- What a step adds: entries of a thread come in behind those in hand, and go out in front. -/
structure Passes (s t : LiveFeed) (conn i : ℕ) (recorded sent : List LogRecord) : Prop where
  comesIn : ofThread i t.recorded = ofThread i s.recorded ++ recorded
  goesOut : ofThread i (t.sent conn) = ofThread i (s.sent conn) ++ sent
  order : (s.inHand i).toList ++ recorded = sent ++ (t.inHand i).toList

theorem passes_of_eq {s t : LiveFeed} {conn i : ℕ} (hrecorded : t.recorded = s.recorded)
    (hsent : ofThread i (t.sent conn) = ofThread i (s.sent conn))
    (hhand : t.inHand i = s.inHand i) :
    Passes s t conn i [] [] where
  comesIn := by rw [hrecorded, List.append_nil]
  goesOut := by rw [hsent, List.append_nil]
  order := by rw [hhand, List.append_nil, List.nil_append]

theorem Passes.trans {s t u : LiveFeed} {conn i : ℕ}
    {recorded recorded' sent sent' : List LogRecord} (h : Passes s t conn i recorded sent)
    (h' : Passes t u conn i recorded' sent') :
    Passes s u conn i (recorded ++ recorded') (sent ++ sent') where
  comesIn := by rw [h'.comesIn, h.comesIn, List.append_assoc]
  goesOut := by rw [h'.goesOut, h.goesOut, List.append_assoc]
  order := by
    rw [← List.append_assoc, h.order, List.append_assoc, h'.order, List.append_assoc]

theorem passes_log (s : LiveFeed) (conn i thread : ℕ) (r : LogRecord) :
    ∃ recorded, Passes s (s.log thread r) conn i recorded [] := by
  unfold log
  split
  case h_1 logger hhand hlog =>
    by_cases hi : thread = i
    · subst hi
      refine ⟨[r], ⟨?_, ?_, ?_⟩⟩
      · rw [ofThread_append, ofThread_self]
      · rw [List.append_nil]
      · simp [hhand]
    · refine ⟨[], ⟨?_, ?_, ?_⟩⟩
      · rw [ofThread_append, ofThread_of_ne hi]
      · rw [List.append_nil]
      · simp [Function.update_of_ne (Ne.symm hi)]
  case h_2 => exact ⟨[], passes_of_eq rfl rfl rfl⟩

theorem passes_broadcast {s : LiveFeed} {conn : ℕ} (hopen : conn ∈ s.connections)
    (hcb : s.logger.broadcastCb = true) (i thread : ℕ) :
    ∃ sent, Passes s (s.broadcast thread) conn i [] sent := by
  unfold broadcast
  split
  case h_1 => exact ⟨[], passes_of_eq rfl rfl rfl⟩
  case h_2 r hhand =>
    rw [if_pos hcb]
    have hsent : ({ s with inHand := Function.update s.inHand thread none }.sendText
        (thread, r)).sent conn = s.sent conn ++ [(thread, r)] := if_pos hopen
    by_cases hi : thread = i
    · subst hi
      refine ⟨[r], ⟨(List.append_nil _).symm, ?_, ?_⟩⟩
      · rw [hsent, ofThread_append, ofThread_self]
      · simp [sendText, hhand]
    · refine ⟨[], passes_of_eq rfl ?_ ?_⟩
      · rw [hsent, ofThread_append, ofThread_of_ne hi, List.append_nil]
      · exact Function.update_of_ne (Ne.symm hi) _ _

theorem passes_next {s : LiveFeed} {conn : ℕ} (hopen : conn ∈ s.connections)
    (hcb : s.logger.broadcastCb = true) (i : ℕ) (e : Event) :
    ∃ recorded sent, Passes s (s.next e) conn i recorded sent := by
  cases e with
  | log thread r =>
    obtain ⟨recorded, h⟩ := passes_log s conn i thread r
    exact ⟨recorded, [], h⟩
  | broadcast thread =>
    obtain ⟨sent, h⟩ := passes_broadcast hopen hcb i thread
    exact ⟨[], sent, h⟩
  | broadcastCallback => exact ⟨[], [], passes_of_eq rfl rfl rfl⟩
  | onOpen conn => exact ⟨[], [], passes_of_eq rfl rfl rfl⟩
  | onClose conn => exact ⟨[], [], passes_of_eq rfl rfl rfl⟩

/-- Only its own closing takes a connection out, and nothing takes the callback away. -/
theorem stays_next {s : LiveFeed} {conn : ℕ} (hopen : conn ∈ s.connections)
    (hcb : s.logger.broadcastCb = true) {e : Event} (he : e ≠ .onClose conn) :
    conn ∈ (s.next e).connections ∧ (s.next e).logger.broadcastCb = true := by
  cases e with
  | log thread r =>
    rw [next, log, StructuredLogger.log]
    split
    case h_1 logger _ hlog =>
      refine ⟨hopen, ?_⟩
      split at hlog
      · obtain rfl := Except.ok.inj hlog
        rwa [StructuredLogger.broadcastCb_addMemoryEntry]
      · cases hlog
    case h_2 => exact ⟨hopen, hcb⟩
  | broadcast thread =>
    rw [next, broadcast]
    split
    · exact ⟨hopen, hcb⟩
    · split
      · exact ⟨hopen, hcb⟩
      · exact ⟨hopen, hcb⟩
  | broadcastCallback => exact ⟨hopen, rfl⟩
  | onOpen other => exact ⟨Finset.mem_insert_of_mem hopen, hcb⟩
  | onClose other =>
    refine ⟨Finset.mem_erase.mpr ⟨?_, hopen⟩, hcb⟩
    rintro rfl
    exact he rfl

/-! ## Runs -/

/-- **The feed is complete.** While a connection is open, what a thread had in hand and what it has
logged since is what the connection has been sent of it since, and what the thread has in hand. -/
theorem feed_complete {s t : LiveFeed} {conn : ℕ} (hopen : conn ∈ s.connections)
    (hcb : s.logger.broadcastCb = true) {es : List Event} (hes : .onClose conn ∉ es)
    (ht : run step s es = .ok t) (i : ℕ) :
    ∃ recorded sent, ofThread i t.recorded = ofThread i s.recorded ++ recorded ∧
      ofThread i (t.sent conn) = ofThread i (s.sent conn) ++ sent ∧
      (s.inHand i).toList ++ recorded = sent ++ (t.inHand i).toList := by
  suffices h : ∃ recorded sent, Passes s t conn i recorded sent by
    obtain ⟨recorded, sent, h⟩ := h
    exact ⟨recorded, sent, h.comesIn, h.goesOut, h.order⟩
  induction es generalizing s with
  | nil =>
    obtain rfl := Except.ok.inj ht
    exact ⟨[], [], passes_of_eq rfl rfl rfl⟩
  | cons e es ih =>
    rw [List.mem_cons, not_or] at hes
    obtain ⟨hopen', hcb'⟩ := stays_next hopen hcb (Ne.symm hes.1)
    obtain ⟨recorded, sent, hfirst⟩ := passes_next hopen hcb i e
    obtain ⟨recorded', sent', hrest⟩ := ih hopen' hcb' hes.2 ht
    exact ⟨_, _, hfirst.trans hrest⟩

/-- **The memory**, in every reachable state. -/
theorem memory_eq {s : LiveFeed} (hs : Reachable step {} s) :
    s.logger.memoryBuffer.entries = (s.recorded.map (·.2)).rtake maxMemoryEntries := by
  refine hs.induction (I := fun s ↦ s.logger.memoryBuffer.entries =
    (s.recorded.map (·.2)).rtake maxMemoryEntries) rfl ?_
  rintro s e t hs ht
  obtain rfl := Except.ok.inj ht
  cases e with
  | log thread r =>
    rw [next, log, StructuredLogger.log]
    split
    case h_1 logger _ hlog =>
      split at hlog
      · obtain rfl := Except.ok.inj hlog
        rw [StructuredLogger.entries_addMemoryEntry, hs, rtake_rtake_append, List.map_append]
        rfl
      · cases hlog
    case h_2 => exact hs
  | broadcast thread =>
    rw [next, broadcast]
    split
    · exact hs
    · split
      · exact hs
      · exact hs
  | broadcastCallback => exact hs
  | onOpen conn => exact hs
  | onClose conn => exact hs

/-- The callback is set and one connection is open. -/
def watched : LiveFeed where
  logger := { broadcastCb := true }
  connections := {0}

def sampleRecord (msg : String) : LogRecord where
  ts := 0
  level := .info
  moduleName := ofString "main"
  msg := ofString msg

/-- Two threads log, and broadcast in the other order. -/
def crossedCalls : List Event :=
  [.log 0 (sampleRecord "a"), .log 1 (sampleRecord "b"), .broadcast 1, .broadcast 0,
    .log 0 (sampleRecord "c")]

theorem crossedCalls_feed_complete : ∃ t recorded sent, run step watched crossedCalls = .ok t ∧
    ofThread 0 t.recorded = recorded ∧ ofThread 0 (t.sent 0) = sent ∧
    recorded = sent ++ (t.inHand 0).toList := by
  obtain ⟨t, ht⟩ : ∃ t, run step watched crossedCalls = .ok t := ⟨_, rfl⟩
  have hopen : 0 ∈ watched.connections := Finset.mem_singleton_self 0
  have hes : Event.onClose 0 ∉ crossedCalls := by simp [crossedCalls]
  obtain ⟨recorded, sent, hrecorded, hsent, horder⟩ := feed_complete hopen rfl hes ht 0
  exact ⟨t, recorded, sent, ht, hrecorded, hsent, horder⟩

end LiveFeed

end LanProxyGateway
