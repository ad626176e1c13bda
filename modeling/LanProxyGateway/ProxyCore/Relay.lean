import LanProxyGateway.ProxyCore.Lifecycle

/-!
# The relay

When the success reply has been written to the client, a session relays: two chains, one for each
direction, alternate between a read on one side and a write of what was read to the other. `Flows`
says that a chain passes everything on: what was received on its side since then is what was sent on
the other, and what is being written. It holds in every session of every reachable state (`relays`).
-/

open Foundation ByteString

namespace LanProxyGateway

/-! ## The bytes in a trace -/

/-- The other socket. -/
def Side.other : Side → Side
  | .client => .remote
  | .remote => .client

/-- The read of the relay on a side. -/
def Side.relayRead : Side → ReadHandler
  | .client => .relayClient
  | .remote => .relayRemote

/-- The write to the other side that follows it. -/
def Side.relayWrite : Side → WriteHandler
  | .client => .relayRemote
  | .remote => .relayClient

/-- The direction of the relay that begins at a side. -/
def Side.lane : Side → Lane
  | .client => .up
  | .remote => .down

/-- The bytes received on a side. -/
def receivedOn (side : Side) (calls : List Call) : ByteString :=
  calls.flatMap fun
    | .received side' bytes => if side' = side then bytes else []
    | _ => []

/-- The bytes sent on a side. -/
def sentOn (side : Side) (calls : List Call) : ByteString :=
  calls.flatMap fun
    | .sent side' bytes => if side' = side then bytes else []
    | _ => []

theorem receivedOn_append (side : Side) (calls calls' : List Call) :
    receivedOn side (calls ++ calls') = receivedOn side calls ++ receivedOn side calls' :=
  List.flatMap_append

theorem sentOn_append (side : Side) (calls calls' : List Call) :
    sentOn side (calls ++ calls') = sentOn side calls ++ sentOn side calls' :=
  List.flatMap_append

/-- The beginning of the relay. -/
def Call.isStream : Call → Bool
  | .service _ .stream => true
  | _ => false

theorem Call.isStream_iff {x : Call} : x.isStream = true ↔ ∃ u, x = .service u .stream := by
  unfold isStream
  split <;> simp_all

namespace Session

/-- What happened before the relay. -/
def prelude (s : Session) : List Call := s.trace.takeWhile fun x ↦ !x.isStream

/-- What has happened since the relay began. -/
def relayed (s : Session) : List Call := s.trace.dropWhile fun x ↦ !x.isStream

theorem prelude_append_relayed (s : Session) : s.prelude ++ s.relayed = s.trace :=
  List.takeWhile_append_dropWhile

/-- In the relay the trace grows at its end. -/
theorem relayed_append {s t : Session} {calls : List Call} (hs : s.relayed ≠ [])
    (ht : t.trace = s.trace ++ calls) :
    t.prelude = s.prelude ∧ t.relayed = s.relayed ++ calls := by
  rw [relayed, ← List.isEmpty_eq_false_iff] at hs
  have hrelayed : t.relayed = s.relayed ++ calls := by
    rw [relayed, ht, List.dropWhile_append, hs]
    rfl
  refine ⟨?_, hrelayed⟩
  have htrace := t.prelude_append_relayed
  rw [hrelayed, ht, ← s.prelude_append_relayed, ← List.append_assoc] at htrace
  exact List.append_cancel_right (List.append_cancel_right htrace)

/-- Before the relay everything is part of the prelude. -/
theorem prelude_of_relayed {s : Session} (hs : s.relayed = []) : s.prelude = s.trace := by
  have htrace := s.prelude_append_relayed
  rwa [hs, List.append_nil] at htrace

theorem relayed_eq_nil_iff {s : Session} : s.relayed = [] ↔ ∀ x ∈ s.trace, x.isStream = false := by
  rw [relayed, List.dropWhile_eq_nil_iff]
  simp

end Session

@[simp] theorem Side.other_other (side : Side) : side.other.other = side := by
  rcases side with _ | _ <;> rfl

@[simp] theorem Side.other_ne (side : Side) : side.other ≠ side := by
  rcases side with _ | _ <;> decide

@[simp] theorem Side.ne_other (side : Side) : side ≠ side.other := side.other_ne.symm

theorem Side.eq_or_eq_other (side side' : Side) : side' = side ∨ side' = side.other := by
  rcases side with _ | _ <;> rcases side' with _ | _ <;> decide

theorem Side.lane_inj {side side' : Side} : side.lane = side'.lane ↔ side = side' := by
  rcases side with _ | _ <;> rcases side' with _ | _ <;> decide

theorem Side.lane_other_ne (side : Side) : side.other.lane ≠ side.lane := by
  rcases side with _ | _ <;> decide

@[simp] theorem ReadHandler.side_relayRead (side : Side) : side.relayRead.side = side := by
  rcases side with _ | _ <;> rfl

@[simp] theorem WriteHandler.side_relayWrite (side : Side) : side.relayWrite.side = side.other := by
  rcases side with _ | _ <;> rfl

@[simp] theorem Pending.lane_read_relayRead (side : Side) :
    (Pending.read side.relayRead).lane = side.lane := by
  rcases side with _ | _ <;> rfl

@[simp] theorem Pending.lane_write_relayWrite (side : Side) (data : ByteString) :
    (Pending.write data side.relayWrite).lane = side.lane := by
  rcases side with _ | _ <;> rfl

/-! ## What the reactions do -/

theorem Pending.lane_ne_handshake_iff {p : Pending} : p.lane ≠ .handshake ↔
    ∃ side : Side, p = .read side.relayRead ∨ ∃ data, p = .write data side.relayWrite := by
  constructor
  · intro hp
    rw [lane.eq_def] at hp
    split at hp
    · exact ⟨.client, .inl rfl⟩
    · exact ⟨.client, .inr ⟨_, rfl⟩⟩
    · exact ⟨.remote, .inl rfl⟩
    · exact ⟨.remote, .inr ⟨_, rfl⟩⟩
    · exact absurd rfl hp
  · rintro ⟨side, rfl | ⟨data, rfl⟩⟩
    · rcases side with _ | _ <;> decide
    · rcases side with _ | _ <;> exact Lane.noConfusion

namespace Reaction

variable {env : Environment} {b : Buffer} {u u' : ByteString} {p : Pending} {c : Completion}
  {calls : List Call} {ops : List Pending}

/-- An operation of the relay is followed by the next one of its chain, or its failure closes the
session. -/
theorem relay_cases (h : Reaction env b u p c calls ops u') (hp : p.lane ≠ .handshake) :
    (∃ (side : Side) (chunk : Chunk), p = .read side.relayRead ∧ c = .received chunk ∧
      calls = [] ∧ ops = [.write chunk.bytes side.relayWrite]) ∨
    (∃ (side : Side) (data : ByteString), p = .write data side.relayWrite ∧ c = .written ∧
      calls = [] ∧ ops = [.read side.relayRead]) ∨
    ∃ message n reason, c = .failed message n ∧ calls = [.close reason] ∧ ops = [] := by
  cases h with
  | close reason hc =>
    rcases c with _ | _ | _ | _ | ⟨message, n⟩
    case failed => exact .inr (.inr ⟨message, n, reason, rfl, rfl, rfl⟩)
    all_goals exact absurd (hc.resolve_left hp) id
  | refuse data reason hlane => exact absurd hlane hp
  | greetingAgain hh | greeting hh => rcases hh with rfl | rfl <;> exact absurd rfl hp
  | awaitLogin hh | awaitRequest hh => rcases hh with ⟨data, rfl⟩ | rfl <;> exact absurd rfl hp
  | dropped hh =>
    rcases hh with ⟨data, ok, rfl⟩ | ⟨data, rfl⟩
    · exact absurd rfl hp
    · exact absurd rfl hp
  | clientRead chunk => exact .inl ⟨.client, chunk, rfl, rfl, rfl, rfl⟩
  | remoteRead chunk => exact .inl ⟨.remote, chunk, rfl, rfl, rfl, rfl⟩
  | remoteWritten data => exact .inr (.inl ⟨.client, data, rfl, rfl, rfl, rfl⟩)
  | clientWritten data => exact .inr (.inl ⟨.remote, data, rfl, rfl, rfl, rfl⟩)
  | _ => exact absurd rfl hp

/-- The same for the chain of a side. -/
theorem chain_cases (h : Reaction env b u p c calls ops u') {side : Side}
    (hlane : p.lane = side.lane) :
    (∃ chunk : Chunk, p = .read side.relayRead ∧ c = .received chunk ∧ calls = [] ∧
      ops = [.write chunk.bytes side.relayWrite]) ∨
    (∃ data, p = .write data side.relayWrite ∧ c = .written ∧ calls = [] ∧
      ops = [.read side.relayRead]) ∨
    ∃ message n reason, (p = .read side.relayRead ∨ ∃ data, p = .write data side.relayWrite) ∧
      c = .failed message n ∧ calls = [.close reason] ∧ ops = [] := by
  have hnot : p.lane ≠ .handshake := by
    rw [hlane]
    rcases side with _ | _ <;> decide
  rcases h.relay_cases hnot with ⟨side', chunk, rfl, rfl, rfl, rfl⟩ |
    ⟨side', data, rfl, rfl, rfl, rfl⟩ | ⟨message, n, reason, rfl, rfl, rfl⟩
  · obtain rfl : side' = side := Side.lane_inj.mp ((Pending.lane_read_relayRead _).symm.trans hlane)
    exact .inl ⟨chunk, rfl, rfl, rfl, rfl⟩
  · obtain rfl : side' = side :=
      Side.lane_inj.mp ((Pending.lane_write_relayWrite _ _).symm.trans hlane)
    exact .inr (.inl ⟨data, rfl, rfl, rfl, rfl⟩)
  · refine .inr (.inr ⟨message, n, reason, ?_, rfl, rfl, rfl⟩)
    obtain ⟨side', rfl | ⟨data, rfl⟩⟩ := Pending.lane_ne_handshake_iff.mp hnot
    · rw [Pending.lane_read_relayRead, Side.lane_inj] at hlane
      exact .inl (hlane ▸ rfl)
    · rw [Pending.lane_write_relayWrite, Side.lane_inj] at hlane
      exact .inr ⟨data, hlane ▸ rfl⟩

/-- A step of a chain leaves nothing in the trace that is about the other, and starts nothing
there. -/
theorem quiet_other (h : Reaction env b u p c calls ops u') {side : Side}
    (hlane : p.lane = side.lane) : receivedOn side.other (recorded p c ++ calls) = [] ∧
      sentOn side (recorded p c ++ calls) = [] ∧ .writeFailed side ∉ recorded p c ++ calls ∧
      ∀ q ∈ ops, q.lane = side.lane := by
  rcases h.chain_cases hlane with ⟨chunk, rfl, rfl, rfl, rfl⟩ | ⟨data, rfl, rfl, rfl, rfl⟩ |
    ⟨message, n, reason, rfl | ⟨data, rfl⟩, rfl, rfl, rfl⟩
  all_goals simp [recorded, receivedOn, sentOn]

/-- Before the relay an operation is followed by others of the handshake, unless it is the one that
begins the relay. -/
theorem stream_cases (h : Reaction env b u p c calls ops u') (hp : p.lane = .handshake) :
    (calls = [.service u .stream] ∧ ops = [.read .relayClient, .read .relayRemote]) ∨
      ((∀ x ∈ calls, x.isStream = false) ∧ ∀ q ∈ ops, q.lane = .handshake) := by
  have hrouted : ∀ {v : ByteString} {calls ops}, Routed v calls ops →
      (∀ x ∈ calls, x.isStream = false) ∧ ∀ q ∈ ops, q.lane = .handshake := by
    rintro v calls ops (⟨host, port⟩ | ⟨host, port⟩)
    · simp [Call.isStream, Pending.lane]
    · simp [Call.isStream, Pending.lane]
  cases h with
  | stream => exact .inl ⟨rfl, rfl⟩
  | httpAdmitted _ _ _ _ hr =>
    obtain ⟨hcalls, hops⟩ := hrouted hr
    exact .inr ⟨List.forall_mem_cons.mpr ⟨rfl, hcalls⟩, hops⟩
  | request _ hr => exact .inr (hrouted hr)
  | clientRead | remoteRead | remoteWritten | clientWritten => cases hp
  | _ => exact .inr (by simp [Call.isStream, Pending.lane])

/-- The relay begins when the success reply has been written. -/
theorem of_stream (h : Reaction env b u p c calls ops u') {v : ByteString}
    (hv : .service v .stream ∈ calls) :
    ∃ data failure, p = .write data (.tunnelReply failure) ∧ c = .written := by
  have hrouted : ∀ {w : ByteString} {calls ops}, Routed w calls ops →
      Call.service v .stream ∉ calls := by
    rintro w calls ops (⟨host, port⟩ | ⟨host, port⟩) <;> simp
  cases h with
  | stream data failure => exact ⟨data, failure, rfl, rfl⟩
  | httpAdmitted _ _ _ _ hr =>
    rcases List.mem_cons.mp hv with hv | hv
    · cases hv
    · exact absurd hv (hrouted hr)
  | request _ hr => exact absurd hv (hrouted hr)
  | _ => simp at hv

end Reaction

/-! ## The chains -/

namespace Session

/-- What the relay has received on a side it has sent on the other, up to what it is writing. -/
structure Flows (s : Session) (side : Side) : Prop where
  writing : ∀ data, .write data side.relayWrite ∈ s.pending →
    receivedOn side s.relayed = sentOn side.other s.relayed ++ data
  resting : (∀ data, .write data side.relayWrite ∉ s.pending) →
    .writeFailed side.other ∉ s.relayed → receivedOn side s.relayed = sentOn side.other s.relayed
  failed : .writeFailed side.other ∈ s.relayed →
    sentOn side.other s.relayed <+: receivedOn side s.relayed ∧
      ∀ p ∈ s.pending, p.lane ≠ side.lane

/-- A chain never sends what it has not received. -/
theorem Flows.prefix_received {s : Session} {side : Side} (h : s.Flows side) :
    sentOn side.other s.relayed <+: receivedOn side s.relayed := by
  by_cases hfailed : .writeFailed side.other ∈ s.relayed
  · exact (h.failed hfailed).1
  · by_cases hwriting : ∃ data, .write data side.relayWrite ∈ s.pending
    · obtain ⟨data, hdata⟩ := hwriting
      rw [h.writing data hdata]
      exact List.prefix_append _ _
    · rw [not_exists] at hwriting
      rw [h.resting hwriting hfailed]

/-- Nothing has been relayed, and no operation of a chain is under way. -/
theorem flows_of_silent {s : Session} {side : Side} (hreceived : receivedOn side s.relayed = [])
    (hsent : sentOn side.other s.relayed = []) (hfailed : .writeFailed side.other ∉ s.relayed)
    (hwriting : ∀ data, .write data side.relayWrite ∉ s.pending) : s.Flows side where
  writing data hdata := absurd hdata (hwriting data)
  resting _ _ := hreceived.trans hsent.symm
  failed h := absurd h hfailed

/-- A session before and in its relay. -/
structure Relays (s : Session) : Prop where
  orderly : s.Orderly
  waits : (∃ p ∈ s.pending, p.lane = .handshake) → s.relayed = []
  runs : (∃ p ∈ s.pending, p.lane ≠ .handshake) → s.relayed ≠ []
  flows : ∀ side, s.Flows side

variable {env : Environment} {s : Session} {g : Gateway} {t : Ctx} {k : ℕ} {p : Pending}
  {c : Completion} {calls : List Call} {ops : List Pending}

theorem isStream_recorded (p : Pending) (c : Completion) :
    ∀ x ∈ recorded p c, x.isStream = false := by
  rw [recorded.eq_def]
  split <;> simp [Call.isStream]

theorem relayed_of_started {l : Ledger} (h : Started l t) : t.self.relayed = [] := by
  rw [relayed_eq_nil_iff]
  intro x hx
  by_contra hstream
  rw [Bool.not_eq_false, Call.isStream_iff] at hstream
  obtain ⟨u, rfl⟩ := hstream
  exact not_service_of_started h u _ hx

theorem relays_of_started {l : Ledger} (h : Started l t) : t.self.Relays := by
  have hrelayed : t.self.relayed = [] := relayed_of_started h
  refine ⟨orderly_of_started h, fun _ ↦ hrelayed, ?_, fun side ↦ ?_⟩
  · rintro ⟨q, hq, hlane⟩
    rw [pending_of_started h q hq] at hlane
    exact absurd rfl hlane
  · refine flows_of_silent ?_ ?_ ?_ fun data hdata ↦ ?_
    · rw [hrelayed]
      rfl
    · rw [hrelayed]
      rfl
    · rw [hrelayed]
      exact List.not_mem_nil
    · exact Pending.noConfusion (pending_of_started h _ hdata)

/-- Up to the end of a step of the handshake the relay has not begun. -/
theorem Relays.not_isStream (hs : s.Relays) (hp : s.pending[k]? = some p)
    (hlane : p.lane = .handshake) (c : Completion) :
    ∀ x ∈ s.trace ++ recorded p c, x.isStream = false :=
  List.forall_mem_append.mpr
    ⟨relayed_eq_nil_iff.mp (hs.waits ⟨p, List.mem_of_getElem? hp, hlane⟩), isStream_recorded p c⟩

/-- A step of the handshake, which may be the one that begins the relay. -/
theorem Relays.handshake (hs : s.Relays) (hp : s.pending[k]? = some p) (hlane : p.lane = .handshake)
    (h : Yields env (Reaction env s.clientBuffer s.username p c) ⟨s.resume k p c, g⟩ t calls ops) :
    t.self.Relays := by
  have hbefore := hs.not_isStream hp hlane c
  have hpending := hs.orderly.pending_of_handshake hp hlane h
  have htrace : t.self.trace = (s.trace ++ recorded p c) ++ calls := h.trace
  rcases h.allowed.stream_cases hlane with ⟨hcalls, hops⟩ | ⟨hcalls, hops⟩
  · have hrelayed : t.self.relayed = calls := by
      rw [relayed, htrace, List.dropWhile_append_of_pos, hcalls]
      · rfl
      · simpa using hbefore
    rw [hcalls] at hrelayed
    rw [hops] at hpending
    refine ⟨hs.orderly.react hp h, ?_, fun _ ↦ ?_, fun side ↦ ?_⟩
    · rintro ⟨q, hq, hq'⟩
      rw [hpending] at hq
      rcases List.mem_pair.mp hq with rfl | rfl
      · exact absurd hq' (by decide)
      · exact absurd hq' (by decide)
    · rw [hrelayed]
      exact List.cons_ne_nil _ _
    · refine flows_of_silent ?_ ?_ ?_ fun data hdata ↦ ?_
      · rw [hrelayed]
        rfl
      · rw [hrelayed]
        rfl
      · rw [hrelayed]
        simp
      · rw [hpending] at hdata
        simp at hdata
  · have hrelayed : t.self.relayed = [] := by
      rw [relayed_eq_nil_iff, htrace]
      exact List.forall_mem_append.mpr ⟨hbefore, hcalls⟩
    refine ⟨hs.orderly.react hp h, fun _ ↦ hrelayed, ?_, fun side ↦ ?_⟩
    · rintro ⟨q, hq, hq'⟩
      rw [hpending] at hq
      exact absurd (hops q hq) hq'
    · refine flows_of_silent ?_ ?_ ?_ fun data hdata ↦ ?_
      · rw [hrelayed]
        rfl
      · rw [hrelayed]
        rfl
      · rw [hrelayed]
        exact List.not_mem_nil
      · rw [hpending] at hdata
        have hnot : (Pending.write data side.relayWrite).lane ≠ .handshake :=
          Pending.lane_ne_handshake_iff.mpr ⟨side, .inr ⟨data, rfl⟩⟩
        exact hnot (hops _ hdata)

/-- A step of the other chain. -/
theorem Flows.of_other {s t : Session} {side : Side} (h : s.Flows side) {calls : List Call}
    (hrelayed : t.relayed = s.relayed ++ calls) (hreceived : receivedOn side calls = [])
    (hsent : sentOn side.other calls = []) (hfailed : .writeFailed side.other ∉ calls)
    (hpending : ∀ q : Pending, q.lane = side.lane → (q ∈ t.pending ↔ q ∈ s.pending)) :
    t.Flows side := by
  have hreceived' : receivedOn side t.relayed = receivedOn side s.relayed := by
    rw [hrelayed, receivedOn_append, hreceived, List.append_nil]
  have hsent' : sentOn side.other t.relayed = sentOn side.other s.relayed := by
    rw [hrelayed, sentOn_append, hsent, List.append_nil]
  have hfailed' : .writeFailed side.other ∈ t.relayed ↔ .writeFailed side.other ∈ s.relayed := by
    rw [hrelayed, List.mem_append, or_iff_left hfailed]
  have hwriting : ∀ data, .write data side.relayWrite ∈ t.pending ↔
      .write data side.relayWrite ∈ s.pending := fun data ↦
    hpending _ (Pending.lane_write_relayWrite side data)
  refine ⟨fun data hdata ↦ ?_, fun hnone hnot ↦ ?_, fun hf ↦ ?_⟩ <;> rw [hreceived', hsent']
  · exact h.writing data ((hwriting data).mp hdata)
  · exact h.resting (fun data hdata ↦ hnone data ((hwriting data).mpr hdata))
      fun hf ↦ hnot (hfailed'.mpr hf)
  · obtain ⟨hpre, hlane⟩ := h.failed (hfailed'.mp hf)
    exact ⟨hpre, fun q hq hq' ↦ hlane q ((hpending q hq').mp hq) hq'⟩

/-- Nothing has failed where an operation of the chain is under way. -/
theorem Flows.not_failed {s : Session} {side : Side} (h : s.Flows side) {p : Pending}
    (hp : p ∈ s.pending) (hlane : p.lane = side.lane) : .writeFailed side.other ∉ s.relayed :=
  fun hf ↦ (h.failed hf).2 p hp hlane

section

variable {s t : Session} {side : Side} {data : ByteString}

/-- A read hands on what it has received to a write. -/
theorem Flows.read (h : s.Flows side) {chunk : ByteString} (hp : .read side.relayRead ∈ s.pending)
    (hnone : ∀ data, .write data side.relayWrite ∉ s.pending)
    (hrelayed : t.relayed = s.relayed ++ [.received side chunk])
    (hpending : ∀ data, .write data side.relayWrite ∈ t.pending ↔ data = chunk) : t.Flows side := by
  have hnot := h.not_failed hp (Pending.lane_read_relayRead side)
  have hreceived : receivedOn side t.relayed = receivedOn side s.relayed ++ chunk := by
    rw [hrelayed, receivedOn_append]
    simp [receivedOn]
  have hsent : sentOn side.other t.relayed = sentOn side.other s.relayed := by
    rw [hrelayed, sentOn_append]
    simp [sentOn]
  refine ⟨fun data hdata ↦ ?_, fun hwriting ↦ absurd ((hpending chunk).mpr rfl) (hwriting chunk),
    fun hf ↦ ?_⟩
  · rw [hreceived, hsent, h.resting hnone hnot, (hpending data).mp hdata]
  · rw [hrelayed] at hf
    simp [hnot] at hf

/-- A write that arrives is followed by a read. -/
theorem Flows.written (h : s.Flows side) (hp : .write data side.relayWrite ∈ s.pending)
    (hrelayed : t.relayed = s.relayed ++ [.sent side.other data])
    (hnone : ∀ data, .write data side.relayWrite ∉ t.pending) : t.Flows side := by
  have hnot := h.not_failed hp (Pending.lane_write_relayWrite side data)
  have hreceived : receivedOn side t.relayed = receivedOn side s.relayed := by
    rw [hrelayed, receivedOn_append]
    simp [receivedOn]
  have hsent : sentOn side.other t.relayed = sentOn side.other s.relayed ++ data := by
    rw [hrelayed, sentOn_append]
    simp [sentOn]
  refine ⟨fun data hdata ↦ absurd hdata (hnone data), fun _ _ ↦ ?_, fun hf ↦ ?_⟩
  · rw [hreceived, hsent, h.writing data hp]
  · rw [hrelayed] at hf
    simp [hnot] at hf

/-- A read that fails ends the chain with everything passed on. -/
theorem Flows.readFailed (h : s.Flows side) (hp : .read side.relayRead ∈ s.pending)
    (hnone : ∀ data, .write data side.relayWrite ∉ s.pending) {reason : Text}
    (hrelayed : t.relayed = s.relayed ++ [.close reason])
    (hnone' : ∀ data, .write data side.relayWrite ∉ t.pending) : t.Flows side := by
  have hnot := h.not_failed hp (Pending.lane_read_relayRead side)
  have hreceived : receivedOn side t.relayed = receivedOn side s.relayed := by
    rw [hrelayed, receivedOn_append]
    simp [receivedOn]
  have hsent : sentOn side.other t.relayed = sentOn side.other s.relayed := by
    rw [hrelayed, sentOn_append]
    simp [sentOn]
  refine ⟨fun data hdata ↦ absurd hdata (hnone' data), fun _ _ ↦ ?_, fun hf ↦ ?_⟩
  · rw [hreceived, hsent, h.resting hnone hnot]
  · rw [hrelayed] at hf
    simp [hnot] at hf

/-- A write that fails ends the chain, and a part of its bytes may have got across. -/
theorem Flows.writeFailed (h : s.Flows side) (hp : .write data side.relayWrite ∈ s.pending) {n : ℕ}
    {reason : Text} (hrelayed : t.relayed = s.relayed ++
      [.sent side.other (data.take n), .writeFailed side.other, .close reason])
    (hlane : ∀ q ∈ t.pending, q.lane ≠ side.lane) : t.Flows side := by
  have hreceived : receivedOn side t.relayed = receivedOn side s.relayed := by
    rw [hrelayed, receivedOn_append]
    simp [receivedOn]
  have hsent : sentOn side.other t.relayed = sentOn side.other s.relayed ++ data.take n := by
    rw [hrelayed, sentOn_append]
    simp [sentOn]
  refine ⟨fun data' hdata ↦ ?_, fun _ hnot ↦ ?_, fun _ ↦ ⟨?_, hlane⟩⟩
  · exact absurd (Pending.lane_write_relayWrite side data') (hlane _ hdata)
  · rw [hrelayed] at hnot
    simp at hnot
  · rw [hreceived, hsent, h.writing data hp, List.prefix_append_right_inj]
    exact List.take_prefix n data

end

/-- Beside an operation of a chain there is only one of the other chain. -/
theorem Orderly.split (hs : s.Orderly) (hp : s.pending[k]? = some p) :
    (∀ q, q ∈ s.pending ↔ q = p ∨ q ∈ s.pending.eraseIdx k) ∧
      ∀ q ∈ s.pending.eraseIdx k, q.lane ≠ p.lane := by
  obtain ⟨hlt, hget⟩ := List.getElem?_eq_some_iff.mp hp
  refine ⟨fun q ↦ ?_, fun q hq ↦ ?_⟩
  · rw [← (List.getElem_cons_eraseIdx_perm hlt).mem_iff, hget, List.mem_cons]
  · exact ((pairwise_eraseIdx Apart.symm hs.apart hp).2 q hq).1.symm

section

variable {side : Side}

/-- A step of a chain leaves the other as it was. -/
theorem Relays.flows_other (hs : s.Relays) (hp : s.pending[k]? = some p)
    (hlane : p.lane = side.lane) (hpending : t.self.pending = s.pending.eraseIdx k ++ ops)
    (hrelayed : t.self.relayed = s.relayed ++ (recorded p c ++ calls))
    (h : Reaction env s.clientBuffer s.username p c calls ops t.self.username) :
    t.self.Flows side.other := by
  obtain ⟨hreceived, hsent, hfailed, hops⟩ := h.quiet_other hlane
  rw [← side.other_other] at hsent hfailed
  refine (hs.flows side.other).of_other hrelayed hreceived hsent hfailed fun q hq ↦ ?_
  have hne : q.lane ≠ side.lane := hq ▸ side.lane_other_ne
  have hnotop : q ∉ ops := fun hq' ↦ hne (hops q hq')
  have hnotp : q ≠ p := by
    rintro rfl
    exact hne hlane
  rw [hpending, List.mem_append, (hs.orderly.split hp).1, or_iff_left hnotop, or_iff_right hnotp]

/-- What a step of a chain does to that chain. -/
theorem Relays.flows_self (hs : s.Relays) (hp : s.pending[k]? = some p)
    (hlane : p.lane = side.lane) (hpending : t.self.pending = s.pending.eraseIdx k ++ ops)
    (hrelayed : t.self.relayed = s.relayed ++ (recorded p c ++ calls))
    (h : Reaction env s.clientBuffer s.username p c calls ops t.self.username) :
    t.self.Flows side := by
  have hmem : p ∈ s.pending := List.mem_of_getElem? hp
  obtain ⟨hsplit, hrest⟩ := hs.orderly.split hp
  rw [hlane] at hrest
  have hnorest : ∀ data, .write data side.relayWrite ∉ s.pending.eraseIdx k := fun data hdata ↦
    hrest _ hdata (Pending.lane_write_relayWrite side data)
  -- where the chain is reading it is not writing
  have hnone : p = .read side.relayRead → ∀ data, .write data side.relayWrite ∉ s.pending := by
    rintro rfl data hdata
    rcases (hsplit _).mp hdata with heq | hdata
    · exact Pending.noConfusion heq
    · exact hnorest data hdata
  rcases h.chain_cases hlane with ⟨chunk, rfl, rfl, rfl, rfl⟩ | ⟨data, rfl, rfl, rfl, rfl⟩ |
    ⟨message, n, reason, rfl | ⟨data, rfl⟩, rfl, rfl, rfl⟩
  · rw [recorded, ReadHandler.side_relayRead, List.append_nil] at hrelayed
    refine (hs.flows side).read hmem (hnone rfl) hrelayed fun data ↦ ?_
    rw [hpending, List.mem_append, or_iff_right (hnorest data), List.mem_singleton]
    simp
  · rw [recorded, WriteHandler.side_relayWrite, List.append_nil] at hrelayed
    refine (hs.flows side).written hmem hrelayed fun data' ↦ ?_
    rw [hpending, List.mem_append, or_iff_right (hnorest data'), List.mem_singleton]
    simp
  · refine (hs.flows side).readFailed hmem (hnone rfl) hrelayed ?_
    rw [hpending, List.append_nil]
    exact hnorest
  · rw [recorded, WriteHandler.side_relayWrite] at hrelayed
    refine (hs.flows side).writeFailed hmem hrelayed ?_
    rw [hpending, List.append_nil]
    exact hrest

end

/-- A step of the relay. -/
theorem Relays.relay (hs : s.Relays) (hp : s.pending[k]? = some p) (hlane : p.lane ≠ .handshake)
    (h : Yields env (Reaction env s.clientBuffer s.username p c) ⟨s.resume k p c, g⟩ t calls ops) :
    t.self.Relays := by
  have hpending : t.self.pending = s.pending.eraseIdx k ++ ops := h.pending
  have hsplit := (hs.orderly.split hp).1
  have hrelays : s.relayed ≠ [] := hs.runs ⟨p, List.mem_of_getElem? hp, hlane⟩
  have htrace : t.self.trace = s.trace ++ (recorded p c ++ calls) := by
    rw [← List.append_assoc]
    exact h.trace
  have hrelayed := (relayed_append hrelays htrace).2
  refine ⟨hs.orderly.react hp h, ?_, fun _ ↦ ?_, fun side ↦ ?_⟩
  · rintro ⟨q, hq, hq'⟩
    rw [hpending, List.mem_append] at hq
    rcases hq with hq | hq
    · exact absurd (hs.waits ⟨q, (hsplit q).mpr (.inr hq), hq'⟩) hrelays
    · rcases h.allowed.relay_ops hlane with rfl | ⟨r, rfl, hr⟩
      · exact absurd hq List.not_mem_nil
      · rw [List.mem_singleton.mp hq, hr] at hq'
        exact absurd hq' hlane
  · rw [hrelayed]
    exact List.append_ne_nil_of_left_ne_nil hrelays _
  · obtain ⟨side', hside⟩ : ∃ side' : Side, p.lane = side'.lane := by
      obtain ⟨side', rfl | ⟨data, rfl⟩⟩ := Pending.lane_ne_handshake_iff.mp hlane
      · exact ⟨side', Pending.lane_read_relayRead side'⟩
      · exact ⟨side', Pending.lane_write_relayWrite side' data⟩
    rcases side'.eq_or_eq_other side with rfl | rfl
    · exact hs.flows_self hp hside hpending hrelayed h.allowed
    · exact hs.flows_other hp hside hpending hrelayed h.allowed

/-- A step of either. -/
theorem Relays.react (hs : s.Relays) (hp : s.pending[k]? = some p)
    (h : Yields env (Reaction env s.clientBuffer s.username p c) ⟨s.resume k p c, g⟩ t calls ops) :
    t.self.Relays := by
  by_cases hlane : p.lane = .handshake
  · exact hs.handshake hp hlane h
  · exact hs.relay hp hlane h

end Session

namespace World

/-- **The relay passes everything on**, in every session of every reachable state. -/
theorem relays {w₀ w : World} (hw : Reachable step w₀ w) (h₀ : w₀.sessions = []) :
    ∀ s ∈ w.sessions, s.Relays := by
  refine sessions_induction hw h₀ (fun _ _ h ↦ Session.relays_of_started h) ?_
  intro env s g t k p c calls ops hs hp h
  by_cases hlane : p.lane = .handshake
  · exact hs.handshake hp hlane h
  · exact hs.relay hp hlane h

end World

end LanProxyGateway
