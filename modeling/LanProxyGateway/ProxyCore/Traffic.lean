import LanProxyGateway.ProxyCore.Frame
import LanProxyGateway.ProxyCore.Metering

/-!
# Is the traffic counted?

`bytes_billed` says what the four sums of the metrics come to: in every reachable state each of them
is what the closed sessions of that route had read in that direction when they were closed.

What has been read need not have been delivered. `billed_delivered` bounds the difference: a session
is never billed for less than it had sent on when it was closed, nor for more than one buffer on top
of it, in each direction.

Both are about handlers that run one at a time. Where the two relay chains of a session fail on two
threads at once, each of them may add the bytes before either takes the mark of the tunnel off.
-/

open Foundation ByteString

namespace LanProxyGateway

/-! ## What a session is billed for -/

def Call.isClose : Call → Bool
  | .close _ => true
  | _ => false

theorem Call.isClose_iff {x : Call} : x.isClose = true ↔ ∃ reason, x = .close reason := by
  unfold isClose
  split <;> simp_all

theorem Call.isClose_recorded (p : Pending) (c : Completion) :
    ∀ x ∈ recorded p c, x.isClose = false := by
  rw [recorded.eq_def]
  split <;> simp [isClose]

theorem arrived_of_failure {c : Completion} (hc : c.isFailure) (p : Pending) (side : Side) :
    arrived p c side = 0 := by
  unfold arrived
  split
  · exact hc.elim
  · rfl

/-- Nothing is received by a failure. -/
theorem receivedOn_recorded_of_failure {c : Completion} (hc : c.isFailure) (p : Pending)
    (side : Side) : receivedOn side (recorded p c) = [] := by
  rw [recorded.eq_def]
  split
  · exact hc.elim
  · exact hc.elim
  · rfl
  · rfl

namespace Session

/-- What was relayed before the session was closed for the first time. -/
def untilClosed (s : Session) : List Call := s.relayed.takeWhile fun x ↦ !x.isClose

/-- The part of a sum that is due to the session. -/
def billed (s : Session) (route : SessionRouteAction) (side : Side) : ℕ :=
  if s.isOpen = false ∧ s.routeAction = route then (receivedOn side s.untilClosed).length else 0

/-- An open session has counted what it has relayed, and relays only with its tunnel up; a closed
one has no tunnel. -/
structure Tallied (s : Session) : Prop where
  unclosed : s.isOpen = true → ∀ x ∈ s.trace, x.isClose = false
  counted : s.isOpen = true → ∀ side, s.counted side = (receivedOn side s.relayed).length
  tunnel : s.isOpen = true →
    s.tunnelActive = true ∨ s.relayed = [] ∧ ∀ q ∈ s.pending, q.isTunnelReply = false
  closed : s.isOpen = false → s.tunnelActive = false ∧
    (s.relayed ≠ [] → ∃ x ∈ s.relayed, x.isClose = true)

theorem billed_of_open {s : Session} (h : s.isOpen = true) (route : SessionRouteAction)
    (side : Side) : s.billed route side = 0 := by
  refine if_neg fun hs ↦ ?_
  rw [h] at hs
  cases hs.1

/-- What happens after the session has been closed is not billed. -/
theorem untilClosed_append {s t : Session} {calls : List Call}
    (hclosed : ∃ x ∈ s.relayed, x.isClose = true) (ht : t.relayed = s.relayed ++ calls) :
    t.untilClosed = s.untilClosed := by
  rw [untilClosed, ht, List.takeWhile_append, if_neg, untilClosed]
  obtain ⟨x, hx, hclose⟩ := hclosed
  intro hlen
  have hall := List.takeWhile_eq_self_iff.mp
    ((List.takeWhile_prefix _).eq_of_length hlen) x hx
  rw [hclose] at hall
  exact Bool.false_ne_true hall

/-- What happens until then is. -/
theorem untilClosed_close {s t : Session} {calls : List Call} {reason : Text}
    (hopen : ∀ x ∈ s.relayed ++ calls, x.isClose = false)
    (ht : t.relayed = s.relayed ++ (calls ++ [.close reason])) :
    t.untilClosed = s.relayed ++ calls := by
  rw [untilClosed, ht, ← List.append_assoc, List.takeWhile_append_of_pos]
  · exact List.append_nil _
  · intro x hx
    rw [hopen x hx]
    rfl

theorem mem_trace_of_relayed {s : Session} {x : Call} (hx : x ∈ s.relayed) : x ∈ s.trace :=
  (List.dropWhile_sublist _).mem hx

end Session

namespace Session

variable {env : Environment} {s : Session} {g : Gateway} {t : Ctx} {k : ℕ} {p : Pending}
  {c : Completion} {calls : List Call} {ops : List Pending}

/-- Where a session begins and stays open, it has not been closed. -/
theorem isClose_of_started {l : Ledger} (h : Started l t) (hopen : t.self.isOpen = true) :
    ∀ x ∈ t.self.trace, x.isClose = false := by
  have hturned : ∀ {calls}, TurnedAway t calls → ∀ x ∈ t.self.trace, x.isClose = false := by
    intro calls ht
    rw [ht.isOpen] at hopen
    cases hopen
  have hlet : ∀ {result}, LetIn t result → ∀ x ∈ t.self.trace, x.isClose = false := by
    intro result ht
    rw [ht.trace]
    simp [Call.isClose]
  rcases h with ⟨ht, -⟩ | ⟨_, ht, -⟩ | ⟨ht, -⟩ | ⟨_, -, ht, -⟩
  · exact hturned ht
  · exact hturned ht
  · exact hlet ht
  · exact hlet ht

/-- A step that leaves the session closed has not routed it. -/
theorem routeAction_of_closed (hs : s.Orderly) (hp : s.pending[k]? = some p)
    (hhandles : Handles env s g k p c t) (hclosed : t.self.isOpen = false) :
    t.self.routeAction = s.routeAction := by
  rcases hhandles.turns with hsteady | ⟨r, chunk, rfl, rfl, hroutes, hasks⟩
  · exact hsteady.unmoved.action
  · have hlane := hs.closed (hroutes.isOpen.symm.trans hclosed) _ (List.mem_of_getElem? hp)
    exact absurd (Pending.lane_of_isEarly hasks.isEarly.1) hlane

/-- After a step of the handshake nothing has been relayed. -/
theorem relayed_of_handshake (hs : s.Relays) (hp : s.pending[k]? = some p)
    (hlane : p.lane = .handshake)
    (h : Yields env (Reaction env s.clientBuffer s.username p c) ⟨s.resume k p c, g⟩ t calls ops) :
    t.self.relayed = [] ∨ ∃ u, t.self.relayed = [.service u .stream] := by
  have hbefore := hs.not_isStream hp hlane c
  rcases h.allowed.stream_cases hlane with ⟨hcalls, -⟩ | ⟨hcalls, -⟩
  · refine .inr ⟨s.username, ?_⟩
    rw [relayed, h.trace, List.dropWhile_append_of_pos, hcalls]
    · rfl
    · simpa [resume] using hbefore
  · left
    rw [relayed_eq_nil_iff, h.trace]
    exact List.forall_mem_append.mpr ⟨hbefore, hcalls⟩

/-- The trace of the relay grows by what arrives. -/
theorem length_receivedOn_relayed (hs : s.Relays) (hp : s.pending[k]? = some p)
    (h : Yields env (Reaction env s.clientBuffer s.username p c) ⟨s.resume k p c, g⟩ t calls ops)
    (side : Side) : (receivedOn side t.self.relayed).length =
      (receivedOn side s.relayed).length + arrived p c side := by
  have htrace : t.self.trace = s.trace ++ (recorded p c ++ calls) := by
    rw [← List.append_assoc]
    exact h.trace
  by_cases hlane : p.lane = .handshake
  · have hnil := hs.waits ⟨p, List.mem_of_getElem? hp, hlane⟩
    have hquiet : receivedOn side t.self.relayed = [] := by
      rcases relayed_of_handshake hs hp hlane h with hrelayed | ⟨u, hrelayed⟩ <;>
      · rw [hrelayed]
        rfl
    rw [hquiet, hnil, arrived_of_lane hlane]
    rfl
  · have hrelays : s.relayed ≠ [] := hs.runs ⟨p, List.mem_of_getElem? hp, hlane⟩
    rw [(relayed_append hrelays htrace).2, receivedOn_append, List.length_append]
    congr 1
    rcases h.allowed.relay_cases hlane with ⟨side', chunk, rfl, rfl, rfl, -⟩ |
      ⟨side', data, rfl, rfl, rfl, -⟩ | ⟨message, n, reason, rfl, rfl, -⟩
    · rw [recorded, ReadHandler.side_relayRead, arrived]
      cases side <;> cases side' <;> simp [receivedOn, Side.relayRead]
    · rfl
    · have hfail : (Completion.failed message n).isFailure := trivial
      rw [receivedOn_append, receivedOn_recorded_of_failure hfail, arrived_of_failure hfail]
      rfl

/-- What the last moments of an open session leave of its relay. -/
theorem relayed_of_closing (hs : s.Relays) (hopen : ∀ x ∈ s.trace, x.isClose = false)
    (hp : s.pending[k]? = some p) {reason : Text}
    (h : Yields env (Reaction env s.clientBuffer s.username p c) ⟨s.resume k p c, g⟩ t
      [.close reason] ops) :
    s.relayed = [] ∧ t.self.relayed = [] ∨ s.relayed ≠ [] ∧ p.lane ≠ .handshake ∧ c.isFailure ∧
      .close reason ∈ t.self.relayed ∧ t.self.untilClosed = s.relayed ++ recorded p c := by
  have hmem : p ∈ s.pending := List.mem_of_getElem? hp
  have htrace : t.self.trace = s.trace ++ (recorded p c ++ [.close reason]) := by
    rw [← List.append_assoc]
    exact h.trace
  by_cases hnil : s.relayed = []
  · refine .inl ⟨hnil, ?_⟩
    rw [relayed_eq_nil_iff, htrace]
    refine List.forall_mem_append.mpr ⟨relayed_eq_nil_iff.mp hnil,
      List.forall_mem_append.mpr ⟨isStream_recorded p c, ?_⟩⟩
    simp [Call.isStream]
  · have hlane : p.lane ≠ .handshake := fun hlane ↦ hnil (hs.waits ⟨p, hmem, hlane⟩)
    have hfail := (h.allowed.of_close (List.mem_singleton_self _)).2.2.2.resolve_left hlane
    have hrelayed := (relayed_append hnil htrace).2
    refine .inr ⟨hnil, hlane, hfail, ?_, ?_⟩
    · rw [hrelayed]
      simp
    · refine untilClosed_close (List.forall_mem_append.mpr
        ⟨fun x hx ↦ hopen x (mem_trace_of_relayed hx), ?_⟩) hrelayed
      exact Call.isClose_recorded p c

/-- The sums and the bill of a session grow by the same. -/
def Balanced (s : Session) (g : Gateway) (t : Ctx) : Prop :=
  ∀ route side, t.gateway.metrics.bytes route side + s.billed route side =
    g.metrics.bytes route side + t.self.billed route side

section

variable (hs : s.Relays) (ht : s.Tallied) (hp : s.pending[k]? = some p)
  (h : Yields env (Reaction env s.clientBuffer s.username p c) ⟨s.resume k p c, g⟩ t calls ops)

include hs ht hp h

/-- The session stays open. -/
theorem Tallied.react_open
    (hcounts : Counts p c ⟨{ s with pending := s.pending.eraseIdx k }, g⟩ t)
    (hopen : s.isOpen = true) :
    t.self.Tallied ∧ Balanced s g t := by
  have hmem : p ∈ s.pending := List.mem_of_getElem? hp
  have hopen' : t.self.isOpen = true := hcounts.isOpen.trans hopen
  have hcalls : ∀ x ∈ calls, x.isClose = false := by
    rcases h.settles with ⟨hquiet, -, -⟩ | ⟨reason, -, hclosed, -⟩
    · intro x hx
      by_contra hclose
      rw [Bool.not_eq_false, Call.isClose_iff] at hclose
      obtain ⟨reason, rfl⟩ := hclose
      exact hquiet reason hx
    · rw [hopen'] at hclosed
      cases hclosed
  refine ⟨⟨fun _ ↦ ?_, fun _ side ↦ ?_, fun _ ↦ ?_, fun hclosed ↦ ?_⟩, fun route side ↦ ?_⟩
  · rw [h.trace]
    exact List.forall_mem_append.mpr ⟨List.forall_mem_append.mpr
      ⟨ht.unclosed hopen, Call.isClose_recorded p c⟩, hcalls⟩
  · rw [hcounts.counted side, length_receivedOn_relayed hs hp h, ← ht.counted hopen side]
    cases side <;> rfl
  · rcases ht.tunnel hopen with htunnel | ⟨hnil, hreplies⟩
    · left
      rcases hcounts.tunnel with hsame | ⟨-, hup⟩
      · exact hsame.trans htunnel
      · exact hup
    · rcases htunnel : t.self.tunnelActive with _ | _
      · right
        have hlane : p.lane = .handshake := by
          by_contra hne
          exact hs.runs ⟨p, hmem, hne⟩ hnil
        constructor
        · rw [relayed_eq_nil_iff, h.trace]
          refine List.forall_mem_append.mpr ⟨hs.not_isStream hp hlane c, fun x hx ↦ ?_⟩
          by_contra hstream
          rw [Bool.not_eq_false] at hstream
          obtain ⟨v, rfl⟩ := Call.isStream_iff.mp hstream
          obtain ⟨data, failure, rfl, -⟩ := h.allowed.of_stream hx
          exact absurd (hreplies _ hmem).symm Bool.false_ne_true
        · intro q hq
          by_contra hreply
          rw [Bool.not_eq_false] at hreply
          rcases hcounts.replies q hq hreply with hold | hup
          · have hfalse := hreplies q (List.mem_of_mem_eraseIdx hold)
            rw [hreply] at hfalse
            cases hfalse
          · rw [htunnel] at hup
            cases hup
      · exact .inl rfl
  · rw [hopen'] at hclosed
    cases hclosed
  · rw [billed_of_open hopen, billed_of_open hopen', hcounts.sums]

/-- A closed session reads on, or is closed again, and is not billed for it. -/
theorem Tallied.react_closed
    (hhandles : Handles env s g k p c t)
    (hmeters : Counts p c ⟨{ s with pending := s.pending.eraseIdx k }, g⟩ t ∨
      Bills ⟨{ s with pending := s.pending.eraseIdx k }, g⟩ t) (hclosed : s.isOpen = false) :
    t.self.Tallied ∧ Balanced s g t := by
  have hmem : p ∈ s.pending := List.mem_of_getElem? hp
  obtain ⟨htunnel, hclose⟩ := ht.closed hclosed
  have hlane := hs.orderly.closed hclosed p hmem
  have hrelays : s.relayed ≠ [] := hs.runs ⟨p, hmem, hlane⟩
  have htrace : t.self.trace = s.trace ++ (recorded p c ++ calls) := by
    rw [← List.append_assoc]
    exact h.trace
  have hrelayed := (relayed_append hrelays htrace).2
  have hfacts : t.self.isOpen = false ∧ t.self.tunnelActive = false ∧
      t.gateway.metrics.bytes = g.metrics.bytes := by
    rcases hmeters with hcounts | hbills
    · refine ⟨hcounts.isOpen.trans hclosed, ?_, hcounts.sums⟩
      rcases hcounts.tunnel with hsame | ⟨hhandshake, -⟩
      · exact hsame.trans htunnel
      · exact absurd hhandshake hlane
    · refine ⟨hbills.isOpen, hbills.tunnel, funext fun route ↦ funext fun side ↦ ?_⟩
      rw [hbills.sums, share, if_neg, Nat.add_zero]
      rintro ⟨hup, -⟩
      rw [htunnel] at hup
      cases hup
  obtain ⟨hclosed', htunnel', hsums⟩ := hfacts
  have hnotopen : ∀ {P : Prop}, t.self.isOpen = true → P := by
    intro P hopen
    rw [hclosed'] at hopen
    cases hopen
  refine ⟨⟨hnotopen, hnotopen, hnotopen, fun _ ↦ ⟨htunnel', fun _ ↦ ?_⟩⟩, fun route side ↦ ?_⟩
  · obtain ⟨x, hx, hxclose⟩ := hclose hrelays
    refine ⟨x, ?_, hxclose⟩
    rw [hrelayed]
    exact List.mem_append_left _ hx
  · rw [hsums, billed, billed, hclosed, hclosed',
      routeAction_of_closed hs.orderly hp hhandles hclosed',
      untilClosed_append (hclose hrelays) hrelayed]

/-- The session is closed, and billed for what it has read. -/
theorem Tallied.react_closing
    (hhandles : Handles env s g k p c t)
    (hbills : Bills ⟨{ s with pending := s.pending.eraseIdx k }, g⟩ t) (hopen : s.isOpen = true) :
    t.self.Tallied ∧ Balanced s g t := by
  have hmem : p ∈ s.pending := List.mem_of_getElem? hp
  have hclosed := hbills.isOpen
  obtain ⟨reason, rfl⟩ : ∃ reason, calls = [.close reason] := by
    rcases h.settles with ⟨-, hsame, -⟩ | ⟨reason, hcalls, -, -⟩
    · have hopen' : t.self.isOpen = true := hsame.trans hopen
      rw [hclosed] at hopen'
      cases hopen'
    · exact ⟨reason, hcalls⟩
  have hnotopen : ∀ {P : Prop}, t.self.isOpen = true → P := by
    intro P hopen
    rw [hclosed] at hopen
    cases hopen
  -- what the session has relayed, in its trace and by its counters
  have hread : (t.self.relayed ≠ [] → ∃ x ∈ t.self.relayed, x.isClose = true) ∧
      ∀ side, (receivedOn side t.self.untilClosed).length =
        if s.tunnelActive then s.counted side else 0 := by
    rcases relayed_of_closing hs (ht.unclosed hopen) hp h with ⟨hnil, hnil'⟩ |
      ⟨hne, -, hfail, hclose, huntil⟩
    · refine ⟨fun hne ↦ absurd hnil' hne, fun side ↦ ?_⟩
      rw [untilClosed, hnil', ht.counted hopen, hnil]
      split <;> rfl
    · refine ⟨fun _ ↦ ⟨_, hclose, rfl⟩, fun side ↦ ?_⟩
      rw [huntil, receivedOn_append, receivedOn_recorded_of_failure hfail, List.append_nil,
        if_pos ((ht.tunnel hopen).resolve_right fun h ↦ hne h.1), ht.counted hopen]
  refine ⟨⟨hnotopen, hnotopen, hnotopen, fun _ ↦ ⟨hbills.tunnel, hread.1⟩⟩, fun route side ↦ ?_⟩
  rw [billed_of_open hopen, billed, hclosed, hread.2,
    routeAction_of_closed hs.orderly hp hhandles hclosed, hbills.sums, share, Nat.add_zero]
  by_cases hroute : s.routeAction = route
  · simp only [hroute, and_true, if_true]
    cases side <;> rfl
  · simp only [hroute, and_false, if_false]

end

/-- **A step of a session** leaves it tallied, and its bill and the sums in balance. -/
theorem Tallied.react (ht : s.Tallied) (hs : s.Relays) (hp : s.pending[k]? = some p)
    (h : Yields env (Reaction env s.clientBuffer s.username p c) ⟨s.resume k p c, g⟩ t calls ops)
    (hhandles : Handles env s g k p c t)
    (hmeters : Counts p c ⟨{ s with pending := s.pending.eraseIdx k }, g⟩ t ∨
      Bills ⟨{ s with pending := s.pending.eraseIdx k }, g⟩ t) :
    t.self.Tallied ∧ Balanced s g t := by
  rcases hopen : s.isOpen with _ | _
  · exact ht.react_closed hs hp h hhandles hmeters hopen
  · rcases hmeters with hcounts | hbills
    · exact ht.react_open hs hp h hcounts hopen
    · exact ht.react_closing hs hp h hhandles hbills hopen

/-! ## What is under way -/

/-- A relay write carries one buffer; nothing has failed to be written in an open session; and when
the session was closed no more than one buffer was under way in a direction. -/
structure InFlight (s : Session) : Prop where
  fits : ∀ (side : Side) (data : ByteString), .write data side.relayWrite ∈ s.pending →
    data.length ≤ 8192
  unfailed : s.isOpen = true → ∀ side, .writeFailed side ∉ s.relayed
  closed : s.isOpen = false → ∀ side : Side, ∃ rest, rest.length ≤ 8192 ∧
    receivedOn side s.untilClosed = sentOn side.other s.untilClosed ++ rest

/-- In an open session what is under way in a direction is what is being written. -/
theorem InFlight.exists_rest (h : s.InFlight) (hs : s.Relays) (hopen : s.isOpen = true)
    (side : Side) : ∃ rest, rest.length ≤ 8192 ∧
      receivedOn side s.relayed = sentOn side.other s.relayed ++ rest ∧
      ∀ data, .write data side.relayWrite ∈ s.pending → data = rest := by
  by_cases hwriting : ∃ data, .write data side.relayWrite ∈ s.pending
  · obtain ⟨data, hdata⟩ := hwriting
    have hflow := (hs.flows side).writing data hdata
    refine ⟨data, h.fits side data hdata, hflow, fun data' hdata' ↦ ?_⟩
    exact List.append_cancel_left (((hs.flows side).writing data' hdata').symm.trans hflow)
  · rw [not_exists] at hwriting
    refine ⟨[], Nat.zero_le _, ?_, fun data hdata ↦ absurd hdata (hwriting data)⟩
    rw [List.append_nil]
    exact (hs.flows side).resting hwriting (h.unfailed hopen _)

theorem inFlight_of_started {l : Ledger} (h : Started l t) : t.self.InFlight := by
  have hrelayed := relayed_of_started h
  refine ⟨fun side data hdata ↦ ?_, fun _ side ↦ ?_, fun _ side ↦ ⟨[], Nat.zero_le _, ?_⟩⟩
  · exact Pending.noConfusion (pending_of_started h _ hdata)
  · rw [hrelayed]
    exact List.not_mem_nil
  · rw [untilClosed, hrelayed]
    rfl

/-- A relay write that is started carries what has just been read. -/
theorem InFlight.fits_react (hfits : s.InFlight)
    (h : Yields env (Reaction env s.clientBuffer s.username p c) ⟨s.resume k p c, g⟩ t calls ops)
    (side : Side) (data : ByteString) (hdata : .write data side.relayWrite ∈ t.self.pending) :
    data.length ≤ 8192 := by
  rw [h.pending, List.mem_append] at hdata
  rcases hdata with hdata | hdata
  · exact hfits.fits side data (List.mem_of_mem_eraseIdx hdata)
  · have hnot : (Pending.write data side.relayWrite).lane ≠ .handshake :=
      Pending.lane_ne_handshake_iff.mpr ⟨side, .inr ⟨data, rfl⟩⟩
    by_cases hlane : p.lane = .handshake
    · rcases h.allowed.stream_cases hlane with ⟨-, hops⟩ | ⟨-, hops⟩
      · rw [hops] at hdata
        simp at hdata
      · exact absurd (hops _ hdata) hnot
    · rcases h.allowed.relay_cases hlane with ⟨side', chunk, -, -, -, rfl⟩ |
        ⟨side', data', -, -, -, rfl⟩ | ⟨message, n, reason, -, -, rfl⟩
      · obtain ⟨rfl, -⟩ := Pending.write.inj (List.mem_singleton.mp hdata)
        exact chunk.fits
      · simp at hdata
      · exact absurd hdata List.not_mem_nil

/-- While the session stays open, no write of the relay fails. -/
theorem InFlight.unfailed_react (hs : s.Relays) (hflight : s.InFlight)
    (hp : s.pending[k]? = some p) (hopen : s.isOpen = true)
    (h : Yields env (Reaction env s.clientBuffer s.username p c) ⟨s.resume k p c, g⟩ t calls ops)
    (hopen' : t.self.isOpen = true) (side : Side) : .writeFailed side ∉ t.self.relayed := by
  by_cases hlane : p.lane = .handshake
  · rcases relayed_of_handshake hs hp hlane h with hrelayed | ⟨u, hrelayed⟩ <;>
    · rw [hrelayed]
      simp
  · have hrelays : s.relayed ≠ [] := hs.runs ⟨p, List.mem_of_getElem? hp, hlane⟩
    have htrace : t.self.trace = s.trace ++ (recorded p c ++ calls) := by
      rw [← List.append_assoc]
      exact h.trace
    rw [(relayed_append hrelays htrace).2, List.mem_append, not_or]
    refine ⟨hflight.unfailed hopen side, ?_⟩
    rcases h.allowed.relay_cases hlane with ⟨side', chunk, rfl, rfl, rfl, -⟩ |
      ⟨side', data, rfl, rfl, rfl, -⟩ | ⟨message, n, reason, rfl, hclose, -⟩
    · simp [recorded]
    · simp [recorded]
    · rcases h.settles with ⟨hquiet, -, -⟩ | ⟨_, -, hclosed, -⟩
      · exact absurd (hclose ▸ List.mem_singleton_self _) (hquiet reason)
      · rw [hopen'] at hclosed
        cases hclosed

/-- What a failing operation of the relay leaves under way in a direction. -/
theorem exists_rest_of_failure {side : Side} {rest : ByteString} (hc : c.isFailure)
    (hlane : p.lane ≠ .handshake)
    (hflow : receivedOn side s.relayed = sentOn side.other s.relayed ++ rest)
    (hwriting : ∀ data, p = .write data side.relayWrite → data = rest) :
    ∃ rest', rest'.length ≤ rest.length ∧ receivedOn side (s.relayed ++ recorded p c) =
      sentOn side.other (s.relayed ++ recorded p c) ++ rest' := by
  rw [receivedOn_append, receivedOn_recorded_of_failure hc, List.append_nil, sentOn_append, hflow]
  rcases c with _ | _ | _ | _ | ⟨message, n⟩
  case failed =>
    obtain ⟨side', rfl | ⟨data, rfl⟩⟩ := Pending.lane_ne_handshake_iff.mp hlane
    · exact ⟨rest, le_rfl, by simp [recorded, sentOn]⟩
    · rcases side.eq_or_eq_other side' with rfl | rfl
      · obtain rfl := hwriting data rfl
        refine ⟨data.drop n, ?_, ?_⟩
        · rw [List.length_drop]
          exact Nat.sub_le _ _
        · simp [recorded, sentOn]
      · exact ⟨rest, le_rfl, by simp [recorded, sentOn]⟩
  all_goals exact hc.elim

theorem InFlight.react (hs : s.Relays) (ht : s.Tallied) (hflight : s.InFlight)
    (hp : s.pending[k]? = some p)
    (h : Yields env (Reaction env s.clientBuffer s.username p c) ⟨s.resume k p c, g⟩ t calls ops) :
    t.self.InFlight := by
  have hmem : p ∈ s.pending := List.mem_of_getElem? hp
  rcases hopen : s.isOpen with _ | _
  · have hlane := hs.orderly.closed hopen p hmem
    have hrelays : s.relayed ≠ [] := hs.runs ⟨p, hmem, hlane⟩
    have htrace : t.self.trace = s.trace ++ (recorded p c ++ calls) := by
      rw [← List.append_assoc]
      exact h.trace
    have huntil : t.self.untilClosed = s.untilClosed :=
      untilClosed_append ((ht.closed hopen).2 hrelays) (relayed_append hrelays htrace).2
    have hclosed : t.self.isOpen = false := by
      rcases h.settles with ⟨-, hsame, -⟩ | ⟨_, -, hclosed, -⟩
      · exact hsame.trans hopen
      · exact hclosed
    refine ⟨hflight.fits_react h, fun hopen' ↦ ?_, fun _ side ↦ ?_⟩
    · rw [hclosed] at hopen'
      cases hopen'
    · rw [huntil]
      exact hflight.closed hopen side
  · refine ⟨hflight.fits_react h, hflight.unfailed_react hs hp hopen h, fun hclosed side ↦ ?_⟩
    obtain ⟨reason, rfl⟩ : ∃ reason, calls = [.close reason] := by
      rcases h.settles with ⟨-, hsame, -⟩ | ⟨reason, hcalls, -, -⟩
      · have hopen' : t.self.isOpen = true := hsame.trans hopen
        rw [hclosed] at hopen'
        cases hopen'
      · exact ⟨reason, hcalls⟩
    rcases relayed_of_closing hs (ht.unclosed hopen) hp h with ⟨-, hnil⟩ |
      ⟨-, hlane, hfail, -, huntil⟩
    · refine ⟨[], Nat.zero_le _, ?_⟩
      rw [untilClosed, hnil]
      rfl
    · obtain ⟨rest, hlen, hflow, hwriting⟩ := hflight.exists_rest hs hopen side
      obtain ⟨rest', hlen', hflow'⟩ := exists_rest_of_failure hfail hlane hflow
        fun data hdata ↦ hwriting data (hdata ▸ hmem)
      exact ⟨rest', hlen'.trans hlen, huntil ▸ hflow'⟩

end Session

/-! ## The sums -/

namespace World

/-- What the sessions are billed for together. -/
def billed (w : World) (route : SessionRouteAction) (side : Side) : ℕ :=
  (w.sessions.map fun s ↦ s.billed route side).sum

theorem sum_map_set {α : Type} (f : α → ℕ) {l : List α} {i : ℕ} {a : α} (h : l[i]? = some a)
    (b : α) : ((l.set i b).map f).sum + f a = (l.map f).sum + f b := by
  induction l generalizing i with
  | nil => cases h
  | cons x l ih =>
    cases i with
    | zero =>
      obtain rfl := Option.some.inj h
      simp only [List.set_cons_zero, List.map_cons, List.sum_cons]
      omega
    | succ i =>
      have hrest := ih h
      simp only [List.set_cons_succ, List.map_cons, List.sum_cons]
      omega

/-- Since `w₀` the sums have grown by what the sessions are billed for, and no more than a buffer
has been under way in any of them. -/
structure Billing (w₀ w : World) : Prop where
  relays : ∀ s ∈ w.sessions, s.Relays
  tallied : ∀ s ∈ w.sessions, s.Tallied
  inFlight : ∀ s ∈ w.sessions, s.InFlight
  sums : ∀ route side, w.gateway.metrics.bytes route side =
    w₀.gateway.metrics.bytes route side + w.billed route side

theorem Billing.start {w₀ w : World} (hw : Billing w₀ w) {t : Ctx}
    (h : Session.Started w.gateway.ledger t) (hbegins : Session.Unbilled w.gateway t) :
    Billing w₀ ⟨t.gateway, w.sessions ++ [t.self]⟩ := by
  have hrelayed := Session.relayed_of_started h
  have hnew : ∀ {I : Session → Prop}, (∀ s ∈ w.sessions, I s) → I t.self →
      ∀ s ∈ w.sessions ++ [t.self], I s := by
    intro I hI ht s hs
    rcases List.mem_append.mp hs with hs | hs
    · exact hI s hs
    · rw [List.mem_singleton.mp hs]
      exact ht
  refine ⟨hnew hw.relays (Session.relays_of_started h), hnew hw.tallied ?_,
    hnew hw.inFlight (Session.inFlight_of_started h), ?_⟩
  · refine ⟨fun hopen x hx ↦ ?_, fun hopen side ↦ ?_, fun _ ↦ .inr ⟨hrelayed, fun q hq ↦ ?_⟩,
      fun _ ↦ ⟨hbegins.tunnel, fun hne ↦ absurd hrelayed hne⟩⟩
    · exact Session.isClose_of_started h hopen x hx
    · rw [hbegins.counted hopen, hrelayed]
      rfl
    · rw [Session.pending_of_started h q hq]
      rfl
  · intro route side
    have hzero : t.self.billed route side = 0 := by
      rw [Session.billed, Session.untilClosed, hrelayed]
      split <;> rfl
    rw [hbegins.sums, hw.sums, billed, billed, List.map_append, List.sum_append, List.map_singleton,
      List.sum_singleton, hzero, Nat.add_zero]

/-- **One step** keeps the bills in order. -/
theorem Billing.step {w₀ w t : World} {e : Event} (hw : Billing w₀ w) (ht : w.step e = .ok t) :
    Billing w₀ t := by
  rcases step_cases ht with rfl | ⟨env, a, c, rfl, hstart, rfl⟩ |
    ⟨i, k, completion, env, s, p, m, c, rfl, hs, hp, hm, hrun, rfl⟩
  · exact hw
  · have hstarted := wp_of_ok (Session.start_starts a w.gateway) hstart
    have hunbilled := wp_of_ok (Session.start_unbilled a w.gateway) hstart
    exact hw.start hstarted hunbilled
  · obtain ⟨calls, ops, hy⟩ := wp_of_ok (Session.dispatch_reacts hm _) hrun
    have hturns := wp_of_ok (Session.dispatch_turns hm _) hrun
    have hhandles : Session.Handles env s w.gateway k p completion c := by
      refine ⟨hturns, ?_⟩
      rintro rfl
      exact wp_of_ok (Session.dispatch_greets hm _) hrun
    have hmeters := wp_of_ok (Session.dispatch_metered hm _) hrun
    have hmem : s ∈ w.sessions := List.mem_of_getElem? hs
    obtain ⟨htallied, hbalanced⟩ :=
      (hw.tallied s hmem).react (hw.relays s hmem) hp hy hhandles hmeters
    have hset : ∀ {I : Session → Prop}, (∀ s ∈ w.sessions, I s) → I c.self →
        ∀ s ∈ w.sessions.set i c.self, I s := by
      intro I hI hc s' hs'
      rcases List.mem_or_eq_of_mem_set hs' with hs' | rfl
      · exact hI s' hs'
      · exact hc
    refine ⟨hset hw.relays ((hw.relays s hmem).react hp hy), hset hw.tallied htallied,
      hset hw.inFlight ((hw.inFlight s hmem).react (hw.relays s hmem) (hw.tallied s hmem) hp hy),
      ?_⟩
    intro route side
    have hstep := hbalanced route side
    have hsum := sum_map_set (fun s ↦ s.billed route side) hs c.self
    rw [hw.sums, billed] at hstep
    show c.gateway.metrics.bytes route side = _ + ((w.sessions.set i c.self).map _).sum
    omega

theorem billing {w₀ w : World} (hw : Reachable step w₀ w) (h₀ : w₀.sessions = []) :
    Billing w₀ w := by
  have hnone : ∀ {I : Session → Prop}, ∀ s ∈ w₀.sessions, I s := by
    rw [h₀]
    exact fun s hs ↦ absurd hs List.not_mem_nil
  refine hw.induction (I := Billing w₀) ⟨hnone, hnone, hnone, fun route side ↦ ?_⟩
    fun w e t hI ht ↦ hI.step ht
  rw [billed, h₀]
  rfl

/-- **The traffic is counted.** From a proxy without sessions, and with handlers that run one at a
time, each of the four sums has grown by what the closed sessions of its route had read in its
direction when they were closed. -/
theorem bytes_billed {w₀ w : World} (hw : Reachable step w₀ w) (h₀ : w₀.sessions = [])
    (route : SessionRouteAction) (side : Side) : w.gateway.metrics.bytes route side =
      w₀.gateway.metrics.bytes route side + (w.sessions.map fun s ↦ s.billed route side).sum :=
  (billing hw h₀).sums route side

/-- **Counted is delivered, up to a buffer.** With handlers that run one at a time, what a closed
session had sent on when it was closed
is a beginning of what it had read, and it is billed for no less, and for at most one buffer
more. -/
theorem billed_delivered {w₀ w : World} (hw : Reachable step w₀ w) (h₀ : w₀.sessions = [])
    {s : Session} (hs : s ∈ w.sessions) (hclosed : s.isOpen = false) (side : Side) :
    sentOn side.other s.untilClosed <+: receivedOn side s.untilClosed ∧
      (sentOn side.other s.untilClosed).length ≤ s.billed s.routeAction side ∧
      s.billed s.routeAction side ≤ (sentOn side.other s.untilClosed).length + 8192 := by
  obtain ⟨rest, hlen, hrest⟩ := ((billing hw h₀).inFlight s hs).closed hclosed side
  have hbilled : s.billed s.routeAction side =
      (sentOn side.other s.untilClosed).length + rest.length := by
    rw [Session.billed, if_pos ⟨hclosed, rfl⟩, hrest, List.length_append]
  refine ⟨?_, ?_, ?_⟩
  · rw [hrest]
    exact List.prefix_append _ _
  · omega
  · omega

/-- The client of a direct tunnel sends three bytes, of which two arrive before the target goes. -/
def meteredRun : List Event :=
  relayRun ++ [.complete 0 0 (.received ⟨[1, 2, 3], by decide, by decide⟩)
      (sampleEnvironment .direct),
    .complete 0 1 (.failed (.lit "Broken pipe") 2) (sampleEnvironment .direct)]

theorem meteredRun_bytes_billed : ∃ w, run step {} meteredRun = .ok w ∧
    w.gateway.metrics.bytes .direct .client = 3 ∧
    (w.sessions.map fun s ↦ s.billed .direct .client).sum = 3 := by
  have hrun : (run step {} meteredRun).toOption.map
      (fun w ↦ w.gateway.metrics.bytes .direct .client) = some 3 := by decide +kernel
  obtain ⟨w, hw, hbytes⟩ := exists_run_of_observation hrun
  have hsum := bytes_billed ⟨meteredRun, hw⟩ rfl .direct .client
  have hzero : ({} : World).gateway.metrics.bytes .direct .client = 0 := rfl
  rw [hbytes, hzero, Nat.zero_add] at hsum
  exact ⟨w, hw, hbytes, hsum.symm⟩

theorem meteredRun_billed_delivered : ∃ w s, run step {} meteredRun = .ok w ∧ s ∈ w.sessions ∧
    sentOn .remote s.untilClosed = [1, 2] ∧ s.billed s.routeAction .client ≤ 2 + 8192 := by
  have hrun : (run step {} meteredRun).toOption.map (fun w ↦ w.sessions.map fun s ↦
      (s.isOpen, sentOn .remote s.untilClosed)) = some [(false, [1, 2])] := by decide +kernel
  obtain ⟨w, hw, hobs⟩ := exists_run_of_observation hrun
  obtain ⟨s, hs, hsession⟩ := List.map_eq_singleton_iff.mp hobs
  obtain ⟨hclosed, hsent⟩ := Prod.mk.inj hsession
  have hmem : s ∈ w.sessions := hs ▸ List.mem_singleton_self s
  have hle := (billed_delivered ⟨meteredRun, hw⟩ rfl hmem hclosed .client).2.2
  rw [show Side.other .client = .remote from rfl, hsent] at hle
  exact ⟨w, s, hw, hmem, hsent, hle⟩

end World

end LanProxyGateway
