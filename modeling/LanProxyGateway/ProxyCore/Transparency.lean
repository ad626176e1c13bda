import LanProxyGateway.Foundation.Framing
import LanProxyGateway.ProxyCore.Destination
import LanProxyGateway.ProxyCore.Relay

/-!
# The tunnel

Before their payload both parties say something to the gateway: the client a handshake and a
request, v2ray a method and a reply. These openings delimit themselves, and the relay begins behind
them. It passes everything on from there (`relays`), so a tunnel loses, adds and moves nothing as
long as the gateway is right about where the openings end.

It takes the bytes of a single read for the end of an opening, however many there are.
`CutsOpenings` says that such a read stops where the opening stops; `tunnel_transparent` says that
then the tunnel is transparent in every state of every run.
-/

open Foundation ByteString

namespace LanProxyGateway

open LanProxy

/-! ## What is said before the payload -/

/-- An address of RFC 1928, behind the byte that tells its type. -/
inductive IsAddress : ByteString → Prop
  | v4 {a : ByteString} (h : a.length = 4) : IsAddress (atypIpv4 :: a)
  | domain {n : UInt8} {a : ByteString} (h : a.length = n.toNat) : IsAddress (atypDomain :: n :: a)
  | v6 {a : ByteString} (h : a.length = 16) : IsAddress (atypIpv6 :: a)

theorem prefixFree_isAddress : PrefixFree IsAddress := by
  intro a b ha hb hab
  cases ha with
  | v4 ha | v6 ha =>
    cases hb with
    | v4 hb | v6 hb =>
      obtain ⟨htype, hrest⟩ := List.cons_prefix_cons.mp hab
      first
        | exact absurd htype (by decide)
        | rw [hrest.eq_of_length (ha.trans hb.symm)]
    | domain hb => exact absurd (List.cons_prefix_cons.mp hab).1 (by decide)
  | domain ha =>
    cases hb with
    | v4 hb | v6 hb => exact absurd (List.cons_prefix_cons.mp hab).1 (by decide)
    | domain hb =>
      obtain ⟨rfl, hrest⟩ := List.cons_prefix_cons.mp (List.cons_prefix_cons.mp hab).2
      rw [hrest.eq_of_length (ha.trans hb.symm)]

/-- A SOCKS5 client: its methods, a login under RFC 1929, and a CONNECT request. -/
def SocksOpening : ByteString → Prop :=
  inSequence [(· = [socksVersion]), counted UInt8.toNat,
    (· = [0x01]), counted UInt8.toNat, counted UInt8.toNat,
    (· = [socksVersion, cmdConnect, 0x00]), IsAddress, fixed 2]

/-- An HTTP client: the head of a CONNECT. -/
def HttpOpening (s : ByteString) : Prop :=
  ofString "CONNECT " <+: s ∧ endedBy (ofString "\r\n\r\n") s

/-- A SOCKS5 server that takes no login and agrees to connect. -/
def ServerOpening : ByteString → Prop :=
  inSequence [(· = [socksVersion, authNone]), (· = [socksVersion, 0x00, 0x00]), IsAddress, fixed 2]

/-- What the party on a side says before its payload. -/
def Opening : Side → ByteString → Prop
  | .client => fun s ↦ SocksOpening s ∨ HttpOpening s
  | .remote => ServerOpening

theorem prefixFree_opening (side : Side) : PrefixFree (Opening side) := by
  have hsocks : PrefixFree SocksOpening := by
    refine prefixFree_inSequence ?_
    simp only [List.forall_mem_cons, prefixFree_eq, prefixFree_counted, prefixFree_isAddress,
      prefixFree_fixed, List.not_mem_nil, IsEmpty.forall_iff, implies_true, and_self]
  have hserver : PrefixFree ServerOpening := by
    refine prefixFree_inSequence ?_
    simp only [List.forall_mem_cons, prefixFree_eq, prefixFree_isAddress, prefixFree_fixed,
      List.not_mem_nil, IsEmpty.forall_iff, implies_true, and_self]
  have hhttp : PrefixFree HttpOpening :=
    (prefixFree_endedBy (ofString "\r\n\r\n")).mono fun a h ↦ h.2
  have hfive : ∀ {a}, SocksOpening a → a.head? = some socksVersion := by
    rintro _ ⟨_, _, rfl, rfl, -⟩
    rfl
  have hletter : ∀ {a}, HttpOpening a → a.head? = some 67 := by
    rintro _ ⟨⟨_, rfl⟩, -⟩
    rfl
  rcases side
  · -- a version or a letter comes first
    refine hsocks.or hhttp (fun a b ha hb ↦ ?_) ⟨fun h ↦ ?_, fun h ↦ ?_⟩
    · rw [hfive ha, hletter hb]
      decide
    · exact absurd (hfive h) (by decide)
    · exact absurd (hletter h) (by decide)
  · exact hserver

/-! ## Where the gateway takes it to end -/

/-- The bytes with which the session takes an opening for finished: those that hold the destination,
and those that are taken for the consent of v2ray. -/
inductive Concludes (env : Environment) (b : Buffer) : ReadHandler → Chunk → Prop
  | asks {r : ReadHandler} {chunk : Chunk} {host : ByteString} {port : UInt16}
    (h : Asks env b r chunk host port) : Concludes env b r chunk
  | accepts {chunk : Chunk} (hlen : 2 ≤ chunk.bytes.length) (h : chunk.bytes[1]? = some 0x00) :
    Concludes env b .v2raynConnect chunk

theorem not_concludes {env : Environment} {b : Buffer} {r : ReadHandler} {chunk : Chunk}
    (hearly : (Pending.read r).isEarly = false) (hr : r ≠ .v2raynConnect) :
    ¬Concludes env b r chunk := by
  rintro (h | -)
  · rw [h.isEarly.1] at hearly
    cases hearly
  · exact hr rfl

/-- Where a read concludes an opening, the bytes received so far stop at the end of the opening. -/
def World.CutsOpenings (w : World) : Event → Prop
  | .complete i k (.received chunk) env => ∀ s r, w.sessions[i]? = some s →
    s.pending[k]? = some (.read r) → Concludes env s.clientBuffer r chunk →
      StopsAt (Opening r.side) (receivedOn r.side s.trace ++ chunk.bytes)
  | _ => True

/-- A connection through v2ray is among the calls. -/
def ThroughV2rayn (calls : List Call) : Prop := ∃ u, .service u .connectViaV2rayn ∈ calls

/-- What a party sends behind its opening reaches the other one as it is, and completely where the
relay runs to its end. -/
def Session.Transparent (s : Session) : Prop :=
  ∀ side, (side = .remote → ThroughV2rayn s.prelude) → ∀ opening payload, Opening side opening →
    receivedOn side s.trace <+: opening ++ payload →
      sentOn side.other s.relayed <+: payload ∧
        (s.relayed ≠ [] → (∀ data, .write data side.relayWrite ∉ s.pending) →
          .writeFailed side.other ∉ s.relayed → receivedOn side s.trace = opening ++ payload →
            sentOn side.other s.relayed = payload)

namespace Session

open SessionM

/-- Nothing follows a reply of v2ray that is not taken for consent. -/
theorem dispatch_unaccepted {env : Environment} {b : Buffer} {c : Completion} {m : SessionM Unit}
    (hm : dispatch env (.read .v2raynConnect) c = some m)
    (hno : ∀ chunk, c = .received chunk → ¬Concludes env b .v2raynConnect chunk) (s : Ctx) :
    wp m (fun _ t ↦ t.self.pending = s.self.pending) (fun _ ↦ True) s := by
  have hclose : ∀ (reason : Text) (s₁ : Ctx), s₁.self.pending = s.self.pending →
      wp (closeSession env reason) (fun _ t ↦ t.self.pending = s.self.pending)
        (fun _ ↦ True) s₁ := by
    intro reason s₁ hs
    have hdoes : Does env (fun _ ops _ ↦ ops = []) s₁ (closeSession env reason) :=
      closeSession_does reason rfl
    refine wp_mono hdoes ?_ fun _ h ↦ h
    rintro _ t ⟨calls, ops, hy⟩
    rw [hy.pending, hy.allowed, List.append_nil, hs]
  rcases c with chunk | _ | _ | _ | ⟨message, n⟩
  · obtain rfl := Option.some.inj hm
    simp only [receive, ReadHandler.side, onRead, onV2raynConnectRead, wp_bind, wp_modifySelf,
      wp_call, wp_get, wp_ite]
    refine ⟨fun _ ↦ hclose _ _ rfl, fun hlen ↦ ⟨fun _ ↦ hclose _ _ rfl, fun hbyte ↦ ?_⟩⟩
    rw [not_lt] at hlen
    rw [not_not, Buffer.byte_store _ hlen chunk.fits] at hbyte
    refine absurd (.accepts hlen ?_) (hno chunk rfl)
    rw [List.getElem?_eq_getElem hlen, hbyte]
  · cases hm
  · cases hm
  · cases hm
  · obtain rfl := Option.some.inj hm
    exact hclose _ s rfl

end Session

/-! ## What is known before the relay -/

/-- The opening of a side is over. -/
def Heard (side : Side) (calls : List Call) : Prop :=
  StopsAt (Opening side) (receivedOn side calls)

/-- Everything that comes before a relay is over. -/
def Cleared (calls : List Call) : Prop :=
  Heard .client calls ∧ (ThroughV2rayn calls → Heard .remote calls)

/-- What is known of the calls before the relay while an operation is under way. -/
def Pending.Knows (calls : List Call) : Pending → Prop
  | .resolveDirect _ | .connectDirect => Heard .client calls ∧ ¬ThroughV2rayn calls
  | .resolveV2rayn | .connectV2rayn | .write _ (.v2raynGreeting _ _) | .read (.v2raynGreeting _ _)
  | .write _ .v2raynConnect | .read .v2raynConnect => Heard .client calls
  | .write _ (.closing _) => True
  | .write _ (.tunnelReply _) | .read .relayClient | .read .relayRemote | .write _ .relayClient
  | .write _ .relayRemote => Cleared calls
  | _ => ¬ThroughV2rayn calls

theorem throughV2rayn_append {calls calls' : List Call} :
    ThroughV2rayn (calls ++ calls') ↔ ThroughV2rayn calls ∨ ThroughV2rayn calls' := by
  simp only [ThroughV2rayn, List.mem_append, exists_or]

theorem not_throughV2rayn_recorded (p : Pending) (c : Completion) :
    ¬ThroughV2rayn (recorded p c) := by
  rw [ThroughV2rayn, recorded.eq_def]
  split <;> simp

/-- Only a read receives anything. -/
theorem receivedOn_recorded {p : Pending} {side : Side} (hp : ∀ r, p = .read r → r.side ≠ side)
    (c : Completion) : receivedOn side (recorded p c) = [] := by
  rw [recorded.eq_def]
  split
  · rename_i r chunk
    simp [receivedOn, hp r rfl]
  · rfl
  · rfl
  · rfl

theorem receivedOn_recorded_read (r : ReadHandler) (chunk : Chunk) :
    receivedOn r.side (recorded (.read r) (.received chunk)) = chunk.bytes := by
  simp [receivedOn, recorded]

theorem Pending.knows_of_lane {p : Pending} (hp : p.lane ≠ .handshake) {calls : List Call}
    (h : Cleared calls) : p.Knows calls := by
  obtain ⟨side, rfl | ⟨data, rfl⟩⟩ := lane_ne_handshake_iff.mp hp
  · rcases side <;> exact h
  · rcases side <;> exact h

namespace Reaction

variable {env : Environment} {b : Buffer} {u u' : ByteString} {p : Pending} {c : Completion}
  {calls : List Call} {ops : List Pending}

/-- Bytes are received by the completion, not by the handler. -/
theorem receivedOn_calls (h : Reaction env b u p c calls ops u') (side : Side) :
    receivedOn side calls = [] := by
  have hrouted : ∀ {v : ByteString} {calls ops}, Routed v calls ops →
      receivedOn side calls = [] := by
    rintro v calls ops (⟨host, port⟩ | ⟨host, port⟩) <;> rfl
  cases h with
  | httpAdmitted _ _ _ _ hr =>
    have hcalls := hrouted hr
    exact hcalls
  | request _ hr => exact hrouted hr
  | _ => rfl

/-- What is known is handed on from operation to operation. A decision about the route and the
consent of v2ray are where something new is learnt. -/
theorem knows (h : Reaction env b u p c calls ops u') (hlane : p.lane = .handshake)
    {before after : List Call} (hp : p.Knows before)
    (hasks : calls.filter Call.isDecision ≠ [] → Heard .client (before ++ recorded p c))
    (haccepts : p = .read .v2raynConnect → ops ≠ [] → Heard .remote (before ++ recorded p c))
    (hreceived : ∀ side, receivedOn side after = receivedOn side (before ++ recorded p c))
    (hvia : ThroughV2rayn after ↔ ThroughV2rayn before ∨ ThroughV2rayn calls) :
    ∀ q ∈ ops, q.Knows after := by
  have hheard : ∀ side, Heard side after ↔ Heard side (before ++ recorded p c) := by
    intro side
    rw [Heard, hreceived, Heard]
  -- no bytes arrive but by a read
  have hstay : ∀ side, (∀ r, p = .read r → r.side ≠ side) → Heard side before →
      Heard side after := by
    intro side hr h
    rw [hheard, Heard, receivedOn_append, receivedOn_recorded hr, List.append_nil]
    exact h
  have hnot : ¬ThroughV2rayn before → ¬ThroughV2rayn calls → ¬ThroughV2rayn after := by
    rw [hvia, not_or]
    exact And.intro
  intro q hq
  have hrouted : ∀ {v : ByteString} {routed : List Call}, Routed v routed ops →
      ¬ThroughV2rayn before → (ThroughV2rayn calls ↔ ThroughV2rayn routed) →
      calls.filter Call.isDecision = routed.filter Call.isDecision → q.Knows after := by
    rintro v routed hr hbefore hthrough hdecision
    have hnow : Heard .client after := by
      refine (hheard .client).mpr (hasks ?_)
      rw [hdecision]
      rcases hr with - | - <;> exact List.cons_ne_nil _ _
    rcases hr with ⟨host, port⟩ | ⟨host, port⟩
    · rw [List.mem_singleton.mp hq]
      refine ⟨hnow, hnot hbefore ?_⟩
      rw [hthrough]
      simp [ThroughV2rayn]
    · rw [List.mem_singleton.mp hq]
      exact hnow
  cases h with
  | close | dropped => exact absurd hq List.not_mem_nil
  | refuse | httpRefused =>
    rw [List.mem_singleton.mp hq]
    trivial
  | greetingAgain hh | greeting hh =>
    rw [List.mem_singleton.mp hq]
    refine hnot ?_ (by simp [ThroughV2rayn])
    rcases hh with rfl | rfl <;> exact hp
  | awaitLogin hh | awaitRequest hh =>
    rw [List.mem_singleton.mp hq]
    refine hnot ?_ (by simp [ThroughV2rayn])
    rcases hh with ⟨data, rfl⟩ | rfl <;> exact hp
  | loginAgain | login | requestAgain =>
    rw [List.mem_singleton.mp hq]
    exact hnot hp (by simp [ThroughV2rayn])
  | httpAdmitted _ _ _ _ hr => exact hrouted hr hp (by simp [ThroughV2rayn]) rfl
  | request _ hr => exact hrouted hr hp Iff.rfl rfl
  | resolved =>
    rw [List.mem_singleton.mp hq]
    exact ⟨hstay .client (by simp) hp.1, hnot hp.2 (by simp [ThroughV2rayn])⟩
  | connectedDirect =>
    rw [List.mem_singleton.mp hq]
    exact ⟨hstay .client (by simp) hp.1, fun h ↦ absurd h (hnot hp.2 (by simp [ThroughV2rayn]))⟩
  | resolvedV2rayn | connectedV2rayn | v2raynGreeted | v2raynMethod | v2raynRequested =>
    rw [List.mem_singleton.mp hq]
    exact hstay .client (by simp [ReadHandler.side]) hp
  | v2raynConnected =>
    rw [List.mem_singleton.mp hq]
    exact ⟨hstay .client (by simp [ReadHandler.side]) hp,
      fun _ ↦ (hheard .remote).mpr (haccepts rfl (List.cons_ne_nil _ _))⟩
  | stream =>
    have hcleared : Cleared after := by
      refine ⟨hstay .client (by simp) hp.1, fun h ↦ hstay .remote (by simp) (hp.2 ?_)⟩
      rw [hvia] at h
      exact h.resolve_right (by simp [ThroughV2rayn])
    rcases List.mem_pair.mp hq with rfl | rfl <;> exact hcleared
  | clientRead | remoteRead | remoteWritten | clientWritten => cases hlane

end Reaction

/-! ## Sessions whose openings are cut -/

namespace Session

/-- Both openings have been cut where they end, as far as the session has got. -/
structure Delimited (s : Session) : Prop where
  relays : s.Relays
  knows : ∀ p ∈ s.pending, p.Knows s.prelude
  cleared : s.relayed ≠ [] → Cleared s.prelude

variable {env : Environment} {s : Session} {g : Gateway} {t : Ctx} {k : ℕ} {p : Pending}
  {c : Completion} {calls : List Call} {ops : List Pending}

theorem takeWhile_of_not_isStream (hcalls : ∀ x ∈ calls, x.isStream = false) :
    (calls.takeWhile fun x ↦ !x.isStream) = calls := by
  rw [List.takeWhile_eq_self_iff]
  simpa using hcalls

theorem delimited_of_started {l : Ledger} (h : Started l t) : t.self.Delimited := by
  have hrelays := relays_of_started h
  have hrelayed : t.self.relayed = [] := relayed_of_started h
  refine ⟨hrelays, fun q hq ↦ ?_, fun hne ↦ absurd hrelayed hne⟩
  rw [pending_of_started h q hq, prelude_of_relayed hrelayed]
  rintro ⟨u, hu⟩
  exact not_service_of_started h u _ hu

/-- A step before the relay. -/
theorem Delimited.handshake (hs : s.Delimited) (hp : s.pending[k]? = some p)
    (hlane : p.lane = .handshake)
    (h : Yields env (Reaction env s.clientBuffer s.username p c) ⟨s.resume k p c, g⟩ t calls ops)
    (hasks : calls.filter Call.isDecision ≠ [] → Heard .client (s.trace ++ recorded p c))
    (haccepts : p = .read .v2raynConnect → ops ≠ [] → Heard .remote (s.trace ++ recorded p c)) :
    t.self.Delimited := by
  have hmem : p ∈ s.pending := List.mem_of_getElem? hp
  have hsilent : s.relayed = [] := hs.relays.waits ⟨p, hmem, hlane⟩
  have hbefore := hs.relays.not_isStream hp hlane c
  have htrace : t.self.trace = (s.trace ++ recorded p c) ++ calls := h.trace
  have hprelude : t.self.prelude =
      (s.trace ++ recorded p c) ++ calls.takeWhile fun x ↦ !x.isStream := by
    rw [prelude, htrace, List.takeWhile_append_of_pos]
    simpa using hbefore
  have hpending := hs.relays.orderly.pending_of_handshake hp hlane h
  have hknown := hs.knows p hmem
  rw [prelude_of_relayed hsilent] at hknown
  have hknows : ∀ q ∈ t.self.pending, q.Knows t.self.prelude := by
    rw [hpending, hprelude]
    refine h.allowed.knows hlane hknown hasks haccepts (fun side ↦ ?_) ?_
    · rw [receivedOn_append, List.append_right_eq_self]
      rcases h.allowed.stream_cases hlane with ⟨hcalls, -⟩ | ⟨hcalls, -⟩
      · rw [hcalls]
        rfl
      · rw [takeWhile_of_not_isStream hcalls]
        exact h.allowed.receivedOn_calls side
    · rw [throughV2rayn_append, throughV2rayn_append,
        or_iff_left (not_throughV2rayn_recorded p c)]
      rcases h.allowed.stream_cases hlane with ⟨hcalls, -⟩ | ⟨hcalls, -⟩
      · rw [hcalls]
        simp [ThroughV2rayn, Call.isStream]
      · rw [takeWhile_of_not_isStream hcalls]
  refine ⟨hs.relays.handshake hp hlane h, hknows, fun hne ↦ ?_⟩
  rcases h.allowed.stream_cases hlane with ⟨-, hops⟩ | ⟨hcalls, -⟩
  · refine hknows (.read .relayClient) ?_
    rw [hpending, hops]
    exact List.mem_cons_self
  · refine absurd ?_ hne
    rw [relayed_eq_nil_iff, htrace]
    exact List.forall_mem_append.mpr ⟨hbefore, hcalls⟩

/-- A step of the relay. -/
theorem Delimited.relay (hs : s.Delimited) (hp : s.pending[k]? = some p)
    (hlane : p.lane ≠ .handshake)
    (h : Yields env (Reaction env s.clientBuffer s.username p c) ⟨s.resume k p c, g⟩ t calls ops) :
    t.self.Delimited := by
  have hrelays : s.relayed ≠ [] := hs.relays.runs ⟨p, List.mem_of_getElem? hp, hlane⟩
  have hcleared : Cleared t.self.prelude := by
    have htrace : t.self.trace = s.trace ++ (recorded p c ++ calls) := by
      rw [← List.append_assoc]
      exact h.trace
    rw [(relayed_append hrelays htrace).1]
    exact hs.cleared hrelays
  refine ⟨hs.relays.relay hp hlane h, fun q hq ↦ Pending.knows_of_lane ?_ hcleared,
    fun _ ↦ hcleared⟩
  have hpending : t.self.pending = s.pending.eraseIdx k ++ ops := h.pending
  rw [hpending, List.mem_append] at hq
  rcases hq with hq | hq
  · intro hq'
    exact hrelays (hs.relays.waits ⟨q, List.mem_of_mem_eraseIdx hq, hq'⟩)
  · rcases h.allowed.relay_ops hlane with rfl | ⟨r, rfl, hr⟩
    · exact absurd hq List.not_mem_nil
    · rw [List.mem_singleton.mp hq, hr]
      exact hlane

/-- Where the openings have been cut, the relay passes on the payloads. -/
theorem Delimited.transparent (hs : s.Delimited) : s.Transparent := by
  intro side hthrough opening payload hopening hreceived
  have htrace : receivedOn side s.trace =
      receivedOn side s.prelude ++ receivedOn side s.relayed := by
    rw [← receivedOn_append, s.prelude_append_relayed]
  rw [htrace] at hreceived ⊢
  have hflows := hs.relays.flows side
  by_cases hrelayed : s.relayed = []
  · refine ⟨?_, fun hne ↦ absurd hrelayed hne⟩
    rw [hrelayed]
    exact List.nil_prefix
  · have hheard : StopsAt (Opening side) (receivedOn side s.prelude) := by
      rcases side
      · exact (hs.cleared hrelayed).1
      · exact (hs.cleared hrelayed).2 (hthrough rfl)
    refine ⟨hflows.prefix_received.trans (hheard.rest hopening hreceived),
      fun _ hnone hnot hall ↦ ?_⟩
    have hopen := hheard opening payload hopening ((List.prefix_append _ _).trans hreceived)
    rw [hopen, List.append_cancel_left_eq] at hall
    rw [← hflows.resting hnone hnot, hall]

end Session

/-! ## Runs -/

namespace World

/-- **A step that cuts the openings where they end keeps all sessions transparent.** -/
theorem delimited_of_step {w t : World} {e : Event} (hw : ∀ s ∈ w.sessions, s.Delimited)
    (hcuts : w.CutsOpenings e) (h : w.step e = .ok t) : ∀ s ∈ t.sessions, s.Delimited := by
  rcases step_cases h with rfl | ⟨env, a, c, rfl, hstart, rfl⟩ |
    ⟨i, k, completion, env, s, p, m, c, rfl, hs, hp, hm, hrun, rfl⟩
  · exact hw
  · refine List.forall_mem_append.mpr ⟨hw, List.forall_mem_singleton.mpr ?_⟩
    have hstarted := wp_of_ok (Session.start_starts a w.gateway) hstart
    exact Session.delimited_of_started hstarted
  · have hdelimited := hw s (List.mem_of_getElem? hs)
    obtain ⟨calls, ops, hy⟩ : ∃ calls ops,
        Session.Yields env (Reaction env s.clientBuffer s.username p completion)
          ⟨s.resume k p completion, w.gateway⟩ c calls ops :=
      wp_of_ok (Session.dispatch_reacts hm _) hrun
    have hturns := wp_of_ok (Session.dispatch_turns hm _) hrun
    -- what the condition says of a read that concludes an opening
    have hheard : ∀ {r : ReadHandler} {chunk : Chunk}, p = .read r → completion = .received chunk →
        Concludes env s.clientBuffer r chunk → Heard r.side (s.trace ++ recorded p completion) := by
      rintro r chunk rfl rfl hconcludes
      rw [Heard, receivedOn_append, receivedOn_recorded_read]
      exact hcuts s r hs hp hconcludes
    suffices c.self.Delimited by
      intro s' hmem
      rcases List.mem_or_eq_of_mem_set hmem with hmem | rfl
      · exact hw s' hmem
      · exact this
    by_cases hlane : p.lane = .handshake
    · refine hdelimited.handshake hp hlane hy (fun hdecision ↦ ?_) ?_
      · rcases hturns with hsteady | ⟨r, chunk, hread, hreceived, -, hasks⟩
        · have hdecisions := Session.decisions_of_yields hy
          rw [show c.self.decisions = s.decisions from hsteady.unmoved.decisions] at hdecisions
          exact absurd (List.self_eq_append_right.mp hdecisions) hdecision
        · have hclient : r.side = .client := hasks.isEarly.2
          rw [← hclient]
          exact hheard hread hreceived (.asks hasks)
      · rintro rfl hops
        by_contra hnot
        have hpending := wp_of_ok (Session.dispatch_unaccepted hm (fun chunk hreceived hconcludes ↦
          hnot (hheard rfl hreceived hconcludes)) _) hrun
        rw [hy.pending] at hpending
        exact hops (List.append_right_eq_self.mp hpending)
    · exact hdelimited.relay hp hlane hy

/-- **The tunnel is transparent.** In every state of a run each of whose steps cuts the openings
where they end, every session passes on what the parties send behind their openings, and nothing
else. -/
theorem tunnel_transparent {w₀ : World} {es : List Event} (h₀ : w₀.sessions = [])
    (hcuts : Along step CutsOpenings w₀ es) :
    Throughout step (fun w ↦ ∀ s ∈ w.sessions, s.Transparent) w₀ es := by
  refine hcuts.throughout (I := fun w ↦ ∀ s ∈ w.sessions, s.Delimited)
    (fun w hw s hs ↦ (hw s hs).transparent) (fun w e t hw hC ht ↦ delimited_of_step hw hC ht) ?_
  rw [h₀]
  exact fun s hs ↦ absurd hs List.not_mem_nil

/-- The reply of a server that has connected. -/
def consent : ByteString := [0x05, 0x00, 0x00, 0x01, 0, 0, 0, 0, 0, 0]

/-- The gateway asks v2ray for the destination and gets `chunk`, the client is told, and v2ray sends
`more`. -/
def replyRun (chunk more : Chunk) : List Event :=
  askRun sampleHead ++
    [.complete 0 0 .written (sampleEnvironment .proxy),
      .complete 0 0 (.received chunk) (sampleEnvironment .proxy),
      .complete 0 0 .written (sampleEnvironment .proxy),
      .complete 0 1 (.received more) (sampleEnvironment .proxy),
      .complete 0 1 .written (sampleEnvironment .proxy)]

/-- The consent by itself. -/
def consentAlone : Chunk where
  bytes := consent
  nonempty := by decide
  fits := by decide

/-- The consent, with payload in the same read. -/
def consentAndPayload : Chunk where
  bytes := consent ++ ofString "hi"
  nonempty := by decide
  fits := by decide

def exclamation : Chunk where
  bytes := ofString "!"
  nonempty := by decide
  fits := by decide

theorem serverOpening_consent : ServerOpening (socksVersion :: authNone :: consent) :=
  ⟨[socksVersion, authNone], consent, rfl, rfl, [socksVersion, 0x00, 0x00],
    consent.drop 3, rfl, rfl,
    (consent.drop 3).take 5, [0, 0], rfl, .v4 rfl, [0, 0], [], rfl, rfl, rfl⟩

theorem httpOpening_sampleHead : HttpOpening sampleHead.bytes :=
  ⟨by decide, by decide, by decide +kernel⟩

/-- A read of the only session that concludes no opening, or stops where it ends. -/
theorem cutsOpenings_of_observation {w : World} {k : ℕ} {chunk : Chunk} {env : Environment}
    {r : ReadHandler} {bytes : ByteString}
    (hobs : w.sessions.map (fun s ↦ (s.pending[k]?, receivedOn r.side s.trace)) =
      [(some (.read r), bytes)])
    (h : (∀ b, ¬Concludes env b r chunk) ∨ Opening r.side (bytes ++ chunk.bytes)) :
    w.CutsOpenings (.complete 0 k (.received chunk) env) := by
  obtain ⟨s, hs, hstate⟩ := List.map_eq_singleton_iff.mp hobs
  obtain ⟨hpending, hreceived⟩ := Prod.mk.inj hstate
  intro s' r' hs' hp hconcludes
  rw [hs] at hs'
  obtain rfl : s = s' := Option.some.inj hs'
  rw [hpending] at hp
  obtain rfl : r = r' := by simpa using hp
  rw [hreceived]
  exact (prefixFree_opening r.side).stopsAt (h.resolve_left fun hno ↦ hno _ hconcludes)

/-- The three reads before the relay of a run with the consent by itself. -/
theorem along_cutsOpenings_consentAlone :
    Along step CutsOpenings {} (replyRun consentAlone exclamation) := by
  refine along_of_getElem? fun n e he t ht ↦ ?_
  have hread : ∀ (r : ReadHandler) (bytes : ByteString) {k : ℕ} {chunk : Chunk} {env : Environment},
      (run step {} ((replyRun consentAlone exclamation).take n)).toOption.map (fun w ↦
        w.sessions.map fun s ↦ (s.pending[k]?, receivedOn r.side s.trace)) =
        some [(some (.read r), bytes)] →
      (∀ b, ¬Concludes env b r chunk) ∨ Opening r.side (bytes ++ chunk.bytes) →
      t.CutsOpenings (.complete 0 k (.received chunk) env) := by
    intro r bytes k chunk env hobs
    rw [ht] at hobs
    exact cutsOpenings_of_observation (Option.some.inj hobs)
  rcases n with _ | _ | _ | _ | _ | _ | _ | _ | _ | _ | _ | n
  all_goals cases he
  case succ.zero =>
    exact hread .handshake [] (by decide +kernel) (.inr (.inr httpOpening_sampleHead))
  case succ.succ.succ.succ.succ.zero =>
    exact hread (.v2raynGreeting (ofString "h") 80) [] (by decide +kernel)
      (.inl fun b ↦ not_concludes rfl (by decide))
  case succ.succ.succ.succ.succ.succ.succ.zero =>
    exact hread .v2raynConnect methodChosen.bytes (by decide +kernel) (.inr serverOpening_consent)
  case succ.succ.succ.succ.succ.succ.succ.succ.succ.zero =>
    exact hread .relayRemote (methodChosen.bytes ++ consent) (by decide +kernel)
      (.inl fun b ↦ not_concludes rfl (by decide))
  all_goals trivial

/-- With the consent by itself the byte behind it arrives. -/
theorem consentRun_transparent : ∃ w, Reachable step {} w ∧ ∃ s ∈ w.sessions,
    ThroughV2rayn s.prelude ∧ sentOn .client s.relayed = ofString "!" ∧ s.Transparent := by
  have hrun : (run step {} (replyRun consentAlone exclamation)).toOption.map
      (fun w ↦ w.sessions.map fun s ↦
        (decide (.service (ofString "a") .connectViaV2rayn ∈ s.prelude),
        sentOn .client s.relayed)) = some [(true, ofString "!")] := by decide +kernel
  obtain ⟨w, hw, hobs⟩ := exists_run_of_observation hrun
  obtain ⟨s, hs, hstate⟩ := List.map_eq_singleton_iff.mp hobs
  simp only [Prod.mk.injEq, decide_eq_true_iff] at hstate
  obtain ⟨hthrough, hsent⟩ := hstate
  have hmem : s ∈ w.sessions := hs ▸ List.mem_singleton_self s
  have htransparent := tunnel_transparent rfl along_cutsOpenings_consentAlone _ List.prefix_rfl w hw
  exact ⟨w, ⟨_, hw⟩, s, hmem, ⟨_, hthrough⟩, hsent, htransparent s hmem⟩

/-- The two bytes that came with the consent are lost, and the one after them arrives. -/
theorem coalescedRun_not_transparent : ∃ w, Reachable step {} w ∧ ∃ s ∈ w.sessions,
    ThroughV2rayn s.prelude ∧
      receivedOn .remote s.trace = socksVersion :: authNone :: consent ++ ofString "hi!" ∧
      sentOn .client s.relayed = ofString "!" ∧ ¬s.Transparent := by
  have hrun : (run step {} (replyRun consentAndPayload exclamation)).toOption.map
      (fun w ↦ w.sessions.map fun s ↦
        (decide (.service (ofString "a") .connectViaV2rayn ∈ s.prelude),
        receivedOn .remote s.trace, sentOn .client s.relayed)) =
      some [(true, socksVersion :: authNone :: consent ++ ofString "hi!", ofString "!")] := by
    decide +kernel
  obtain ⟨w, hw, hobs⟩ := exists_run_of_observation hrun
  obtain ⟨s, hs, hstate⟩ := List.map_eq_singleton_iff.mp hobs
  simp only [Prod.mk.injEq, decide_eq_true_iff] at hstate
  obtain ⟨hthrough, hreceived, hsent⟩ := hstate
  refine ⟨w, ⟨_, hw⟩, s, hs ▸ List.mem_singleton_self s, ⟨_, hthrough⟩, hreceived, hsent,
    fun h ↦ ?_⟩
  have hall := h .remote (fun _ ↦ ⟨_, hthrough⟩) _ (ofString "hi!") serverOpening_consent
    (hreceived ▸ List.prefix_rfl)
  rw [Side.other, hsent] at hall
  exact absurd hall.1 (by decide)

end World

end LanProxyGateway
