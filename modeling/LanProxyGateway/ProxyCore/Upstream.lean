import LanProxyGateway.ProxyCore.Dialogue
import LanProxyGateway.ProxyCore.Transparency

/-!
# What the other side is sent

On the other side of a session is the target itself, or v2ray. `upstream_told` says what it is sent,
in every session of every reachable state: to the target nothing but what the client has sent since
the relay began; to v2ray the method message, then the request for the one destination of the
session, and payload behind the whole of both.
-/

open Foundation ByteString

namespace LanProxyGateway

open LanProxy

/-- The method message for v2ray. -/
def v2raynHello : ByteString := [socksVersion, 0x01, authNone]

/-- What goes before the payload. -/
def v2raynLead (host : ByteString) (port : UInt16) : ByteString :=
  v2raynHello ++ Session.v2raynRequest host port

/-- A method message that offers no authentication, and a request behind it: the host, the port, and
the bytes that are left over. -/
def decodeLead : ByteString → Option (ByteString × UInt16 × ByteString)
  | version :: count :: method :: rest =>
    if version = socksVersion ∧ count = 1 ∧ method = authNone then decodeConnect rest else none
  | _ => none

theorem decodeConnect_v2raynRequest_iff (host : ByteString) (port : UInt16)
    (payload : ByteString) :
    decodeConnect (Session.v2raynRequest host port ++ payload) = some (host, port, payload) ↔
      host.length ≤ 255 := by
  rw [decodeConnect_eq_some_iff]
  constructor
  · rintro ⟨_, domainLen, _, _, -, hlen, -⟩
    have hlt := domainLen.toNat_lt
    omega
  · intro hle
    refine ⟨0x00, host.length.toUInt8, (port >>> 8).toUInt8, port.toUInt8, ?_, ?_, ?_⟩
    · simp only [Session.v2raynRequest, List.cons_append, List.nil_append, List.append_assoc]
    · simp
      omega
    · exact (portOfBytes_split port).symm

/-- **The lead names its destination up to 255 bytes**, whatever comes behind it. -/
theorem decodeLead_v2raynLead_iff (host : ByteString) (port : UInt16) (payload : ByteString) :
    decodeLead (v2raynLead host port ++ payload) = some (host, port, payload) ↔
      host.length ≤ 255 :=
  decodeConnect_v2raynRequest_iff host port payload

/-- A host that has been read has at most 255 bytes. -/
theorem length_le_of_decodeLead {bytes host after : ByteString} {port : UInt16}
    (h : decodeLead bytes = some (host, port, after)) : host.length ≤ 255 := by
  unfold decodeLead at h
  split at h
  · split_ifs at h
    obtain ⟨_, domainLen, _, _, -, hlen, -⟩ := decodeConnect_eq_some_iff.mp h
    have hlt := domainLen.toNat_lt
    omega
  · cases h

/-- The lead has been sent to v2ray, and nothing to a target. -/
structure Led (host : ByteString) (port : UInt16) (calls : List Call) : Prop where
  v2rayn : ThroughV2rayn calls → sentOn .remote calls = v2raynLead host port
  target : ¬ThroughV2rayn calls → sentOn .remote calls = []

/-- The lead is being sent to v2ray, and nothing to a target. -/
structure Leading (host : ByteString) (port : UInt16) (calls : List Call) : Prop where
  v2rayn : ThroughV2rayn calls → sentOn .remote calls <+: v2raynLead host port
  target : ¬ThroughV2rayn calls → sentOn .remote calls = []

theorem Led.leading {host : ByteString} {port : UInt16} {calls : List Call}
    (h : Led host port calls) : Leading host port calls :=
  ⟨fun hvia ↦ h.v2rayn hvia ▸ List.prefix_rfl, h.target⟩

/-- What has been sent of the lead can be continued to a request for the destination. -/
theorem Leading.decodeLead_iff {host : ByteString} {port : UInt16} {calls : List Call}
    (h : Leading host port calls) (hvia : ThroughV2rayn calls) :
    (∃ rest, decodeLead (sentOn .remote calls ++ rest) = some (host, port, [])) ↔
      host.length ≤ 255 := by
  constructor
  · rintro ⟨rest, hrest⟩
    exact length_le_of_decodeLead hrest
  · intro hle
    obtain ⟨rest, hrest⟩ := h.v2rayn hvia
    refine ⟨rest, ?_⟩
    have hlead := (decodeLead_v2raynLead_iff host port []).mpr hle
    rwa [List.append_nil, ← hrest] at hlead

theorem Leading.of_silent {host : ByteString} {port : UInt16} {calls : List Call}
    (h : sentOn .remote calls = []) : Leading host port calls :=
  ⟨fun _ ↦ h ▸ List.nil_prefix, fun _ ↦ h⟩

/-! ## Operations of the handshake -/

/-- What has been sent to the other side while the operation is under way. -/
def Pending.Sends (host : ByteString) (port : UInt16) (calls : List Call) : Pending → Prop
  | .resolveV2rayn | .connectV2rayn => ThroughV2rayn calls ∧ sentOn .remote calls = []
  | .write data (.v2raynGreeting _ _) =>
    ThroughV2rayn calls ∧ sentOn .remote calls = [] ∧ data = v2raynHello
  | .read (.v2raynGreeting _ _) | .write _ .v2raynConnect =>
    ThroughV2rayn calls ∧ sentOn .remote calls = v2raynHello
  | .read .v2raynConnect => ThroughV2rayn calls ∧ sentOn .remote calls = v2raynLead host port
  | .write _ (.tunnelReply _) => Led host port calls
  | .write _ (.closing _) => Leading host port calls
  | .read .relayClient | .read .relayRemote | .write _ .relayClient | .write _ .relayRemote => True
  | _ => ¬ThroughV2rayn calls ∧ sentOn .remote calls = []

theorem Pending.sends_of_lane {p : Pending} (h : p.lane ≠ .handshake) (host : ByteString)
    (port : UInt16) (calls : List Call) : p.Sends host port calls := by
  obtain ⟨side, rfl | ⟨data, rfl⟩⟩ := lane_ne_handshake_iff.mp h
  · rcases side <;> trivial
  · rcases side <;> trivial

/-- An early session has sent nothing. -/
theorem Pending.silent_of_isEarly {p : Pending} (h : p.isEarly = true) {host : ByteString}
    {port : UInt16} {calls : List Call} (hp : p.Sends host port calls) :
    ¬ThroughV2rayn calls ∧ sentOn .remote calls = [] := by
  unfold isEarly at h
  split at h
  all_goals first | exact hp | exact absurd h Bool.false_ne_true

/-- Only writes to the other side send it anything. -/
theorem sentOn_recorded {p : Pending} {side : Side}
    (hp : ∀ data h, p = .write data h → h.side ≠ side) (c : Completion) :
    sentOn side (recorded p c) = [] := by
  rw [recorded.eq_def]
  split
  · rfl
  · rename_i data h
    simp [sentOn, hp data h rfl]
  · rename_i data h message n
    simp [sentOn, hp data h rfl]
  · rfl

theorem sentOn_recorded_read (side : Side) (r : ReadHandler) (c : Completion) :
    sentOn side (recorded (.read r) c) = [] := by
  cases c <;> rfl

/-- A write sends its data, or a part of it. -/
theorem sentOn_recorded_write (side : Side) (data : ByteString) (w : WriteHandler)
    (c : Completion) : sentOn side (recorded (.write data w) c) <+: data := by
  cases c with
  | written => by_cases hside : w.side = side <;> simp [recorded, sentOn, hside]
  | failed message n =>
    by_cases hside : w.side = side <;> simp [recorded, sentOn, hside, List.take_prefix]
  | _ => exact List.nil_prefix

namespace Reaction

variable {env : Environment} {b : Buffer} {u u' : ByteString} {p : Pending} {c : Completion}
  {calls : List Call} {ops : List Pending} {before : List Call} {host host' : ByteString}
  {port port' : UInt16}

theorem throughV2rayn_after : ThroughV2rayn (before ++ recorded p c ++ calls) ↔
    ThroughV2rayn before ∨ ThroughV2rayn calls := by
  rw [throughV2rayn_append, throughV2rayn_append, or_iff_left (not_throughV2rayn_recorded p c)]

theorem isEarly_of_throughV2rayn (h : Reaction env b u p c calls ops u')
    (hvia : ThroughV2rayn calls) : p.isEarly = true := by
  obtain ⟨v, hv⟩ := hvia
  cases h with
  | httpAdmitted => rfl
  | request => rfl
  | _ => simp at hv

/-- Whoever goes through v2ray has decided to. -/
theorem decision_of_throughV2rayn (h : Reaction env b u p c calls ops u')
    (hvia : ThroughV2rayn calls) : calls.filter Call.isDecision ≠ [] := by
  have hrouted : ∀ {v : ByteString} {calls ops}, Routed v calls ops →
      calls.filter Call.isDecision ≠ [] := by
    rintro v calls ops (⟨host, port⟩ | ⟨host, port⟩) <;> exact List.cons_ne_nil _ _
  obtain ⟨v, hv⟩ := hvia
  cases h with
  | httpAdmitted _ _ _ _ hr =>
    rw [List.filter_cons_of_neg Bool.false_ne_true]
    exact hrouted hr
  | request _ hr => exact hrouted hr
  | _ => simp at hv

theorem sentOn_after (h : Reaction env b u p c calls ops u') (side : Side) :
    sentOn side (before ++ recorded p c ++ calls) =
      sentOn side before ++ sentOn side (recorded p c) := by
  rw [sentOn_append, sentOn_append, h.sentOn_calls, List.append_nil]

/-- An early session has sent nothing to the other side. -/
theorem leading_of_isEarly (h : Reaction env b u p c calls ops u') (hearly : p.isEarly = true)
    (hp : p.Sends host port before) :
    Leading host' port' (before ++ recorded p c ++ calls) := by
  obtain ⟨-, hnil⟩ := p.silent_of_isEarly hearly hp
  refine .of_silent ?_
  rw [h.sentOn_after, hnil, sentOn_recorded]
  · rfl
  · rintro data w rfl
    cases w with
    | methodReply | authReply => simp [WriteHandler.side]
    | _ => cases hearly

/-- A later one has decided, and is as far with the lead as before where it has not written any. -/
theorem leading_of_silent (h : Reaction env b u p c calls ops u') (hlate : p.isEarly = false)
    (hbefore : Leading host port before) (hnil : sentOn .remote (recorded p c) = []) :
    Leading host port (before ++ recorded p c ++ calls) := by
  have hnone : ¬ThroughV2rayn calls := fun hvia ↦ by
    rw [h.isEarly_of_throughV2rayn hvia] at hlate
    cases hlate
  refine ⟨fun hvia ↦ ?_, fun hnot ↦ ?_⟩ <;> rw [h.sentOn_after, hnil, List.append_nil]
  · exact hbefore.v2rayn ((throughV2rayn_after.mp hvia).resolve_right hnone)
  · exact hbefore.target fun hvia ↦ hnot (throughV2rayn_after.mpr (.inl hvia))

/-- A piece of the lead has been written, or a part of it. -/
theorem leading_of_write {data front rest : ByteString} {w : WriteHandler}
    (h : Reaction env b u (.write data w) c calls ops u') (hvia : ThroughV2rayn before)
    (hfront : sentOn .remote before = front)
    (hlead : v2raynLead host port = front ++ (data ++ rest)) :
    Leading host port (before ++ recorded (.write data w) c ++ calls) := by
  refine ⟨fun _ ↦ ?_, fun hnot ↦ absurd (throughV2rayn_after.mpr (.inl hvia)) hnot⟩
  rw [h.sentOn_after, hfront, hlead, List.prefix_append_right_inj]
  exact (sentOn_recorded_write .remote data w c).trans (List.prefix_append _ _)

/-- However an operation of the handshake ends, the lead is being sent. -/
theorem leading (h : Reaction env b u p c calls ops u') (hlane : p.lane = .handshake)
    (hp : p.Sends host port before) (htarget : p.isEarly = false → host' = host ∧ port' = port)
    (hrequest : ∀ data, p = .write data .v2raynConnect → data = Session.v2raynRequest host port) :
    Leading host' port' (before ++ recorded p c ++ calls) := by
  rcases hearly : p.isEarly with _ | _
  · obtain ⟨rfl, rfl⟩ := htarget hearly
    cases p with
    | resolveDirect | connectDirect | resolveV2rayn | connectV2rayn =>
      exact h.leading_of_silent hearly (.of_silent hp.2) rfl
    | read r =>
      cases r with
      | v2raynGreeting =>
        refine h.leading_of_silent hearly ⟨fun _ ↦ ?_, fun hnot ↦ absurd hp.1 hnot⟩
          (sentOn_recorded_read .remote _ c)
        rw [hp.2]
        exact List.prefix_append _ _
      | v2raynConnect =>
        exact h.leading_of_silent hearly
          ⟨fun _ ↦ hp.2 ▸ List.prefix_rfl, fun hnot ↦ absurd hp.1 hnot⟩
          (sentOn_recorded_read .remote _ c)
      | relayClient | relayRemote => cases hlane
      | _ => cases hearly
    | write data w =>
      cases w with
      | closing reason =>
        exact h.leading_of_silent hearly hp
          (sentOn_recorded (by rintro _ _ ⟨⟩; simp [WriteHandler.side]) c)
      | tunnelReply failure =>
        exact h.leading_of_silent hearly (Led.leading hp)
          (sentOn_recorded (by rintro _ _ ⟨⟩; simp [WriteHandler.side]) c)
      | v2raynGreeting =>
        obtain ⟨hvia, hnil, rfl⟩ := hp
        exact h.leading_of_write hvia hnil rfl
      | v2raynConnect =>
        obtain ⟨hvia, hhello⟩ := hp
        obtain rfl := hrequest data rfl
        exact h.leading_of_write hvia hhello (by rw [List.append_nil]; rfl)
      | relayClient | relayRemote => cases hlane
      | methodReply => cases hearly
      | authReply => cases hearly
  · exact h.leading_of_isEarly hearly hp

/-- Operation by operation, up to the success reply. -/
theorem sends (h : Reaction env b u p c calls ops u') (hlane : p.lane = .handshake)
    (hp : p.Sends host port before) (htarget : p.isEarly = false → host' = host ∧ port' = port)
    (hrequest : ∀ data, p = .write data .v2raynConnect → data = Session.v2raynRequest host port) :
    ∀ q ∈ ops, q.Sends host' port' (before ++ recorded p c ++ calls) := by
  have hleading := h.leading hlane hp htarget hrequest
  have hsent : sentOn .remote (before ++ recorded p c ++ calls) =
      sentOn .remote before ++ sentOn .remote (recorded p c) := h.sentOn_after .remote
  have hvia : ThroughV2rayn before → ThroughV2rayn (before ++ recorded p c ++ calls) :=
    fun h ↦ throughV2rayn_after.mpr (.inl h)
  have hnot : ¬ThroughV2rayn before → ¬ThroughV2rayn calls →
      ¬ThroughV2rayn (before ++ recorded p c ++ calls) := by
    rw [throughV2rayn_after, not_or]
    exact And.intro
  intro q hq
  have hrouted : ∀ {v : ByteString} {routed : List Call}, Routed v routed ops →
      ¬ThroughV2rayn before ∧ sentOn .remote before = [] →
      (ThroughV2rayn calls ↔ ThroughV2rayn routed) → sentOn .remote (recorded p c) = [] →
      q.Sends host' port' (before ++ recorded p c ++ calls) := by
    rintro v routed hr ⟨hnone, hnil⟩ hthrough hrecorded
    have hnil' : sentOn .remote (before ++ recorded p c ++ calls) = [] := by
      rw [hsent, hnil, hrecorded]
      rfl
    rcases hr with ⟨host, port⟩ | ⟨host, port⟩
    · rw [List.mem_singleton.mp hq]
      refine ⟨hnot hnone ?_, hnil'⟩
      rw [hthrough]
      simp [ThroughV2rayn]
    · rw [List.mem_singleton.mp hq]
      refine ⟨throughV2rayn_after.mpr (.inr ?_), hnil'⟩
      rw [hthrough]
      exact ⟨v, by simp⟩
  cases h with
  | close | dropped => exact absurd hq List.not_mem_nil
  | refuse | httpRefused =>
    rw [List.mem_singleton.mp hq]
    exact hleading
  | greetingAgain hh | greeting hh =>
    rw [List.mem_singleton.mp hq]
    obtain ⟨hnone, hnil⟩ : ¬ThroughV2rayn before ∧ sentOn .remote before = [] := by
      rcases hh with rfl | rfl <;> exact hp
    exact ⟨hnot hnone (by simp [ThroughV2rayn]), by rw [hsent, hnil, sentOn_recorded_read]; rfl⟩
  | awaitLogin hh | awaitRequest hh =>
    rw [List.mem_singleton.mp hq]
    rcases hh with ⟨data, rfl⟩ | rfl
    · refine ⟨hnot hp.1 (by simp [ThroughV2rayn]), ?_⟩
      rw [hsent, hp.2, sentOn_recorded (by rintro _ _ ⟨⟩; simp [WriteHandler.side])]
      rfl
    · exact ⟨hnot hp.1 (by simp [ThroughV2rayn]), by rw [hsent, hp.2, sentOn_recorded_read]; rfl⟩
  | loginAgain | login | requestAgain =>
    rw [List.mem_singleton.mp hq]
    exact ⟨hnot hp.1 (by simp [ThroughV2rayn]), by rw [hsent, hp.2, sentOn_recorded_read]; rfl⟩
  | httpAdmitted _ _ _ _ hr =>
    exact hrouted hr hp (by simp [ThroughV2rayn]) (sentOn_recorded_read _ _ _)
  | request _ hr => exact hrouted hr hp Iff.rfl (sentOn_recorded_read _ _ _)
  | resolved =>
    rw [List.mem_singleton.mp hq]
    exact ⟨hnot hp.1 (by simp [ThroughV2rayn]), by rw [hsent, hp.2]; rfl⟩
  | connectedDirect =>
    rw [List.mem_singleton.mp hq]
    exact ⟨fun h ↦ absurd h (hnot hp.1 (by simp [ThroughV2rayn])),
      fun _ ↦ by rw [hsent, hp.2]; rfl⟩
  | resolvedV2rayn =>
    rw [List.mem_singleton.mp hq]
    exact ⟨hvia hp.1, by rw [hsent, hp.2]; rfl⟩
  | connectedV2rayn =>
    rw [List.mem_singleton.mp hq]
    exact ⟨hvia hp.1, by rw [hsent, hp.2]; rfl, rfl⟩
  | v2raynGreeted =>
    rw [List.mem_singleton.mp hq]
    obtain ⟨hthrough, hnil, rfl⟩ := hp
    exact ⟨hvia hthrough, by rw [hsent, hnil]; rfl⟩
  | v2raynMethod =>
    rw [List.mem_singleton.mp hq]
    exact ⟨hvia hp.1, by rw [hsent, hp.2, sentOn_recorded_read, List.append_nil]⟩
  | v2raynRequested data =>
    rw [List.mem_singleton.mp hq]
    obtain ⟨rfl, rfl⟩ := htarget rfl
    obtain rfl := hrequest data rfl
    refine ⟨hvia hp.1, ?_⟩
    rw [hsent, hp.2, v2raynLead]
    simp [recorded, sentOn, WriteHandler.side]
  | v2raynConnected =>
    rw [List.mem_singleton.mp hq]
    obtain ⟨rfl, rfl⟩ := htarget rfl
    refine ⟨fun _ ↦ ?_, fun hnone ↦ absurd (hvia hp.1) hnone⟩
    rw [hsent, hp.2, sentOn_recorded_read, List.append_nil]
  | stream => rcases List.mem_pair.mp hq with rfl | rfl <;> trivial
  | clientRead | remoteRead | remoteWritten | clientWritten => cases hlane

end Reaction

/-! ## Sessions -/

namespace Session

/-- The other side of the session is being sent the lead, or was sent it before the relay. -/
structure Asking (s : Session) : Prop where
  sends : ∀ p ∈ s.pending, p.Sends s.targetHost s.targetPort s.trace
  leading : s.relayed = [] → Leading s.targetHost s.targetPort s.trace
  led : s.relayed ≠ [] → Led s.targetHost s.targetPort s.prelude
  decided : ThroughV2rayn s.trace → s.decisions ≠ []

variable {env : Environment} {s : Session} {g : Gateway} {t : Ctx} {k : ℕ} {p : Pending}
  {c : Completion} {calls : List Call} {ops : List Pending}

theorem asking_of_started {l : Ledger} (h : Started l t) : t.self.Asking := by
  have hrelayed := relayed_of_started h
  have hsilent : ¬ThroughV2rayn t.self.trace ∧ sentOn .remote t.self.trace = [] := by
    refine ⟨fun ⟨u, hu⟩ ↦ not_service_of_started h u _ hu, ?_⟩
    rcases h with ⟨ht, -⟩ | ⟨_, ht, -⟩ | ⟨ht, -⟩ | ⟨_, -, ht, -⟩
    · obtain ⟨reason, htrace⟩ := ht.trace
      rw [htrace]
      rfl
    · obtain ⟨reason, htrace⟩ := ht.trace
      rw [htrace]
      rfl
    · rw [ht.trace]
      rfl
    · rw [ht.trace]
      rfl
  refine ⟨fun q hq ↦ ?_, fun _ ↦ .of_silent hsilent.2, fun hne ↦ absurd hrelayed hne,
    fun hvia ↦ absurd hvia hsilent.1⟩
  rw [pending_of_started h q hq]
  exact hsilent

/-- The destination of a session that has decided stays as it is. -/
theorem target_of_late (hhandles : Handles env s g k p c t) (hlate : p.isEarly = false) :
    t.self.targetHost = s.targetHost ∧ t.self.targetPort = s.targetPort := by
  rcases hhandles.turns with hsteady | ⟨r, chunk, rfl, rfl, -, hasks⟩
  · exact ⟨hsteady.unmoved.host hlate, hsteady.unmoved.port hlate⟩
  · rw [hasks.isEarly.1] at hlate
    cases hlate

theorem Asking.react (hs : s.Asking) (hrelays : s.Relays) (haimed : s.Aimed)
    (hp : s.pending[k]? = some p)
    (h : Yields env (Reaction env s.clientBuffer s.username p c) ⟨s.resume k p c, g⟩ t calls ops)
    (hhandles : Handles env s g k p c t) : t.self.Asking := by
  have hmem : p ∈ s.pending := List.mem_of_getElem? hp
  have hrelays' := hrelays.react hp h
  have hdecided : ThroughV2rayn t.self.trace → t.self.decisions ≠ [] := by
    intro hvia
    rw [decisions_of_yields h]
    rw [h.trace] at hvia
    rcases Reaction.throughV2rayn_after.mp hvia with hbefore | hnow
    · exact List.append_ne_nil_of_left_ne_nil (hs.decided hbefore) _
    · exact List.append_ne_nil_of_right_ne_nil _ (h.allowed.decision_of_throughV2rayn hnow)
  by_cases hlane : p.lane = .handshake
  · have hrequest : ∀ data, p = .write data .v2raynConnect →
        data = v2raynRequest s.targetHost s.targetPort := by
      rintro data rfl
      exact (haimed.aims _ hmem).2
    have htarget := target_of_late (t := t) hhandles
    have hpending : t.self.pending = ops := hrelays.orderly.pending_of_handshake hp hlane h
    have htrace : t.self.trace = s.trace ++ recorded p c ++ calls := h.trace
    refine ⟨?_, fun _ ↦ ?_, fun hne ↦ ?_, hdecided⟩
    · rw [hpending, htrace]
      exact h.allowed.sends hlane (hs.sends p hmem) htarget hrequest
    · rw [htrace]
      exact h.allowed.leading hlane (hs.sends p hmem) htarget hrequest
    · obtain ⟨⟨data, failure, rfl⟩, rfl, hprelude⟩ := hrelays.begins hp hlane h hne
      obtain ⟨hhost, hport⟩ := htarget rfl
      obtain ⟨hvia, hnot⟩ : Led s.targetHost s.targetPort s.trace := hs.sends _ hmem
      have hnil : sentOn .remote (recorded (.write data (.tunnelReply failure)) .written) = [] :=
        sentOn_recorded (by rintro _ _ ⟨⟩; simp [WriteHandler.side]) _
      rw [hprelude, hhost, hport]
      constructor <;> rw [throughV2rayn_append, or_iff_left (not_throughV2rayn_recorded _ _),
        sentOn_append, hnil, List.append_nil]
      · exact hvia
      · exact hnot
  · obtain ⟨hrelayed, hgrown, hprelude⟩ := hrelays.goes_on hp hlane h
    have hlate : p.isEarly = false := by
      by_contra hearly
      exact hlane (Pending.lane_of_isEarly (Bool.not_eq_false _ ▸ hearly))
    obtain ⟨hhost, hport⟩ := target_of_late (t := t) hhandles hlate
    refine ⟨fun q hq ↦ ?_, fun hnil ↦ absurd hnil hgrown, fun _ ↦ ?_, hdecided⟩
    · exact Pending.sends_of_lane (fun hq' ↦ hgrown (hrelays'.waits ⟨q, hq, hq'⟩)) _ _ _
    · rw [hprelude, hhost, hport]
      exact hs.led hrelayed

end Session

namespace World

theorem asking {w₀ w : World} (hw : Reachable step w₀ w) (h₀ : w₀.sessions = []) :
    ∀ s ∈ w.sessions, s.Aimed ∧ s.Relays ∧ s.Asking := by
  refine advances_induction hw h₀ (fun _ _ _ _ h hbegins ↦ ⟨Session.aimed_of_begins h hbegins,
    Session.relays_of_started h, Session.asking_of_started h⟩) ?_
  rintro env s g t k p c calls ops ⟨haimed, hrelays, hasking⟩ hp h hhandles
  refine ⟨?_, hrelays.react hp h, hasking.react hrelays haimed hp h hhandles⟩
  obtain ⟨hsteady | ⟨r, chunk, rfl, rfl, hroutes, hasks⟩, hgreets⟩ := hhandles
  · exact haimed.steady hp h hsteady hgreets
  · exact haimed.routes hp h hroutes hasks

/-- **What the other side is sent.** In every reachable state, a session that goes through v2ray has
decided about its destination, once, and was asked for it by its client; it has sent v2ray the
method message and the request, or the beginning of both if it has not begun to relay, and what
v2ray reads in them is this destination exactly when the host has at most 255 bytes. A session that
does not go through v2ray has sent neither. Behind that comes the beginning of what its client has
sent since the relay began, and nothing else. -/
theorem upstream_told {w₀ w : World} (hw : Reachable step w₀ w) (h₀ : w₀.sessions = [])
    {s : Session} (hs : s ∈ w.sessions) :
    (ThroughV2rayn s.trace → s.Decided) ∧
    ((s.relayed = [] ∧
        (ThroughV2rayn s.trace →
          sentOn .remote s.trace <+: v2raynLead s.targetHost s.targetPort ∧
          ((∃ rest, decodeLead (sentOn .remote s.trace ++ rest) =
            some (s.targetHost, s.targetPort, [])) ↔ s.targetHost.length ≤ 255)) ∧
        (¬ThroughV2rayn s.trace → sentOn .remote s.trace = [])) ∨
      ∃ payload, payload <+: receivedOn .client s.relayed ∧
        (ThroughV2rayn s.prelude →
          sentOn .remote s.trace = v2raynLead s.targetHost s.targetPort ++ payload ∧
          (decodeLead (sentOn .remote s.trace) = some (s.targetHost, s.targetPort, payload) ↔
            s.targetHost.length ≤ 255)) ∧
        (¬ThroughV2rayn s.prelude → sentOn .remote s.trace = payload)) := by
  obtain ⟨haimed, hrelays, hasking⟩ := asking hw h₀ s hs
  refine ⟨fun hvia ↦ haimed.decided.resolve_left (hasking.decided hvia), ?_⟩
  by_cases hrelayed : s.relayed = []
  · have hleading := hasking.leading hrelayed
    exact .inl ⟨hrelayed, fun hvia ↦ ⟨hleading.v2rayn hvia, hleading.decodeLead_iff hvia⟩,
      hleading.target⟩
  · have hsplit : sentOn .remote s.trace =
        sentOn .remote s.prelude ++ sentOn .remote s.relayed := by
      rw [← sentOn_append, s.prelude_append_relayed]
    obtain ⟨hvia, hnot⟩ := hasking.led hrelayed
    refine .inr ⟨sentOn .remote s.relayed, (hrelays.flows .client).prefix_received, fun h ↦ ?_,
      fun h ↦ ?_⟩
    · rw [hsplit, hvia h]
      exact ⟨rfl, decodeLead_v2raynLead_iff _ _ _⟩
    · rw [hsplit, hnot h, List.nil_append]

/-- v2ray reads the destination before the byte that comes back through it is relayed. -/
theorem replyRun_upstream_told : ∃ w s payload,
    run step {} (replyRun consentAlone exclamation) = .ok w ∧ s ∈ w.sessions ∧
    decodeLead (sentOn .remote s.trace) = some (ofString "h", 80, payload) := by
  have hrun : (run step {} (replyRun consentAlone exclamation)).toOption.map
      (fun w ↦ w.sessions.map fun s ↦ (s.relayed.isEmpty,
        decide (.service (ofString "a") .connectViaV2rayn ∈ s.prelude), s.targetHost,
        s.targetPort)) = some [(false, true, ofString "h", 80)] := by
    decide +kernel
  obtain ⟨w, hw, hobs⟩ := exists_run_of_observation hrun
  obtain ⟨s, hs, hstate⟩ := List.map_eq_singleton_iff.mp hobs
  simp only [Prod.mk.injEq, decide_eq_true_iff] at hstate
  obtain ⟨hrelayed, hthrough, hhost, hport⟩ := hstate
  have hmem : s ∈ w.sessions := hs ▸ List.mem_singleton_self s
  obtain ⟨-, ⟨hnil, -⟩ | ⟨payload, -, hvia, -⟩⟩ := upstream_told ⟨_, hw⟩ rfl hmem
  · rw [hnil] at hrelayed
    cases hrelayed
  · obtain ⟨-, hreads⟩ := hvia ⟨_, hthrough⟩
    rw [hhost, hport] at hreads
    exact ⟨w, s, payload, hw, hmem, hreads.mpr (by decide)⟩

end World

end LanProxyGateway
