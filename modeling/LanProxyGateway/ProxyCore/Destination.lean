import LanProxyGateway.ProxyCore.Frame

/-!
# The destination on its way to v2ray

A session learns its destination from a SOCKS5 request or from the head of an HTTP CONNECT, decides
about its route, and, when the route leads through v2ray, asks v2ray for that destination. `Aimed`
says that the destination does not change on the way: what is decided about, what is noted, and what
goes into the request for v2ray are the host and the port that some read asked for.

The request carries the length of the host in one byte. A named host of a SOCKS5 request is never
longer than that, but the host of an HTTP CONNECT may fill the buffer. `decodeConnect` reads a
request as `do_request` does (`parseRequest_eq_target_iff`), and what it reads is the destination
exactly when the host has at most 255 bytes.
-/

open Foundation ByteString

namespace LanProxyGateway

open LanProxy

/-! ## The request on the wire -/

/-- A CONNECT request for a named host under RFC 1928, taken from the front of a stream: host, port,
and the bytes that are left over. -/
def decodeConnect : ByteString → Option (ByteString × UInt16 × ByteString)
  | version :: command :: _ :: atyp :: domainLen :: rest =>
    match rest.drop domainLen.toNat with
    | high :: low :: after =>
      if version = socksVersion ∧ command = cmdConnect ∧ atyp = atypDomain then
        some (rest.take domainLen.toNat, portOfBytes high low, after)
      else none
    | _ => none
  | _ => none

theorem decodeConnect_eq_some_iff {bytes host after : ByteString} {port : UInt16} :
    decodeConnect bytes = some (host, port, after) ↔
      ∃ reserved domainLen high low, bytes = socksVersion :: cmdConnect :: reserved :: atypDomain ::
        domainLen :: (host ++ high :: low :: after) ∧
        host.length = domainLen.toNat ∧ port = portOfBytes high low := by
  constructor
  · intro h
    unfold decodeConnect at h
    split at h
    · rename_i version command reserved atyp domainLen rest
      split at h
      · rename_i high low after' hdrop
        split at h
        · rename_i hfixed
          obtain ⟨rfl, rfl, rfl⟩ := hfixed
          simp only [Option.some.injEq, Prod.mk.injEq] at h
          obtain ⟨rfl, rfl, rfl⟩ := h
          refine ⟨reserved, domainLen, high, low, ?_, ?_, rfl⟩
          · rw [← hdrop, List.take_append_drop]
          · have hlen := congrArg List.length hdrop
            rw [List.length_drop, List.length_cons] at hlen
            rw [List.length_take]
            omega
        · cases h
      · cases h
    · cases h
  · rintro ⟨reserved, domainLen, high, low, rfl, hlen, rfl⟩
    simp only [decodeConnect, List.drop_left' hlen, List.take_left' hlen, and_self, if_true]

/-- What `do_request` takes for a request for a named host is such a request at the front of the
bytes it has read. -/
theorem parseRequest_eq_target_iff (v6Text : List UInt8 → AsciiText) (b : Buffer)
    {bytes host : ByteString} {port : UInt16} (hlen : bytes.length ≤ 8192)
    (hatyp : bytes[3]? = some atypDomain) :
    parseRequest v6Text (b.store bytes) bytes.length = .target host port ↔
      ∃ after, decodeConnect bytes = some (host, port, after) := by
  rw [parseRequest_eq_target_iff_starts, b.read_store_self hlen]
  simp only [decodeConnect_eq_some_iff]
  constructor
  · rintro ⟨⟨⟨command, reserved, address, port'⟩, hcommand⟩, after, rfl, hvalue⟩
    obtain rfl : command = cmdConnect := hcommand
    obtain ⟨rfl, rfl⟩ := Prod.mk.inj hvalue
    cases address with
    | ipv4 b0 b1 b2 b3 => exact absurd (Option.some.inj hatyp) (by decide)
    | ipv6 address hsixteen => exact absurd (Option.some.inj hatyp) (by decide)
    | domain name hname =>
      refine ⟨after, reserved, name.length.toUInt8, (port' >>> 8).toUInt8, port'.toUInt8, ?_,
        (toNat_length hname).symm, (portOfBytes_split port').symm⟩
      simp [RequestMessage.encode, TargetAddress.encode, TargetAddress.host]
  · rintro ⟨after, reserved, domainLen, high, low, rfl, hhost, rfl⟩
    have hlt := domainLen.toNat_lt
    obtain ⟨hhigh, hlow⟩ := bytes_portOfBytes high low
    refine ⟨⟨⟨cmdConnect, reserved, .domain host (by omega), portOfBytes high low⟩, rfl⟩, after, ?_,
      rfl⟩
    simp [RequestMessage.encode, TargetAddress.encode, toUInt8_length_eq hhost, hhigh, hlow]

/-- **Encoding and decoding agree up to 255 bytes.** From there on the length byte is wrong. -/
theorem decode_v2raynRequest_iff (host : ByteString) (port : UInt16) :
    decodeConnect (Session.v2raynRequest host port) = some (host, port, []) ↔
      host.length ≤ 255 := by
  rw [decodeConnect_eq_some_iff]
  constructor
  · rintro ⟨_, domainLen, _, _, -, hlen, -⟩
    have hlt := domainLen.toNat_lt
    omega
  · intro hle
    refine ⟨0x00, host.length.toUInt8, (port >>> 8).toUInt8, port.toUInt8, ?_, ?_, ?_⟩
    · simp only [Session.v2raynRequest, List.cons_append, List.nil_append]
    · simp
      omega
    · exact (portOfBytes_split port).symm

/-! ## Where the destination comes from -/

namespace Session

/-- A read of the session asked for `host` and `port`. -/
def Asked (s : Session) (host : ByteString) (port : UInt16) : Prop :=
  ∃ env b r chunk, .received .client chunk.bytes ∈ s.trace ∧ Asks env b r chunk host port

theorem Asked.mono {s t : Session} {host : ByteString} {port : UInt16} (h : s.Asked host port)
    (ht : s.trace ⊆ t.trace) : t.Asked host port := by
  obtain ⟨env, b, r, chunk, hreceived, hasks⟩ := h
  exact ⟨env, b, r, chunk, ht hreceived, hasks⟩

/-- The session has decided about its destination, once, and was asked for it. -/
def Decided (s : Session) : Prop :=
  (∃ u, s.decisions = [.service u (.routeDecision s.targetHost s.targetPort)]) ∧
    s.Asked s.targetHost s.targetPort

end Session

/-- An operation on the way to v2ray belongs to a session that has decided, and carries its
destination. -/
def Pending.Aims (s : Session) : Pending → Prop
  | .resolveV2rayn | .connectV2rayn | .read .v2raynConnect => s.Decided
  | .write _ (.v2raynGreeting host port) | .read (.v2raynGreeting host port) =>
    s.Decided ∧ host = s.targetHost ∧ port = s.targetPort
  | .write data .v2raynConnect =>
    s.Decided ∧ data = Session.v2raynRequest s.targetHost s.targetPort
  | _ => True

theorem Pending.aims_of_lane {p : Pending} (h : p.lane ≠ .handshake) (s : Session) : p.Aims s := by
  unfold Aims
  split
  all_goals trivial

namespace Reaction

variable {env : Environment} {b : Buffer} {u u' : ByteString} {p : Pending} {c : Completion}
  {calls : List Call} {ops : List Pending}

/-- Only an early operation is followed by one. -/
theorem early (h : Reaction env b u p c calls ops u') {q : Pending} (hq : q ∈ ops)
    (hearly : q.isEarly = true) : p.isEarly = true := by
  have hrouted : ∀ {v : ByteString} {calls ops}, Routed v calls ops → q ∈ ops → False := by
    rintro v calls ops (⟨host, port⟩ | ⟨host, port⟩) hmem <;>
    · rw [List.mem_singleton.mp hmem] at hearly
      exact Bool.false_ne_true hearly
  cases h with
  | greetingAgain hh | greeting hh => rcases hh with rfl | rfl <;> rfl
  | awaitLogin hh | awaitRequest hh => rcases hh with ⟨data, rfl⟩ | rfl <;> rfl
  | loginAgain | login | requestAgain | httpRefused => rfl
  | httpAdmitted _ _ _ _ hr => exact (hrouted hr hq).elim
  | request _ hr => exact (hrouted hr hq).elim
  | close | dropped => exact absurd hq List.not_mem_nil
  | stream => rcases List.mem_pair.mp hq with rfl | rfl <;> exact absurd hearly Bool.false_ne_true
  | _ =>
    rw [List.mem_singleton.mp hq] at hearly
    exact absurd hearly Bool.false_ne_true

/-- A handler that decides starts the first operation on the way to the target. -/
theorem routed_of_decision (h : Reaction env b u p c calls ops u')
    (hd : calls.filter Call.isDecision ≠ []) : ∃ v calls', Routed v calls' ops := by
  cases h with
  | httpAdmitted _ _ _ _ hr => exact ⟨_, _, hr⟩
  | request _ hr => exact ⟨_, _, hr⟩
  | _ => exact absurd rfl hd

/-- The destination is handed on from operation to operation. -/
theorem aims (h : Reaction env b u p c calls ops u') (hno : calls.filter Call.isDecision = [])
    {s t : Session} (hp : p.Aims s)
    (hkeep : p.isEarly = false → s.Decided →
      t.Decided ∧ t.targetHost = s.targetHost ∧ t.targetPort = s.targetPort)
    (hgreets : p = .connectV2rayn → ∀ data host port,
      .write data (.v2raynGreeting host port) ∈ ops →
      host = s.targetHost ∧ port = s.targetPort) : ∀ q ∈ ops, q.Aims t := by
  have hrouted : ∀ {v : ByteString} {calls ops}, Routed v calls ops →
      calls.filter Call.isDecision ≠ [] := by
    rintro v calls ops (⟨host, port⟩ | ⟨host, port⟩) <;> exact List.cons_ne_nil _ _
  intro q hq
  cases h with
  | httpAdmitted _ _ _ _ hr =>
    rw [List.filter_cons_of_neg Bool.false_ne_true] at hno
    exact absurd hno (hrouted hr)
  | request _ hr => exact absurd hno (hrouted hr)
  | close | dropped => exact absurd hq List.not_mem_nil
  | stream => rcases List.mem_pair.mp hq with rfl | rfl <;> trivial
  | resolvedV2rayn =>
    rw [List.mem_singleton.mp hq]
    exact (hkeep rfl hp).1
  | connectedV2rayn _ _ host port =>
    obtain ⟨hdecided, hhost, hport⟩ := hkeep rfl hp
    obtain ⟨rfl, rfl⟩ := hgreets rfl _ host port (List.mem_singleton_self _)
    rw [List.mem_singleton.mp hq]
    exact ⟨hdecided, hhost.symm, hport.symm⟩
  | v2raynGreeted data host port =>
    obtain ⟨hdecided, rfl, rfl⟩ := hp
    obtain ⟨hdecided, hhost, hport⟩ := hkeep rfl hdecided
    rw [List.mem_singleton.mp hq]
    exact ⟨hdecided, hhost.symm, hport.symm⟩
  | v2raynMethod _ host port =>
    obtain ⟨hdecided, rfl, rfl⟩ := hp
    obtain ⟨hdecided, hhost, hport⟩ := hkeep rfl hdecided
    rw [List.mem_singleton.mp hq]
    exact ⟨hdecided, by rw [hhost, hport]⟩
  | v2raynRequested =>
    rw [List.mem_singleton.mp hq]
    exact (hkeep rfl hp.1).1
  | _ =>
    rw [List.mem_singleton.mp hq]
    trivial

end Reaction

namespace Session

/-- The destination does not change on its way. -/
structure Aimed (s : Session) : Prop where
  orderly : s.Orderly
  /-- An early session has not decided, and no address has been looked up for it. -/
  early : ∀ p ∈ s.pending, p.isEarly = true → s.resolvedIp = [] ∧ s.decisions = []
  decided : s.decisions = [] ∨ s.Decided
  aims : ∀ p ∈ s.pending, p.Aims s

variable {env : Environment} {s : Session} {g : Gateway} {t : Ctx} {k : ℕ} {p : Pending}
  {c : Completion} {calls : List Call} {ops : List Pending}

theorem decisions_recorded (p : Pending) (c : Completion) :
    (recorded p c).filter Call.isDecision = [] := by
  unfold recorded
  split <;> rfl

/-- The decisions of a reaction are those among its calls. -/
theorem decisions_of_yields
    (h : Yields env (Reaction env s.clientBuffer s.username p c) ⟨s.resume k p c, g⟩ t calls ops) :
    t.self.decisions = s.decisions ++ calls.filter Call.isDecision := by
  have htrace : t.self.trace = s.trace ++ recorded p c ++ calls := h.trace
  rw [decisions, htrace, List.filter_append, List.filter_append, decisions_recorded,
    List.append_nil]
  rfl

theorem aimed_of_begins {l : Ledger} {a : Arrival} (h : Started l t)
    (hbegins : Begins ⟨a.session, g⟩ t) : t.self.Aimed := by
  have hunmoved : Unmoved (.read .handshake) a.session t.self := by
    rcases hbegins with ⟨h, -⟩ | h
    · exact h
    · exact h.unmoved
  refine ⟨orderly_of_started h, fun q _ _ ↦ ⟨hunmoved.resolvedIp rfl, hunmoved.decisions⟩,
    .inl hunmoved.decisions, fun q hq ↦ ?_⟩
  rw [pending_of_started h q hq]
  trivial

/-- The operations that were under way beside the one that completed. -/
theorem Orderly.lane_of_rest (hs : s.Orderly) (hp : s.pending[k]? = some p) {q : Pending}
    (hq : q ∈ s.pending.eraseIdx k) : q.lane ≠ .handshake :=
  ((pairwise_eraseIdx Apart.symm hs.apart hp).2 q hq).2.2

theorem Aimed.steady (hs : s.Aimed) (hp : s.pending[k]? = some p)
    (h : Yields env (Reaction env s.clientBuffer s.username p c) ⟨s.resume k p c, g⟩ t calls ops)
    (hsteady : Steady p ⟨{ s with pending := s.pending.eraseIdx k }, g⟩ t)
    (hgreets : p = .connectV2rayn → ∀ data host port,
      .write data (.v2raynGreeting host port) ∈ t.self.pending →
        .write data (.v2raynGreeting host port) ∈ s.pending.eraseIdx k ∨
          host = s.targetHost ∧ port = s.targetPort) : t.self.Aimed := by
  have hunmoved := hsteady.unmoved
  have hdecisions : t.self.decisions = s.decisions := hunmoved.decisions
  have hpending : t.self.pending = s.pending.eraseIdx k ++ ops := h.pending
  have hmem : p ∈ s.pending := List.mem_of_getElem? hp
  have hno : calls.filter Call.isDecision = [] := by
    have hcalls := decisions_of_yields h
    rw [hdecisions] at hcalls
    exact List.self_eq_append_right.mp hcalls
  have hkeep : p.isEarly = false → s.Decided →
      t.self.Decided ∧ t.self.targetHost = s.targetHost ∧ t.self.targetPort = s.targetPort := by
    rintro hlate ⟨⟨u, hu⟩, hasked⟩
    have hhost : t.self.targetHost = s.targetHost := hunmoved.host hlate
    have hport : t.self.targetPort = s.targetPort := hunmoved.port hlate
    refine ⟨⟨⟨u, ?_⟩, ?_⟩, hhost, hport⟩ <;> rw [hhost, hport]
    · exact hdecisions.trans hu
    · refine hasked.mono ?_
      rw [h.trace]
      exact fun x hx ↦ List.mem_append_left _ (List.mem_append_left _ hx)
  refine ⟨hs.orderly.react hp h, ?_, ?_, ?_⟩
  · intro q hq hearly
    rw [hpending, List.mem_append] at hq
    rcases hq with hq | hq
    · exact absurd (Pending.lane_of_isEarly hearly) (hs.orderly.lane_of_rest hp hq)
    · have hpe := h.allowed.early hq hearly
      obtain ⟨hip, hnone⟩ := hs.early p hmem hpe
      exact ⟨(hunmoved.resolvedIp hpe).trans hip, hdecisions.trans hnone⟩
  · rcases hearly : p.isEarly with _ | _
    · exact hs.decided.imp hdecisions.trans fun hd ↦ (hkeep hearly hd).1
    · exact .inl (hdecisions.trans (hs.early p hmem hearly).2)
  · rw [hpending]
    refine List.forall_mem_append.mpr ⟨fun q hq ↦ ?_, ?_⟩
    · exact Pending.aims_of_lane (hs.orderly.lane_of_rest hp hq) _
    · refine h.allowed.aims hno (hs.aims p hmem) hkeep ?_
      rintro rfl data host port hop
      have halone : s.pending.eraseIdx k = [] := hs.orderly.alone hp rfl
      have hgreet := hgreets rfl data host port (by
        rw [hpending]
        exact List.mem_append_right _ hop)
      rw [halone] at hgreet
      exact hgreet.resolve_left List.not_mem_nil

theorem Aimed.routes (hs : s.Aimed) {r : ReadHandler} {chunk : Chunk}
    (hp : s.pending[k]? = some (.read r))
    (h : Yields env (Reaction env s.clientBuffer s.username (.read r) (.received chunk))
      ⟨s.resume k (.read r) (.received chunk), g⟩ t calls ops)
    (hroutes : Routes env ⟨{ s with pending := s.pending.eraseIdx k }, g⟩ t)
    (hasks : Asks env s.clientBuffer r chunk t.self.targetHost t.self.targetPort) :
    t.self.Aimed := by
  obtain ⟨hearly, hside⟩ := hasks.isEarly
  have hmem : .read r ∈ s.pending := List.mem_of_getElem? hp
  have hnone : s.decisions = [] := (hs.early _ hmem hearly).2
  have hdecisions : t.self.decisions =
      [.service t.self.username (.routeDecision t.self.targetHost t.self.targetPort)] := by
    have hd : t.self.decisions = s.decisions ++ _ := hroutes.decisions
    rwa [hnone, List.nil_append] at hd
  have hdecided : t.self.Decided := by
    refine ⟨⟨_, hdecisions⟩, env, s.clientBuffer, r, chunk, ?_, hasks⟩
    have hreceived : .received .client chunk.bytes ∈ recorded (.read r) (.received chunk) := by
      rw [recorded, hside]
      exact List.mem_singleton_self _
    rw [h.trace]
    exact List.mem_append_left _ (List.mem_append_right _ hreceived)
  have hcalls : calls.filter Call.isDecision ≠ [] := by
    intro hno
    have hd := decisions_of_yields h
    rw [hno, hnone, hdecisions] at hd
    exact absurd hd (List.cons_ne_nil _ _)
  have hpending : t.self.pending = ops :=
    hs.orderly.pending_of_handshake hp (Pending.lane_of_isEarly hearly) h
  obtain ⟨v, calls', hrouted⟩ := h.allowed.routed_of_decision hcalls
  have hops : ∀ q ∈ t.self.pending, (∃ host, q = .resolveDirect host) ∨ q = .resolveV2rayn := by
    intro q hq
    rw [hpending] at hq
    rcases hrouted with ⟨host, port⟩ | ⟨host, port⟩
    · exact .inl ⟨host, List.mem_singleton.mp hq⟩
    · exact .inr (List.mem_singleton.mp hq)
  refine ⟨hs.orderly.react hp h, ?_, .inr hdecided, ?_⟩
  · intro q hq hqe
    rcases hops q hq with ⟨host, rfl⟩ | rfl <;> exact absurd hqe Bool.false_ne_true
  · intro q hq
    rcases hops q hq with ⟨host, rfl⟩ | rfl
    · trivial
    · exact hdecided

end Session

namespace World

/-- **The destination does not change on its way**, in any session of any reachable state. -/
theorem aimed {w₀ w : World} (h₀ : w₀.sessions = []) (hw : Reachable World.step w₀ w) {s : Session}
    (hs : s ∈ w.sessions) : s.Aimed := by
  refine advances_induction hw h₀
    (fun _ _ _ _ h hbegins ↦ Session.aimed_of_begins h hbegins) ?_ s hs
  rintro env s g t k p c calls ops hI hp h ⟨hsteady | ⟨r, chunk, rfl, rfl, hroutes, hasks⟩, hgreets⟩
  · exact hI.steady hp h hsteady hgreets
  · exact hI.routes hp h hroutes hasks

/-- **What v2ray is asked for.** A request for v2ray that a session of a reachable state is writing
is made from the one destination the session has decided about, which its client has asked for;
v2ray reads that destination in it, with nothing left over, exactly when the host has at most 255
bytes. -/
theorem request_decodes_iff {w₀ w : World} (h₀ : w₀.sessions = []) (hw : Reachable World.step w₀ w)
    {s : Session} (hs : s ∈ w.sessions) {data : ByteString}
    (hdata : .write data .v2raynConnect ∈ s.pending) :
    ∃ u host port, s.decisions = [.service u (.routeDecision host port)] ∧ s.Asked host port ∧
      (decodeConnect data = some (host, port, []) ↔ host.length ≤ 255) := by
  obtain ⟨⟨⟨u, hu⟩, hasked⟩, rfl⟩ := (aimed h₀ hw hs).aims _ hdata
  exact ⟨u, s.targetHost, s.targetPort, hu, hasked, decode_v2raynRequest_iff _ _⟩

/-- The method that v2ray chooses. -/
def methodChosen : Chunk where
  bytes := [0x05, 0x00]
  nonempty := by decide
  fits := by decide

/-- A client asks for a destination, and the gateway gets as far as its request for v2ray. -/
def askRun (head : Chunk) : List Event :=
  [.start (sampleEnvironment .proxy) sampleArrival,
    .complete 0 0 (.received head) (sampleEnvironment .proxy),
    .complete 0 0 (.resolved [sampleEndpoint 10808]) (sampleEnvironment .proxy),
    .complete 0 0 (.connected (sampleEndpoint 10808) (sampleEndpoint 40000))
      (sampleEnvironment .proxy),
    .complete 0 0 .written (sampleEnvironment .proxy),
    .complete 0 0 (.received methodChosen) (sampleEnvironment .proxy)]

/-- The client that asks for `h` gets `h`. -/
theorem askRun_request_decodes_iff : ∃ w, Reachable World.step {} w ∧ ∃ s ∈ w.sessions,
    ∃ u host port, s.decisions = [.service u (.routeDecision host port)] ∧ s.Asked host port ∧
      (decodeConnect (Session.v2raynRequest (ofString "h") 80) = some (host, port, []) ↔
        host.length ≤ 255) := by
  have hrun : (run World.step {} (askRun sampleHead)).toOption.map
      (fun w ↦ w.sessions.map fun s ↦ s.pending) =
      some [[.write (Session.v2raynRequest (ofString "h") 80) .v2raynConnect]] := by decide +kernel
  obtain ⟨w, hw, hobs⟩ := exists_run_of_observation hrun
  obtain ⟨s, hs, hpending⟩ := List.map_eq_singleton_iff.mp hobs
  have hreach : Reachable World.step {} w := ⟨_, hw⟩
  have hmem : s ∈ w.sessions := hs ▸ List.mem_singleton_self s
  exact ⟨w, hreach, s, hmem, request_decodes_iff rfl hreach hmem
    (hpending ▸ List.mem_singleton_self _)⟩

/-- A host of one byte more than a byte can count. -/
def longHost : ByteString := List.replicate 256 97

/-- The head of an HTTP CONNECT to port 80 of that host. -/
def longHead : Chunk where
  bytes := ofString "CONNECT " ++ longHost
    ++ ofString ":80 HTTP/1.1\r\nProxy-Authorization: Basic YTph\r\n\r\n"
  nonempty := by decide
  fits := by decide +kernel

/-- The request for it reads as a request for no host at all, with all of it left over. -/
theorem longRun_asks_for_another : ∃ w, Reachable World.step {} w ∧ ∃ s ∈ w.sessions,
    ∃ u data, .write data .v2raynConnect ∈ s.pending ∧
      s.decisions = [.service u (.routeDecision longHost 80)] ∧ s.Asked longHost 80 ∧
      decodeConnect data ≠ some (longHost, 80, []) ∧
      (decodeConnect data).map (fun d ↦ d.1) = some [] := by
  have hrun : (run World.step {} (askRun longHead)).toOption.map
      (fun w ↦ w.sessions.map fun s ↦ (s.targetHost, s.targetPort, s.pending)) =
      some [(longHost, 80, [.write (Session.v2raynRequest longHost 80) .v2raynConnect])] := by
    decide +kernel
  obtain ⟨w, hw, hobs⟩ := exists_run_of_observation hrun
  obtain ⟨s, hs, hstate⟩ := List.map_eq_singleton_iff.mp hobs
  simp only [Prod.mk.injEq] at hstate
  obtain ⟨hhost, hport, hpending⟩ := hstate
  have hreach : Reachable World.step {} w := ⟨_, hw⟩
  have hmem : s ∈ w.sessions := hs ▸ List.mem_singleton_self s
  have hdata : .write (Session.v2raynRequest longHost 80) .v2raynConnect ∈ s.pending :=
    hpending ▸ List.mem_singleton_self _
  obtain ⟨⟨⟨u, hu⟩, hasked⟩, -⟩ := (aimed rfl hreach hmem).aims _ hdata
  rw [hhost, hport] at hu hasked
  refine ⟨w, hreach, s, hmem, u, _, hdata, hu, hasked, fun h ↦ ?_, by decide +kernel⟩
  exact absurd ((decode_v2raynRequest_iff longHost 80).mp h) (by decide +kernel)

end World

end LanProxyGateway
