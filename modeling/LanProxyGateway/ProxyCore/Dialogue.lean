import LanProxyGateway.ProxyCore.Speaking

/-!
# What the client is told

A client that connects is told what became of its request, and then the relay begins. `client_told`
says so for every session of every reachable state, whatever the two sides send and whatever fails:
what has been sent to the client is the beginning of one of the dialogues there are, in the protocol
it speaks; payload follows only a whole dialogue that ends in success, and is what the other side
has sent since.
-/

open Foundation ByteString

namespace LanProxyGateway

open LanProxy

/-! ## The dialogues -/

/-- A whole dialogue that ends in an error. -/
inductive Refused : ByteString → Prop
  | method : Refused noMethod
  | login : Refused (loginMethod ++ loginRefused)
  | request {isHttp : Bool} {reply : ByteString} (h : reply ∈ refusals isHttp) :
    Refused (preamble isHttp ++ reply)

/-- A whole dialogue that ends in success. -/
inductive Accepted : ByteString → Prop
  | request {isHttp : Bool} {reply : ByteString} (h : Grants isHttp reply) :
    Accepted (preamble isHttp ++ reply)

/-- The beginning of a dialogue. -/
def InDialogue (bytes : ByteString) : Prop := ∃ d, (Refused d ∨ Accepted d) ∧ bytes <+: d

theorem InDialogue.shorter {bytes bytes' : ByteString} (h : InDialogue bytes)
    (hpre : bytes' <+: bytes) : InDialogue bytes' := by
  obtain ⟨d, hd, hbytes⟩ := h
  exact ⟨d, hd, hpre.trans hbytes⟩

theorem inDialogue_of_refused {d : ByteString} (h : Refused d) : InDialogue d :=
  ⟨d, .inl h, List.prefix_rfl⟩

theorem inDialogue_preamble (isHttp : Bool) : InDialogue (preamble isHttp) := by
  have hrefusal : (refusals isHttp).head? ≠ none := by cases isHttp <;> nofun
  obtain ⟨reply, hreply⟩ := Option.ne_none_iff_exists'.mp hrefusal
  exact (inDialogue_of_refused (.request (List.mem_of_head? hreply))).shorter
    (List.prefix_append _ _)

theorem inDialogue_loginMethod : InDialogue loginMethod :=
  (inDialogue_of_refused .login).shorter (List.prefix_append _ _)

theorem inDialogue_nil : InDialogue [] :=
  (inDialogue_preamble true).shorter List.nil_prefix

/-! ## Operations of the handshake -/

theorem inDialogue_told (isHttp : Bool) (p : Pending) : InDialogue (p.told isHttp) := by
  unfold Pending.told
  split
  · exact inDialogue_nil
  · exact inDialogue_nil
  · exact inDialogue_nil
  · exact inDialogue_loginMethod
  · exact inDialogue_loginMethod
  · exact inDialogue_loginMethod
  · exact inDialogue_preamble isHttp

/-- A reply to the client completes the dialogue, or takes it a step further. -/
theorem inDialogue_reply {isHttp : Bool} {data : ByteString} {h : WriteHandler}
    (hp : (Pending.write data h).Proper isHttp) (hside : h.side = .client)
    (hlane : (Pending.write data h).lane = .handshake) :
    InDialogue ((Pending.write data h).told isHttp ++ data) := by
  have hreply := hp.reply
  cases h with
  | methodReply supportAuth =>
    cases supportAuth with
    | false =>
      obtain rfl : data = noMethod := hreply
      exact inDialogue_of_refused .method
    | true =>
      obtain rfl : data = loginMethod := hreply
      exact inDialogue_loginMethod
  | authReply authenticated =>
    cases authenticated with
    | false =>
      obtain rfl : data = loginRefused := hreply
      exact inDialogue_of_refused .login
    | true =>
      obtain rfl : data = loginAccepted := hreply
      exact inDialogue_preamble false
  | closing reason => exact inDialogue_of_refused (.request hreply)
  | tunnelReply failure => exact ⟨_, .inr (.request hreply), List.prefix_rfl⟩
  | relayClient => cases hlane
  | v2raynGreeting | v2raynConnect | relayRemote => cases hside

/-- However an operation of the handshake ends, the client is in a dialogue. -/
theorem inDialogue_recorded {isHttp : Bool} {p : Pending} (hp : p.Proper isHttp)
    (hlane : p.lane = .handshake) (c : Completion) :
    InDialogue (p.told isHttp ++ sentOn .client (recorded p c)) := by
  have hsilent : sentOn .client (recorded p c) = [] →
      InDialogue (p.told isHttp ++ sentOn .client (recorded p c)) := by
    intro hnil
    rw [hnil, List.append_nil]
    exact inDialogue_told isHttp p
  unfold recorded at hsilent ⊢
  split at hsilent
  · exact hsilent rfl
  · rename_i data h
    by_cases hside : h.side = .client
    · simp only [sentOn, List.flatMap_cons, hside, if_true, List.flatMap_nil, List.append_nil]
      exact inDialogue_reply hp hside hlane
    · exact hsilent (by simp [sentOn, hside])
  · rename_i data h message n
    by_cases hside : h.side = .client
    · simp only [sentOn, List.flatMap_cons, hside, if_true, List.flatMap_nil, List.append_nil]
      refine (inDialogue_reply hp hside hlane).shorter ?_
      exact (List.prefix_append_right_inj _).mpr (List.take_prefix n data)
    · exact hsilent (by simp [sentOn, hside])
  · exact hsilent rfl

/-! ## Sessions -/

/-- Nothing is sent by a call. -/
theorem Reaction.sentOn_calls {env : Environment} {b : Buffer} {u u' : ByteString} {p : Pending}
    {c : Completion} {calls : List Call} {ops : List Pending}
    (h : Reaction env b u p c calls ops u') (side : Side) : sentOn side calls = [] := by
  have hrouted : ∀ {w : ByteString} {calls ops}, Routed w calls ops → sentOn side calls = [] := by
    rintro w calls ops (⟨host, port⟩ | ⟨host, port⟩) <;> rfl
  cases h with
  | httpAdmitted _ _ _ _ hr => exact (sentOn_append side [_] _).trans (hrouted hr)
  | request _ hr => exact hrouted hr
  | _ => rfl

namespace Session

/-- The client of the session is in a dialogue, or in a relay that began with success. -/
structure Spoken (s : Session) : Prop where
  proper : ∀ p ∈ s.pending, p.Proper s.isHttp
  waits : ∀ p ∈ s.pending, p.lane = .handshake → sentOn .client s.trace = p.told s.isHttp
  dialogue : s.relayed = [] → InDialogue (sentOn .client s.trace)
  granted : s.relayed ≠ [] → Accepted (sentOn .client s.prelude)

variable {env : Environment} {s : Session} {g : Gateway} {t : Ctx} {k : ℕ} {p : Pending}
  {c : Completion} {calls : List Call} {ops : List Pending}

/-- The relay begins with the success reply. -/
theorem Relays.begins (hs : s.Relays) (hp : s.pending[k]? = some p) (hlane : p.lane = .handshake)
    (h : Yields env (Reaction env s.clientBuffer s.username p c) ⟨s.resume k p c, g⟩ t calls ops)
    (hrelayed : t.self.relayed ≠ []) :
    (∃ data failure, p = .write data (.tunnelReply failure)) ∧ c = .written ∧
      t.self.prelude = s.trace ++ recorded p c := by
  have hbefore := hs.not_isStream hp hlane c
  rcases h.allowed.stream_cases hlane with ⟨hcalls, -⟩ | ⟨hcalls, -⟩
  · have hstream : Call.service s.username .stream ∈ calls := hcalls ▸ List.mem_singleton_self _
    obtain ⟨data, failure, hwrite, hwritten⟩ := h.allowed.of_stream hstream
    refine ⟨⟨data, failure, hwrite⟩, hwritten, ?_⟩
    rw [prelude, h.trace, hcalls, List.takeWhile_append_of_pos]
    · simp [resume, Call.isStream]
    · simpa [resume] using hbefore
  · refine absurd ?_ hrelayed
    rw [relayed_eq_nil_iff, h.trace]
    exact List.forall_mem_append.mpr ⟨hbefore, hcalls⟩

/-- And then it goes on. -/
theorem Relays.goes_on (hs : s.Relays) (hp : s.pending[k]? = some p) (hlane : p.lane ≠ .handshake)
    (h : Yields env (Reaction env s.clientBuffer s.username p c) ⟨s.resume k p c, g⟩ t calls ops) :
    s.relayed ≠ [] ∧ t.self.relayed ≠ [] ∧ t.self.prelude = s.prelude := by
  have hrelayed : s.relayed ≠ [] := hs.runs ⟨p, List.mem_of_getElem? hp, hlane⟩
  have htrace : t.self.trace = s.trace ++ (recorded p c ++ calls) := by
    rw [← List.append_assoc]
    exact h.trace
  obtain ⟨hprelude, hgrown⟩ := relayed_append hrelayed htrace
  refine ⟨hrelayed, ?_, hprelude⟩
  rw [hgrown]
  exact List.append_ne_nil_of_left_ne_nil hrelayed _

/-- A step of the handshake. -/
theorem Spoken.handshake (hs : s.Spoken) (hrelays : s.Relays) (hp : s.pending[k]? = some p)
    (hlane : p.lane = .handshake)
    (h : Yields env (Reaction env s.clientBuffer s.username p c) ⟨s.resume k p c, g⟩ t calls ops)
    (hcontinues : Continues p c ⟨{ s with pending := s.pending.eraseIdx k }, g⟩ t) :
    t.self.Spoken := by
  have hmem : p ∈ s.pending := List.mem_of_getElem? hp
  have halone : ({ s with pending := s.pending.eraseIdx k } : Session).pending = [] :=
    hrelays.orderly.alone hp hlane
  have hsent : sentOn .client t.self.trace =
      p.told s.isHttp ++ sentOn .client (recorded p c) := by
    rw [h.trace, sentOn_append, h.allowed.sentOn_calls, List.append_nil]
    show sentOn .client (s.trace ++ recorded p c) = _
    rw [sentOn_append, hs.waits p hmem hlane]
  have hops : ∀ q ∈ t.self.pending, q.Proper t.self.isHttp ∧ (q.lane = .handshake →
      q.told t.self.isHttp = p.told s.isHttp ++ sentOn .client (recorded p c)) := by
    intro q hq
    have hnew := hcontinues.ops q hq
    rw [halone] at hnew
    exact hnew.resolve_left List.not_mem_nil
  refine ⟨fun q hq ↦ (hops q hq).1, fun q hq hq' ↦ hsent.trans ((hops q hq).2 hq').symm,
    fun _ ↦ ?_, fun hne ↦ ?_⟩
  · rw [hsent]
    exact inDialogue_recorded (hs.proper p hmem) hlane c
  · obtain ⟨⟨data, failure, rfl⟩, rfl, hprelude⟩ := hrelays.begins hp hlane h hne
    have hgrants : Grants s.isHttp data := (hs.proper _ hmem).reply
    rw [hprelude, sentOn_append, hs.waits _ hmem hlane]
    simpa [recorded, sentOn, WriteHandler.side, Pending.told] using Accepted.request hgrants

/-- A step of the relay. -/
theorem Spoken.relay (hs : s.Spoken) (hrelays : s.Relays) (hp : s.pending[k]? = some p)
    (hlane : p.lane ≠ .handshake)
    (h : Yields env (Reaction env s.clientBuffer s.username p c) ⟨s.resume k p c, g⟩ t calls ops)
    (hcontinues : Continues p c ⟨{ s with pending := s.pending.eraseIdx k }, g⟩ t) :
    t.self.Spoken := by
  obtain ⟨hrelayed, hgrown, hprelude⟩ := hrelays.goes_on hp hlane h
  have hhttp : t.self.isHttp = s.isHttp := by
    refine hcontinues.isHttp ?_
    rintro rfl
    exact hlane rfl
  refine ⟨fun q hq ↦ ?_, fun q hq hq' ↦ ?_, fun hnil ↦ absurd hnil hgrown, fun _ ↦ ?_⟩
  · rcases hcontinues.ops q hq with hold | hnew
    · rw [hhttp]
      exact hs.proper q (List.mem_of_mem_eraseIdx hold)
    · exact hnew.1
  · exact absurd ((hrelays.react hp h).waits ⟨q, hq, hq'⟩) hgrown
  · rw [hprelude]
    exact hs.granted hrelayed

theorem spoken_of_started {l : Ledger} (h : Started l t) (hhttp : t.self.isHttp = false) :
    t.self.Spoken := by
  have hrelayed := relayed_of_started h
  have hsent : sentOn .client t.self.trace = [] := by
    rcases h with ⟨ht, -⟩ | ⟨_, ht, -⟩ | ⟨ht, -⟩ | ⟨_, -, ht, -⟩
    · obtain ⟨reason, htrace⟩ := ht.trace
      rw [htrace]
      rfl
    · obtain ⟨reason, htrace⟩ := ht.trace
      rw [htrace]
      rfl
    · rw [ht.trace]
      rfl
    · rw [ht.trace]
      rfl
  refine ⟨fun q hq ↦ ?_, fun q hq _ ↦ ?_, fun _ ↦ ?_, fun hne ↦ absurd hrelayed hne⟩
  · rw [pending_of_started h q hq]
    exact ⟨fun _ ↦ hhttp, trivial⟩
  · rw [pending_of_started h q hq, hsent]
    rfl
  · rw [hsent]
    exact inDialogue_nil

open SessionM in
/-- Nothing in `start` is about the protocol of the client. -/
theorem start_isHttp (a : Arrival) (g : Gateway) :
    wp (start env a.remote) (fun _ t ↦ t.self.isHttp = false) (fun _ ↦ True) ⟨a.session, g⟩ := by
  have hclose : ∀ (reason : Text) (c : Ctx), c.self.isHttp = false →
      wp (closeSession env reason) (fun _ t ↦ t.self.isHttp = false) (fun _ ↦ True) c := by
    intro reason c hc
    have hspeaks : IsSpoken [] c (closeSession env reason) := closeSession_speaks reason c
    exact wp_mono hspeaks (fun _ t ht ↦ ht.isHttp.trans hc) fun _ h ↦ h
  rcases a.remote with _ | ep
  · trivial
  simp only [start, wp_bind, wp_modifySelf, wp_get, wp_ite, wp_log, wp_modifyGateway, implies_true,
    and_true]
  refine ⟨fun _ _ ↦ hclose _ _ rfl, fun _ ↦ ⟨fun _ ↦ ?_, fun _ _ ↦ hclose _ _ rfl⟩⟩
  simp only [requestAdmission, onAdmission, doHandshake, wp_bind, wp_get, wp_modifyGateway, wp_call,
    wp_ite, wp_log, wp_modifySelf, wp_post, implies_true, and_true]
  exact ⟨fun _ _ ↦ hclose _ _ rfl, fun _ ↦ ⟨fun _ _ _ ↦ rfl, fun _ _ ↦ rfl⟩⟩

end Session

namespace World

theorem spoken_of_step {w t : World} {e : Event}
    (hw : ∀ s ∈ w.sessions, s.Relays ∧ s.Spoken) (ht : w.step e = .ok t) :
    ∀ s ∈ t.sessions, s.Relays ∧ s.Spoken := by
  rcases step_cases ht with rfl | ⟨env, a, c, rfl, hstart, rfl⟩ |
    ⟨i, k, completion, env, s, p, m, c, rfl, hs, hp, hm, hrun, rfl⟩
  · exact hw
  · have hstarted := wp_of_ok (Session.start_starts a w.gateway) hstart
    have hhttp := wp_of_ok (Session.start_isHttp a w.gateway) hstart
    intro s hs
    rcases List.mem_append.mp hs with hs | hs
    · exact hw s hs
    · rw [List.mem_singleton.mp hs]
      exact ⟨Session.relays_of_started hstarted, Session.spoken_of_started hstarted hhttp⟩
  · obtain ⟨hrelays, hspoken⟩ := hw s (List.mem_of_getElem? hs)
    obtain ⟨calls, ops, hy⟩ := wp_of_ok (Session.dispatch_reacts hm _) hrun
    have hcontinues := wp_of_ok (Session.dispatch_speaks hm
      (hspoken.proper p (List.mem_of_getElem? hp))) hrun
    intro s' hs'
    rcases List.mem_or_eq_of_mem_set hs' with hs' | rfl
    · exact hw s' hs'
    · refine ⟨hrelays.react hp hy, ?_⟩
      by_cases hlane : p.lane = .handshake
      · exact hspoken.handshake hrelays hp hlane hy hcontinues
      · exact hspoken.relay hrelays hp hlane hy hcontinues

/-- **What the client is told.** In every reachable state, what has been sent to the client of a
session that has not begun to relay is the beginning of a dialogue; in the relay it is a whole
dialogue that ends in success, and then the beginning of what the other side has sent since. -/
theorem client_told {w₀ w : World} (hw : Reachable step w₀ w) (h₀ : w₀.sessions = [])
    {s : Session} (hs : s ∈ w.sessions) :
    (s.relayed = [] ∧ ∃ d, (Refused d ∨ Accepted d) ∧ sentOn .client s.trace <+: d) ∨
      ∃ d payload, Accepted d ∧ sentOn .client s.trace = d ++ payload ∧
        payload <+: receivedOn .remote s.relayed := by
  have hnone : ∀ s ∈ w₀.sessions, s.Relays ∧ s.Spoken := by
    rw [h₀]
    exact fun s hs ↦ absurd hs List.not_mem_nil
  obtain ⟨hrelays, hspoken⟩ := hw.induction (I := fun w ↦ ∀ s ∈ w.sessions, s.Relays ∧ s.Spoken)
    hnone (fun w e t hI ht ↦ spoken_of_step hI ht) s hs
  by_cases hrelayed : s.relayed = []
  · exact .inl ⟨hrelayed, hspoken.dialogue hrelayed⟩
  · refine .inr ⟨sentOn .client s.prelude, sentOn .client s.relayed, hspoken.granted hrelayed, ?_,
      (hrelays.flows .remote).prefix_received⟩
    rw [← sentOn_append, s.prelude_append_relayed]

/-- The client of a direct tunnel is told that it stands. -/
theorem relayRun_client_told : ∃ w s d payload, run step {} relayRun = .ok w ∧ s ∈ w.sessions ∧
    Accepted d ∧ sentOn .client s.trace = d ++ payload := by
  have hrun : (run step {} relayRun).toOption.map
      (fun w ↦ w.sessions.map fun s ↦ s.relayed.isEmpty) = some [false] := by decide +kernel
  obtain ⟨w, hw, hobs⟩ := exists_run_of_observation hrun
  obtain ⟨s, hs, hrelayed⟩ := List.map_eq_singleton_iff.mp hobs
  have hmem : s ∈ w.sessions := hs ▸ List.mem_singleton_self s
  obtain ⟨hnil, -⟩ | ⟨d, payload, hd, htrace, -⟩ := client_told ⟨relayRun, hw⟩ rfl hmem
  · rw [hnil] at hrelayed
    cases hrelayed
  · exact ⟨w, s, d, payload, hw, hmem, hd, htrace⟩

end World

end LanProxyGateway
