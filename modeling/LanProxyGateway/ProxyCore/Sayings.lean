import LanProxyGateway.ProxyCore.Frame
import LanProxyGateway.ProxyCore.Hearing

/-!
# What a handshake gets to has been said

However the messages of a client are cut, credentials and targets are taken from one read alone. So
a handshake that gets anywhere has had a read that begins with a whole message (`run_said`).
-/

open Foundation ByteString

namespace LanProxyGateway

open LanProxy

/-! ## Every milestone is the work of one read -/

/-- The bytes of one read say that the handshake is to get to a milestone. Method replies are not
looked at. -/
inductive Said (env : Environment) (chunk : Chunk) : Milestone → Prop
  | methodReply (method : UInt8) : Said env chunk (.methodReply method)
  | credentials {b : Buffer} {r : ReadHandler} {u pw : ByteString} {ok : Bool}
    (h : Presents env b r chunk u pw ok) : Said env chunk (.credentials u pw)
  | target {b : Buffer} {r : ReadHandler} {host : ByteString} {port : UInt16}
    (h : Asks env b r chunk host port) : Said env chunk (.target host port)

namespace Reaction

variable {env : Environment} {b : Buffer} {u u' v pw : ByteString} {p : Pending} {x : Completion}
  {calls : List Call} {ops : List Pending} {ok : Bool}

/-- Only a read hands credentials to `authenticate`. -/
theorem presents_of_authenticate (h : Reaction env b u p x calls ops u')
    (hmem : .authenticate v pw ok ∈ calls) :
    ∃ r chunk, p = .read r ∧ x = .received chunk ∧ Presents env b r chunk v pw ok := by
  cases h with
  | httpRefused chunk _ _ _ _ hl =>
    cases List.mem_singleton.mp hmem
    exact ⟨_, chunk, rfl, rfl, hl⟩
  | httpAdmitted chunk _ _ hl hr =>
    rcases List.mem_cons.mp hmem with hmem | hmem
    · cases hmem
      exact ⟨_, chunk, rfl, rfl, hl⟩
    · exact absurd hmem (hr.not_authenticate v pw ok)
  | login chunk _ _ _ _ hl =>
    cases List.mem_singleton.mp hmem
    exact ⟨_, chunk, rfl, rfl, hl⟩
  | request _ hr => exact absurd hmem (hr.not_authenticate v pw ok)
  | _ => simp at hmem

end Reaction

namespace Session

variable {env : Environment} {c d : Ctx} {x : Completion}

theorem mem_milestones_iff {s : Session} {m : Milestone} :
    m ∈ s.milestones ↔ ∃ y ∈ s.trace, y.milestone = some m := List.mem_filterMap

theorem credentials_mem_iff {s : Session} {u pw : ByteString} :
    .credentials u pw ∈ s.milestones ↔ ∃ ok, .authenticate u pw ok ∈ s.trace := by
  rw [mem_milestones_iff]
  constructor
  · rintro ⟨y, hy, hm⟩
    unfold Call.milestone at hm
    split at hm
    · split at hm <;> cases hm
    · cases hm
      exact ⟨_, hy⟩
    · cases hm
    · cases hm
  · rintro ⟨ok, hy⟩
    exact ⟨_, hy, rfl⟩

theorem target_mem_iff {s : Session} {host : ByteString} {port : UInt16} :
    .target host port ∈ s.milestones ↔
      ∃ v, .service v (.routeDecision host port) ∈ s.decisions := by
  rw [mem_milestones_iff]
  constructor
  · rintro ⟨y, hy, hm⟩
    unfold Call.milestone at hm
    split at hm
    · split at hm <;> cases hm
    · cases hm
    · cases hm
      exact ⟨_, List.mem_filter.mpr ⟨hy, rfl⟩⟩
    · cases hm
  · rintro ⟨v, hy⟩
    exact ⟨_, (List.mem_filter.mp hy).1, rfl⟩

theorem advance_cases (h : advance env x c = .ok d) : d = c ∨ ∃ p rest m,
    c.self.pending = p :: rest ∧ dispatch env p x = some m ∧
      m { c with self.pending := rest } = .ok ((), d) := by
  rw [advance] at h
  split at h
  · exact .inl (Except.ok.inj h).symm
  · rename_i p rest hp
    split at h
    · exact .inl (Except.ok.inj h).symm
    · rename_i m hm
      obtain ⟨⟨⟨⟩, d'⟩, hrun, rfl⟩ := exists_of_map_eq_ok h
      exact .inr ⟨p, rest, m, hp, hm, hrun⟩

/-- What a completion adds. -/
theorem advance_said (h : advance env x c = .ok d) {m : Milestone} (hm : m ∈ d.self.milestones) :
    m ∈ c.self.milestones ∨ (∃ method, m = .methodReply method) ∨
      ∃ chunk, x = .received chunk ∧ Said env chunk m := by
  rcases advance_cases h with rfl | ⟨p, rest, prog, -, hprog, hrun⟩
  · exact .inl hm
  rcases m with method | ⟨u, pw⟩ | ⟨host, port⟩
  · exact .inr (.inl ⟨method, rfl⟩)
  · obtain ⟨calls, ops, hy⟩ := wp_of_ok (dispatch_reacts hprog _) hrun
    obtain ⟨ok, hok⟩ := credentials_mem_iff.mp hm
    rw [hy.trace, List.mem_append, List.mem_append] at hok
    rcases hok with (hok | hok) | hok
    · exact .inl (credentials_mem_iff.mpr ⟨ok, hok⟩)
    · exact absurd hok (authenticate_not_mem_recorded p x u pw ok)
    · obtain ⟨r, chunk, -, hx, hpresents⟩ := hy.allowed.presents_of_authenticate hok
      exact .inr (.inr ⟨chunk, hx, .credentials hpresents⟩)
  · obtain ⟨v, hv⟩ := target_mem_iff.mp hm
    rcases wp_of_ok (dispatch_turns hprog _) hrun with
      hsteady | ⟨r, chunk, -, hx, hroutes, hasks⟩
    · rw [hsteady.unmoved.decisions] at hv
      exact .inl (target_mem_iff.mpr ⟨v, hv⟩)
    · rw [hroutes.decisions, List.mem_append, List.mem_singleton] at hv
      rcases hv with hv | hv
      · exact .inl (target_mem_iff.mpr ⟨v, hv⟩)
      · cases hv
        exact .inr (.inr ⟨chunk, hx, .target hasks⟩)

theorem hear_said {chunk : Chunk} (h : hear env c chunk = .ok d) {m : Milestone}
    (hm : m ∈ d.self.milestones) : m ∈ c.self.milestones ∨ Said env chunk m := by
  rw [hear] at h
  rcases hc : advance env (.received chunk) c with e | c₁
  · rw [hc] at h
    cases h
  rw [hc] at h
  have hwritten : advance env .written c₁ = .ok d := h
  rcases advance_said hwritten hm with hm | ⟨method, rfl⟩ | ⟨_, hx, -⟩
  · rcases advance_said hc hm with hm | ⟨method, rfl⟩ | ⟨_, hx, hsaid⟩
    · exact .inl hm
    · exact .inr (.methodReply method)
    · cases hx
      exact .inr hsaid
  · exact .inr (.methodReply method)
  · cases hx

/-- **What a handshake gets to has been said by one of the reads.** -/
theorem run_said {reads : List Chunk} (h : run (hear env) c reads = .ok d) {m : Milestone}
    (hm : m ∈ d.self.milestones) :
    m ∈ c.self.milestones ∨ ∃ chunk ∈ reads, Said env chunk m := by
  induction reads generalizing c with
  | nil =>
    cases h
    exact .inl hm
  | cons chunk reads ih =>
    rw [run_cons] at h
    rcases hc : hear env c chunk with e | c₁
    · rw [hc] at h
      cases h
    rw [hc] at h
    rcases ih h with hm | ⟨chunk', hmem, hsaid⟩
    · rcases hear_said hc hm with hm | hsaid
      · exact .inl hm
      · exact .inr ⟨chunk, List.mem_cons_self, hsaid⟩
    · exact .inr ⟨chunk', List.mem_cons_of_mem _ hmem, hsaid⟩

end Session

/-! ## What a read has to look like -/

/-- The first bytes of an HTTP CONNECT. -/
def verb : ByteString := ofString "CONNECT "

theorem verb_prefix_of_isHttpConnect {b : Buffer} {chunk : Chunk}
    (h : isHttpConnect (b.store chunk.bytes) chunk.bytes.length = true) : verb <+: chunk.bytes := by
  rw [isHttpConnect, Bool.and_eq_true, decide_eq_true_iff, beq_iff_eq] at h
  rw [Buffer.read_store b (by omega) chunk.fits, List.drop_zero] at h
  rw [verb, ← h.2]
  exact List.take_prefix _ _

theorem Presents.verb_prefix_or {env : Environment} {b : Buffer} {r : ReadHandler} {chunk : Chunk}
    {u pw : ByteString} {ok : Bool} (h : Presents env b r chunk u pw ok) :
    verb <+: chunk.bytes ∨ ∃ (m : LoginMessage) (rest : ByteString),
      chunk.bytes = m.encode ++ rest ∧ m.username = u ∧ m.password = pw := by
  rcases h with ⟨hlogin, -⟩ | ⟨hhttp, -, -, -, -, -⟩
  · obtain ⟨m, rest, hread, hvalue⟩ := (parseLogin_eq_credentials_iff _ _ u pw).mp hlogin
    rw [b.read_store_self chunk.fits] at hread
    exact .inr ⟨m, rest, hread, congrArg Prod.fst hvalue, congrArg Prod.snd hvalue⟩
  · exact .inl (verb_prefix_of_isHttpConnect hhttp)

theorem Said.of_credentials {env : Environment} {chunk : Chunk} {u pw : ByteString}
    (h : Said env chunk (.credentials u pw)) :
    verb <+: chunk.bytes ∨ ∃ (m : LoginMessage) (rest : ByteString),
      chunk.bytes = m.encode ++ rest ∧ m.username = u ∧ m.password = pw := by
  cases h with
  | credentials h => exact h.verb_prefix_or

theorem Said.of_target {env : Environment} {chunk : Chunk} {host : ByteString} {port : UInt16}
    (h : Said env chunk (.target host port)) :
    verb <+: chunk.bytes ∨ ∃ (m : RequestMessage) (rest : ByteString),
      chunk.bytes = m.encode ++ rest ∧ m.command = cmdConnect := by
  cases h with
  | target h =>
    rcases h with hrequest | ⟨-, -, hlogin⟩
    · obtain ⟨⟨m, hm⟩, rest, hread, -⟩ :=
        (parseRequest_eq_target_iff_starts env.v6Text _ _ host port).mp hrequest
      rw [Buffer.read_store_self _ chunk.fits] at hread
      exact .inr ⟨m, rest, hread, hm⟩
    · rcases hlogin with - | ⟨hhttp, -, -, -, -, -⟩
      exact .inl (verb_prefix_of_isHttpConnect hhttp)

/-- A request does not begin a longer one. -/
theorem length_encode_beginning {m m' : RequestMessage} (h : m.encode <+: m'.encode) :
    m.encode.length = m'.encode.length := by
  obtain ⟨command, reserved, address, port⟩ := m
  obtain ⟨command', reserved', address', port'⟩ := m'
  simp only [RequestMessage.encode, List.cons_prefix_cons] at h
  obtain ⟨-, -, -, h⟩ := h
  simp only [RequestMessage.encode, List.length_cons, List.length_append]
  cases address <;> cases address' <;>
    simp only [TargetAddress.encode, List.cons_append, List.cons_prefix_cons] at h
  · rfl
  · exact absurd h.1 (by decide)
  · exact absurd h.1 (by decide)
  · exact absurd h.1 (by decide)
  · rename_i name hname name' hname'
    have hlen := congrArg UInt8.toNat h.2.1
    rw [toNat_length hname, toNat_length hname'] at hlen
    simp only [TargetAddress.encode, List.length_cons, hlen]
  · exact absurd h.1 (by decide)
  · exact absurd h.1 (by decide)
  · exact absurd h.1 (by decide)
  · rename_i bytes hbytes bytes' hbytes'
    simp only [TargetAddress.encode, List.length_cons, hbytes, hbytes']

end LanProxyGateway
