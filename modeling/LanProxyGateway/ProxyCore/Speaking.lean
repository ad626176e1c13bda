import LanProxyGateway.ProxyCore.Frame
import LanProxyGateway.ProxyCore.Relay

/-!
# What a handler has to say

The replies to a client are written by its session alone, one after another. `Pending.told` is what
the client has been told by the time an operation is under way, and `Pending.Proper` says that a
reply that is being written is one of the replies there are, in the protocol the client speaks.
`dispatch_speaks` carries both from the operation that completes to the ones it starts.
-/

open Foundation ByteString

namespace LanProxyGateway

open LanProxy

/-! ## Replies -/

/-- The method reply that asks for a login. -/
def loginMethod : ByteString := [socksVersion, authUserpass]

def noMethod : ByteString := [socksVersion, authNoAcceptable]

def loginAccepted : ByteString := [0x01, 0x00]

def loginRefused : ByteString := [0x01, 0x01]

/-- What a SOCKS5 client has been told when it is logged in. -/
def welcome : ByteString := loginMethod ++ loginAccepted

/-- What a client has been told when its request is dealt with. -/
def preamble (isHttp : Bool) : ByteString := if isHttp then [] else welcome

/-- The error replies. -/
def refusals : Bool → List ByteString
  | true => [Session.httpBadRequest, Session.httpProxyAuthRequired, Session.httpBadGateway]
  | false => [Session.socksReply 0x04, Session.socksReply 0x05, Session.socksReply 0x07,
      Session.socksReply 0x08]

/-- The success replies: in SOCKS5, with any address and port. -/
inductive Grants : Bool → ByteString → Prop
  | http : Grants true Session.httpEstablished
  | socks {bound : ByteString} (h : bound.length = 6) :
    Grants false ([socksVersion, 0x00, 0x00, atypIpv4] ++ bound)

namespace Pending

/-- What the client has been told while the operation is under way. -/
def told (isHttp : Bool) : Pending → ByteString
  | .read .handshake | .read .handshakeAgain | .write _ (.methodReply _) => []
  | .read .auth | .read .authAgain | .write _ (.authReply _) => loginMethod
  | _ => preamble isHttp

/-- What is written to the client is a reply. -/
def IsReply (isHttp : Bool) : Pending → Prop
  | .write data (.methodReply supportAuth) => data = if supportAuth then loginMethod else noMethod
  | .write data (.authReply authenticated) =>
    data = if authenticated then loginAccepted else loginRefused
  | .write data (.closing _) => data ∈ refusals isHttp
  | .write data (.tunnelReply _) => Grants isHttp data
  | _ => True

/-- The login of SOCKS5 is not for HTTP clients. -/
structure Proper (isHttp : Bool) (p : Pending) : Prop where
  early : p.isEarly = true → isHttp = false
  reply : p.IsReply isHttp

theorem Proper.of_late {isHttp : Bool} {p : Pending} (hlate : p.isEarly = false)
    (hreply : p.IsReply isHttp) : p.Proper isHttp :=
  ⟨fun hearly ↦ absurd hearly (Bool.not_eq_true _ ▸ hlate), hreply⟩

end Pending

namespace Session

open SessionM

/-! ## What a handler starts -/

/-- The handler leaves the protocol alone, and what it starts is proper for a client that has been
told `told`. -/
structure Speaks (told : ByteString) (s t : Ctx) : Prop where
  isHttp : t.self.isHttp = s.self.isHttp
  ops : ∀ q ∈ t.self.pending, q ∈ s.self.pending ∨
    q.Proper s.self.isHttp ∧ (q.lane = .handshake → q.told s.self.isHttp = told)

def IsSpoken (told : ByteString) (s : Ctx) (m : SessionM Unit) : Prop :=
  wp m (fun _ t ↦ Speaks told s t) (fun _ ↦ True) s

variable {env : Environment} {told : ByteString}

/-- A handler that starts nothing. -/
theorem Speaks.of_same {s t : Ctx} (hhttp : t.self.isHttp = s.self.isHttp)
    (hpending : t.self.pending = s.self.pending) : Speaks told s t :=
  ⟨hhttp, fun _ hq ↦ .inl (hpending ▸ hq)⟩

/-- A step in front that says nothing. -/
theorem IsSpoken.after {m : SessionM Unit} {s s₁ : Ctx} (h : IsSpoken told s₁ m)
    (hhttp : s₁.self.isHttp = s.self.isHttp) (hpending : s₁.self.pending = s.self.pending) :
    wp m (fun _ t ↦ Speaks told s t) (fun _ ↦ True) s₁ := by
  refine wp_mono h ?_ fun _ h ↦ h
  rintro _ t ⟨ht, hops⟩
  exact ⟨ht.trans hhttp, hhttp ▸ hpending ▸ hops⟩

theorem Speaks.of_concat {s t : Ctx} {q : Pending} (hhttp : t.self.isHttp = s.self.isHttp)
    (hpending : t.self.pending = s.self.pending ++ [q]) (hq : q.Proper s.self.isHttp)
    (htold : q.lane = .handshake → q.told s.self.isHttp = told) : Speaks told s t := by
  refine ⟨hhttp, fun r hr ↦ ?_⟩
  rw [hpending, List.mem_append] at hr
  rcases hr with hr | hr
  · exact .inl hr
  · rw [List.mem_singleton.mp hr]
    exact .inr ⟨hq, htold⟩

theorem post_speaks {s : Ctx} {q : Pending} (hq : q.Proper s.self.isHttp)
    (htold : q.lane = .handshake → q.told s.self.isHttp = told) : IsSpoken told s (post q) :=
  .of_concat rfl rfl hq htold

theorem closeSession_speaks (reason : Text) (s : Ctx) :
    IsSpoken told s (closeSession env reason) := by
  simp only [IsSpoken, closeSession, logClose, dumpStats, wp_bind, wp_modifySelf, wp_call, wp_get,
    wp_modifyGateway, wp_ite, wp_log, wp_pure, wp_throw, implies_true, and_true]
  exact ⟨fun _ _ ↦ .of_same rfl rfl, fun _ _ ↦ .of_same rfl rfl⟩

/-! ### SOCKS5 -/

section

variable {s : Ctx} (hhttp : s.self.isHttp = false)

include hhttp

theorem handleSocks5Handshake_speaks (length : ℕ) :
    IsSpoken [] s (handleSocks5Handshake env length) := by
  rw [IsSpoken, handleSocks5Handshake]
  simp only [wp_bind, wp_get]
  split
  · simp only [wp_bind, wp_log, implies_true, and_true]
    exact fun _ ↦ closeSession_speaks _ s
  · exact post_speaks ⟨fun _ ↦ hhttp, trivial⟩ fun _ ↦ rfl
  · exact post_speaks ⟨fun _ ↦ hhttp, rfl⟩ fun _ ↦ rfl
  · simp only [wp_bind, wp_log, implies_true, and_true]
    exact fun _ ↦ post_speaks ⟨fun _ ↦ hhttp, rfl⟩ fun _ ↦ rfl

theorem onAuthRead_speaks (length : ℕ) : IsSpoken loginMethod s (onAuthRead env length) := by
  rw [IsSpoken, onAuthRead]
  simp only [wp_bind, wp_get]
  split
  · exact closeSession_speaks _ s
  · exact post_speaks ⟨fun _ ↦ hhttp, trivial⟩ fun _ ↦ rfl
  · simp only [noteLogin, noteFailedLogin, wp_bind, wp_ofExcept, wp_call, wp_ite, wp_modifySelf,
      wp_get, wp_modifyGateway, wp_log, wp_post, implies_true, and_true]
    refine fun _ _ ↦ ⟨fun _ _ ↦ ?_, fun _ _ ↦ ?_⟩ <;>
      exact .of_concat rfl rfl ⟨fun _ ↦ hhttp, rfl⟩ fun _ ↦ rfl

end

/-! ### Requests -/

theorem doRouteDecision_speaks (s : Ctx) :
    IsSpoken (preamble s.self.isHttp) s (doRouteDecision env) := by
  rw [IsSpoken, doRouteDecision]
  simp only [wp_bind, wp_get, wp_serve]
  split
  · simp only [doResolve, wp_bind, wp_modifySelf, wp_log, wp_serve, wp_get, wp_post, implies_true,
      and_true]
    exact fun _ ↦ .of_concat rfl rfl (.of_late rfl trivial) fun _ ↦ rfl
  · simp only [chooseNode, doConnectViaV2rayn, wp_bind, wp_modifySelf, wp_serve, wp_get]
    split <;>
    · simp only [wp_bind, wp_modifySelf, wp_modifyGateway, wp_log, wp_post, implies_true, and_true]
      exact fun _ ↦ .of_concat rfl rfl (.of_late rfl trivial) fun _ ↦ rfl

/-- An error reply of HTTP. -/
theorem post_refusal_speaks {s : Ctx} (hhttp : s.self.isHttp = true) {data : ByteString}
    (hdata : data ∈ refusals true) (reason : Text) :
    IsSpoken [] s (post (.write data (.closing reason))) := by
  refine post_speaks (.of_late rfl ?_) fun _ ↦ ?_
  · show data ∈ refusals s.self.isHttp
    rwa [hhttp]
  · show preamble s.self.isHttp = []
    rw [hhttp]
    rfl

theorem proxyAuth_mem_refusals : httpProxyAuthRequired ∈ refusals true := by
  simp [refusals]

theorem doHttpAuth_speaks {s : Ctx} (hhttp : s.self.isHttp = true) :
    IsSpoken [] s (doHttpAuth env) := by
  have hpreamble : ∀ {s₁ : Ctx}, s₁.self.isHttp = true → IsSpoken [] s₁ (doRouteDecision env) := by
    intro s₁ h
    have hroute : IsSpoken (preamble s₁.self.isHttp) s₁ (doRouteDecision env) :=
      doRouteDecision_speaks s₁
    rwa [h] at hroute
  simp only [IsSpoken, doHttpAuth, noteLogin, noteFailedLogin, wp_bind, wp_get, wp_ofExcept,
    wp_call, wp_ite, wp_log, wp_modifySelf, wp_modifyGateway, implies_true, and_true]
  refine fun _ _ ↦ ⟨fun _ _ ↦ ?_, fun _ _ ↦ ?_⟩
  · exact IsSpoken.after (hpreamble (by exact hhttp)) rfl rfl
  · exact IsSpoken.after (post_refusal_speaks (by exact hhttp) proxyAuth_mem_refusals _) rfl rfl

theorem handleHttpConnect_speaks (length : ℕ) {s : Ctx} (hhttp : s.self.isHttp = true) :
    IsSpoken [] s (handleHttpConnect env length) := by
  rw [IsSpoken, handleHttpConnect]
  simp only [wp_bind, wp_get]
  split
  · exact post_refusal_speaks hhttp (by simp [refusals]) _
  · simp only [wp_bind, wp_ofExcept, wp_modifySelf, wp_ite, wp_log, implies_true, and_true]
    refine fun _ _ ↦ ⟨fun _ _ ↦ ?_, fun _ _ ↦ ?_⟩
    · exact IsSpoken.after (post_refusal_speaks (by exact hhttp) proxyAuth_mem_refusals _) rfl rfl
    · exact IsSpoken.after (doHttpAuth_speaks (by exact hhttp)) rfl rfl

/-- An error reply of SOCKS5. -/
theorem post_socksReply_speaks {s : Ctx} (hhttp : s.self.isHttp = false) {code : UInt8}
    (hcode : socksReply code ∈ refusals false) (reason : Text) :
    IsSpoken (preamble s.self.isHttp) s (post (.write (socksReply code) (.closing reason))) := by
  refine post_speaks (.of_late rfl ?_) fun _ ↦ rfl
  show socksReply code ∈ refusals s.self.isHttp
  rwa [hhttp]

theorem onRequestRead_speaks (length : ℕ) {s : Ctx} (hhttp : s.self.isHttp = false) :
    IsSpoken (preamble s.self.isHttp) s (onRequestRead env length) := by
  rw [IsSpoken, onRequestRead]
  simp only [wp_bind, wp_get]
  split
  · exact closeSession_speaks _ s
  · exact post_socksReply_speaks hhttp (by simp [refusals]) _
  · exact post_speaks ⟨fun _ ↦ hhttp, trivial⟩ fun _ ↦ rfl
  · exact post_socksReply_speaks hhttp (by simp [refusals]) _
  · simp only [wp_bind, wp_modifySelf, wp_log, implies_true, and_true]
    exact fun _ ↦ (doRouteDecision_speaks _).after rfl rfl

theorem failWith_speaks {code : UInt8} (hcode : socksReply code ∈ refusals false) (reason : Text)
    (s : Ctx) : IsSpoken (preamble s.self.isHttp) s (failWith code reason) := by
  simp only [IsSpoken, failWith, wp_bind, wp_get, wp_ite]
  refine ⟨fun hhttp ↦ ?_, fun hhttp ↦ ?_⟩
  · have hgateway : httpBadGateway ∈ refusals true := by simp [refusals]
    have hpreamble : preamble s.self.isHttp = [] := by
      rw [hhttp]
      rfl
    rw [hpreamble]
    exact post_refusal_speaks hhttp hgateway reason
  · exact post_socksReply_speaks (Bool.not_eq_true _ ▸ hhttp) hcode reason

theorem length_toV4 {address : IpAddress} {bytes : ByteString} (h : toV4 address = .ok bytes) :
    bytes.length = 4 := by
  cases address with
  | v4 b0 b1 b2 b3 =>
    obtain rfl := Except.ok.inj h
    rfl
  | v6 => cases h

theorem replyEstablished_speaks (s : Ctx) :
    IsSpoken (preamble s.self.isHttp) s replyEstablished := by
  simp only [IsSpoken, replyEstablished, wp_bind, wp_get, wp_ite, wp_ofExcept, implies_true,
    and_true]
  refine ⟨fun hhttp ↦ ?_, fun hhttp bytes hbytes ↦ ?_⟩
  · refine post_speaks (.of_late rfl ?_) fun _ ↦ rfl
    show Grants s.self.isHttp httpEstablished
    rw [hhttp]
    exact .http
  · refine post_speaks (.of_late rfl ?_) fun _ ↦ rfl
    show Grants s.self.isHttp _
    rw [Bool.not_eq_true] at hhttp
    rw [hhttp, List.append_assoc]
    refine .socks ?_
    rw [List.length_append, length_toV4 hbytes]
    rfl

/-! ## All completions -/

theorem post_speaks_late {s : Ctx} {q : Pending} (hearly : q.isEarly = false)
    (hreply : q.IsReply s.self.isHttp) (htold : q.lane = .handshake → q.told s.self.isHttp = told) :
    IsSpoken told s (post q) :=
  post_speaks ⟨fun h ↦ absurd (hearly.symm.trans h) Bool.false_ne_true, hreply⟩ htold

/-- What a read is followed by, in either protocol. -/
theorem onRead_speaks {h : ReadHandler} (hh : h ≠ .handshake) (length : ℕ) {s : Ctx}
    (hp : (Pending.read h).Proper s.self.isHttp) :
    IsSpoken ((Pending.read h).told s.self.isHttp) s (onRead env length h) := by
  cases h with
  | handshake => exact absurd rfl hh
  | handshakeAgain => exact handleSocks5Handshake_speaks (hp.early rfl) length
  | auth => exact onAuthRead_speaks (hp.early rfl) length
  | authAgain => exact post_speaks ⟨fun _ ↦ hp.early rfl, trivial⟩ fun _ ↦ rfl
  | request => exact onRequestRead_speaks length (hp.early rfl)
  | requestAgain => exact post_speaks ⟨fun _ ↦ hp.early rfl, trivial⟩ fun _ ↦ rfl
  | v2raynGreeting host port =>
    simp only [IsSpoken, onRead, onV2raynGreetingRead, wp_bind, wp_get, wp_ite]
    exact ⟨fun _ ↦ closeSession_speaks _ s, fun _ ↦ ⟨fun _ ↦ closeSession_speaks _ s,
      fun _ ↦ post_speaks_late rfl trivial fun _ ↦ rfl⟩⟩
  | v2raynConnect =>
    simp only [IsSpoken, onRead, onV2raynConnectRead, wp_bind, wp_get, wp_ite, wp_modifySelf,
      wp_modifyGateway, wp_log, implies_true, and_true]
    refine ⟨fun _ ↦ closeSession_speaks _ s, fun _ ↦ ⟨fun _ ↦ closeSession_speaks _ s,
      fun _ ↦ ⟨fun _ _ ↦ ?_, fun _ _ ↦ ?_⟩⟩⟩ <;>
      exact (replyEstablished_speaks _).after rfl rfl
  | relayClient =>
    simp only [IsSpoken, onRead, onRelayClientRead, doWriteRemote, wp_bind, wp_modifySelf, wp_get,
      wp_modifyGateway, wp_post]
    exact .of_concat rfl rfl (.of_late rfl trivial) fun h ↦ by cases h
  | relayRemote =>
    simp only [IsSpoken, onRead, onRelayRemoteRead, doWriteClient, wp_bind, wp_modifySelf, wp_get,
      wp_modifyGateway, wp_post]
    exact .of_concat rfl rfl (.of_late rfl trivial) fun h ↦ by cases h

/-- The first read decides on the protocol. -/
theorem onHandshakeRead_speaks (length : ℕ) {s : Ctx} (hhttp : s.self.isHttp = false) :
    wp (onHandshakeRead env length) (fun _ t ↦ ∀ q ∈ t.self.pending, q ∈ s.self.pending ∨
      q.Proper t.self.isHttp ∧ (q.lane = .handshake → q.told t.self.isHttp = [])) (fun _ ↦ True)
      s := by
  simp only [onHandshakeRead, wp_bind, wp_get, wp_ite, wp_modifySelf]
  refine ⟨fun _ ↦ ?_, fun _ ↦ ?_⟩
  · refine wp_mono (handleHttpConnect_speaks length rfl) ?_ fun _ h ↦ h
    rintro _ t ⟨ht, hops⟩
    rw [ht]
    exact hops
  · refine wp_mono (handleSocks5Handshake_speaks hhttp length) ?_ fun _ h ↦ h
    rintro _ t ⟨ht, hops⟩
    rw [ht]
    exact hops

theorem onWritten_speaks {data : ByteString} (h : WriteHandler) {s : Ctx}
    (hp : (Pending.write data h).Proper s.self.isHttp) :
    IsSpoken ((Pending.write data h).told s.self.isHttp ++
      if h.side = .client then data else []) s (onWritten env h) := by
  have hreply := hp.reply
  cases h with
  | methodReply supportAuth =>
    cases supportAuth with
    | false => exact closeSession_speaks _ s
    | true => exact post_speaks ⟨fun _ ↦ hp.early rfl, trivial⟩ fun _ ↦ hreply.symm
  | authReply authenticated =>
    cases authenticated with
    | false => exact closeSession_speaks _ s
    | true =>
      obtain rfl : data = loginAccepted := hreply
      refine post_speaks ⟨fun _ ↦ hp.early rfl, trivial⟩ fun _ ↦ ?_
      show preamble s.self.isHttp = welcome
      rw [hp.early rfl]
      rfl
  | closing reason => exact closeSession_speaks _ s
  | tunnelReply failure =>
    simp only [IsSpoken, onWritten, doStream, doReadClient, doReadRemote, wp_bind, wp_serve,
      wp_post]
    refine ⟨rfl, fun q hq ↦ ?_⟩
    rw [List.append_assoc, List.mem_append] at hq
    rcases hq with hq | hq
    · exact .inl hq
    · rcases List.mem_pair.mp hq with rfl | rfl <;>
      exact .inr ⟨.of_late rfl trivial, fun h ↦ by cases h⟩
  | v2raynGreeting host port =>
    exact post_speaks_late rfl trivial fun _ ↦ (List.append_nil _).symm
  | v2raynConnect => exact post_speaks_late rfl trivial fun _ ↦ (List.append_nil _).symm
  | relayRemote => exact post_speaks_late rfl trivial fun h ↦ by cases h
  | relayClient => exact post_speaks_late rfl trivial fun h ↦ by cases h

theorem onWriteFailed_speaks (h : WriteHandler) (s : Ctx) :
    IsSpoken told s (onWriteFailed env h) := by
  have hnothing : IsSpoken told s (pure ()) := .of_same rfl rfl
  cases h with
  | methodReply supportAuth => exact hnothing
  | authReply authenticated =>
    cases authenticated with
    | false => exact closeSession_speaks _ s
    | true => exact hnothing
  | _ => exact closeSession_speaks _ s

/-- Operation by operation, what the client has been told grows by what is sent to it, and what is
written next is a reply of its protocol. -/
structure Continues (p : Pending) (c : Completion) (s t : Ctx) : Prop where
  isHttp : p ≠ .read .handshake → t.self.isHttp = s.self.isHttp
  ops : ∀ q ∈ t.self.pending, q ∈ s.self.pending ∨ q.Proper t.self.isHttp ∧
    (q.lane = .handshake →
      q.told t.self.isHttp = p.told s.self.isHttp ++ sentOn .client (recorded p c))

theorem Speaks.continues {p : Pending} {c : Completion} {s t : Ctx}
    (h : Speaks (p.told s.self.isHttp ++ sentOn .client (recorded p c)) s t) :
    Continues p c s t :=
  ⟨fun _ ↦ h.isHttp, h.isHttp.symm ▸ h.ops⟩

/-- **Every handler goes on with what it has said.** -/
theorem dispatch_speaks {p : Pending} {c : Completion} {m : SessionM Unit}
    (hm : dispatch env p c = some m) {s : Ctx} (hp : p.Proper s.self.isHttp) :
    wp m (fun _ t ↦ Continues p c s t) (fun _ ↦ True) s := by
  have hsilent : ∀ {m : SessionM Unit}, sentOn .client (recorded p c) = [] →
      IsSpoken (p.told s.self.isHttp) s m →
      wp m (fun _ t ↦ Continues p c s t) (fun _ ↦ True) s := by
    intro m hnil h
    refine wp_mono h (fun _ t ht ↦ Speaks.continues ?_) fun _ h ↦ h
    rwa [hnil, List.append_nil]
  unfold dispatch at hm
  split at hm
  · rename_i h chunk
    obtain rfl := Option.some.inj hm
    by_cases hh : h = .handshake
    · subst hh
      simp only [receive, ReadHandler.side, wp_bind, wp_modifySelf, wp_call]
      refine wp_mono (onHandshakeRead_speaks _ (hp.early rfl)) ?_ fun _ h ↦ h
      exact fun _ t ht ↦ ⟨fun hne ↦ absurd rfl hne, ht⟩
    · refine hsilent rfl ?_
      rcases hside : h.side with _ | _ <;>
      · simp only [IsSpoken, receive, wp_bind, wp_modifySelf, wp_call]
        exact IsSpoken.after (onRead_speaks hh _ (by exact hp)) rfl rfl
  · obtain rfl := Option.some.inj hm
    exact hsilent rfl (closeSession_speaks _ s)
  · rename_i data h
    obtain rfl := Option.some.inj hm
    have hsent : sentOn .client (recorded (.write data h) .written) =
        if h.side = .client then data else [] := by
      simp [recorded, sentOn]
    simp only [wp_bind, wp_call]
    refine wp_mono (IsSpoken.after (s := s) (onWritten_speaks h (by exact hp)) rfl rfl)
      (fun _ t ht ↦ ?_) fun _ h ↦ h
    exact Speaks.continues (hsent.symm ▸ ht)
  · rename_i data h message n
    obtain rfl := Option.some.inj hm
    simp only [wp_bind, wp_call]
    have hfailed : ∀ {told : ByteString} {s₁ : Ctx}, IsSpoken told s₁ (onWriteFailed env h) :=
      onWriteFailed_speaks h _
    exact wp_mono (IsSpoken.after (s := s) hfailed rfl rfl)
      (fun _ t ht ↦ Speaks.continues (p := .write data h) (c := .failed message n) ht) fun _ h ↦ h
  · rename_i host results
    obtain rfl := Option.some.inj hm
    refine hsilent rfl ?_
    rcases results with _ | ⟨ep, results⟩ <;>
    · simp only [IsSpoken, onResolved, doConnectDirect, wp_bind, wp_modifySelf, wp_serve, wp_post]
      exact .of_concat rfl rfl (.of_late rfl trivial) fun _ ↦ rfl
  · obtain rfl := Option.some.inj hm
    refine hsilent rfl ?_
    simp only [IsSpoken, onResolveFailed, wp_bind, wp_log, implies_true, and_true]
    exact fun _ ↦ failWith_speaks (by simp [refusals]) _ s
  · split at hm
    · obtain rfl := Option.some.inj hm
      refine hsilent rfl ?_
      simp only [IsSpoken, onDirectConnected, wp_bind, wp_modifySelf, wp_get, wp_modifyGateway,
        wp_log, implies_true, and_true]
      exact fun _ ↦ (replyEstablished_speaks _).after rfl rfl
    · cases hm
  · obtain rfl := Option.some.inj hm
    refine hsilent rfl ?_
    simp only [IsSpoken, onDirectConnectFailed, wp_bind, wp_get, wp_log, implies_true, and_true]
    exact fun _ ↦ failWith_speaks (by simp [refusals]) _ s
  · obtain rfl := Option.some.inj hm
    exact hsilent rfl (post_speaks_late rfl trivial fun _ ↦ rfl)
  · obtain rfl := Option.some.inj hm
    exact hsilent rfl (closeSession_speaks _ s)
  · split at hm
    · obtain rfl := Option.some.inj hm
      refine hsilent rfl ?_
      simp only [IsSpoken, doSocks5ClientHandshake, wp_bind, wp_modifySelf, wp_get]
      exact IsSpoken.after (post_speaks_late rfl trivial fun _ ↦ rfl) rfl rfl
    · cases hm
  · obtain rfl := Option.some.inj hm
    refine hsilent rfl ?_
    simp only [IsSpoken, onV2raynConnectFailed, wp_bind, wp_log, implies_true, and_true]
    exact fun _ ↦ failWith_speaks (by simp [refusals]) _ s
  · cases hm

end Session

end LanProxyGateway
