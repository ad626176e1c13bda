import LanProxyGateway.ProxyCore.Heads
import LanProxyGateway.ProxyCore.Sayings

/-!
# Which cuts go unnoticed?

A SOCKS5 message that is read again is read into the start of the buffer, so what has arrived of it
before is gone, and what is left of it is taken for a whole one. The head of an HTTP CONNECT is not
read again: the first read is taken for all of it. `unnoticed_iff` says where a message may be cut
without harm: a SOCKS5 message nowhere, and a head behind the line of its credentials, since nothing
behind that line is looked at.

One direction rests on what the handler finds in the beginning of a head. For the other every cut is
given an opening that suffers: one whose letters are no beginning of anything. That the handshake
does not get through by other means follows from `run_said`: what a handshake gets to is always said
by one read alone.
-/

open Foundation ByteString

namespace LanProxyGateway

open LanProxy

/-! ## Openings that suffer from a cut -/

/-- An address of the same form with the letter `b` for every byte. -/
def TargetAddress.plain : TargetAddress → TargetAddress
  | .ipv4 _ _ _ _ => .ipv4 98 98 98 98
  | .domain name fits => .domain (List.replicate name.length 98) (by rwa [List.length_replicate])
  | .ipv6 _ _ => .ipv6 (List.replicate 16 98) List.length_replicate

/-- The same bytes in front, of which one may be a length, and then nothing but `b`. -/
theorem TargetAddress.exists_plain_encode (address : TargetAddress) : ∃ lead n,
    address.plain.encode = address.type :: (lead ++ List.replicate n 98) ∧ lead.length ≤ 1 := by
  cases address with
  | ipv4 b0 b1 b2 b3 => exact ⟨[], 4, rfl, Nat.zero_le _⟩
  | domain name hname =>
    exact ⟨[(List.replicate name.length (98 : UInt8)).length.toUInt8], name.length, rfl, le_rfl⟩
  | ipv6 bytes hbytes => exact ⟨[], 16, rfl, Nat.zero_le _⟩

theorem TargetAddress.plain_layout (address : TargetAddress) :
    address.plain.type = address.type ∧ address.plain.encode.length = address.encode.length := by
  cases address with
  | ipv4 b0 b1 b2 b3 => exact ⟨rfl, rfl⟩
  | domain name hname => simp [plain, type, encode]
  | ipv6 bytes hbytes => simp [plain, type, encode, hbytes]

theorem TargetAddress.utf8_plain (address : TargetAddress) (v6Text : List UInt8 → AsciiText) :
    Utf8 (address.plain.host v6Text) := by
  have hletters : ∀ n, Ascii (List.replicate n (98 : UInt8)) := by
    intro n c hc
    rw [(List.mem_replicate.mp hc).2]
    decide
  cases address with
  | ipv4 b0 b1 b2 b3 => exact (ipv4Text 98 98 98 98).utf8
  | domain name hname => exact utf8_of_ascii (hletters _)
  | ipv6 bytes hbytes => exact (v6Text _).utf8

namespace SocksDialogue

variable (o : SocksDialogue) (x : UInt8)

/-- The opening with the layout of `o` that offers the method of RFC 1929 and nothing else, has `x`
for every letter of the name and of the password, and asks for an address of letters. -/
def plain : SocksDialogue where
  offer := ⟨List.replicate o.offer.methods.length authUserpass, by
    rw [List.length_replicate]
    exact o.offer.fits⟩
  login := ⟨List.replicate o.login.username.length x, List.replicate o.login.password.length x, by
    rw [List.length_replicate]
    exact o.login.username_fits, by
    rw [List.length_replicate]
    exact o.login.password_fits⟩
  request := ⟨cmdConnect, 0, o.request.address.plain, 0x6262⟩
  offered := by
    rw [Ne, List.replicate_eq_nil_iff, List.length_eq_zero_iff]
    exact o.offered
  named := by
    rw [Ne, List.replicate_eq_nil_iff, List.length_eq_zero_iff]
    exact o.named
  connects := rfl

theorem layout_plain : (o.plain x).layout = o.layout := by
  obtain ⟨htype, hlength⟩ := o.request.address.plain_layout
  simp only [layout, plain, List.length_replicate, htype, hlength]

/-- What the request of a plain opening looks like. -/
theorem exists_request_encode : ∃ lead n, lead.length ≤ 1 ∧ (o.plain x).request.encode =
    socksVersion :: cmdConnect :: 0 :: o.request.address.type ::
      (lead ++ List.replicate n 98) := by
  obtain ⟨lead, n, hencode, hlead⟩ := o.request.address.exists_plain_encode
  refine ⟨lead, n + 2, hlead, ?_⟩
  have hhigh : ((0x6262 : UInt16) >>> 8).toUInt8 = 98 := by decide
  have hlow : (0x6262 : UInt16).toUInt8 = 98 := by decide
  rw [RequestMessage.encode, plain, hhigh, hlow, hencode, List.cons_append, List.append_assoc,
    ← List.replicate_append_replicate]
  rfl

end SocksDialogue

/-- A letter that a request of letters `b` does not contain. -/
theorem exists_letter {lead : ByteString} (h : lead.length ≤ 1) :
    ∃ x : UInt8, (x = 97 ∨ x = 99) ∧ x ∉ lead := by
  by_cases h97 : 97 ∈ lead
  · refine ⟨99, .inr rfl, fun h99 ↦ ?_⟩
    rcases lead with _ | ⟨y, _ | ⟨z, lead⟩⟩
    · exact List.not_mem_nil h97
    · rw [List.mem_singleton] at h97 h99
      exact absurd (h97.trans h99.symm) (by decide)
    · exact absurd h (by simp)
  · exact ⟨97, .inl rfl, h97⟩

section Bytes

variable {type x y : UInt8} {lead : ByteString} {n : ℕ}

theorem mem_request (hy : y ∈ socksVersion :: cmdConnect :: 0 :: type ::
    (lead ++ List.replicate n 98)) (htype : type = 1 ∨ type = 3 ∨ type = 4)
    (hlarge : 5 < y) : y ∈ lead ∨ y = 98 := by
  have hsmall : y ≠ socksVersion ∧ y ≠ cmdConnect ∧ y ≠ 0 ∧ y ≠ type := by
    refine ⟨?_, ?_, ?_, ?_⟩
    · rintro rfl
      exact absurd hlarge (by decide)
    · rintro rfl
      exact absurd hlarge (by decide)
    · rintro rfl
      exact absurd hlarge (by decide)
    · rintro rfl
      rcases htype with rfl | rfl | rfl <;> exact absurd hlarge (by decide)
  simp only [List.mem_cons, List.mem_append, hsmall, false_or, List.mem_replicate] at hy
  exact hy.imp_right And.right

/-- Behind its first byte such a request does not begin again. -/
theorem not_infix_request (hlead : lead.length ≤ 1) (htype : type = 1 ∨ type = 3 ∨ type = 4) :
    ¬[socksVersion, cmdConnect] <:+: cmdConnect :: 0 :: type :: (lead ++ List.replicate n 98) := by
  have hletters : ¬[socksVersion, cmdConnect] <:+: List.replicate n 98 := by
    intro h
    have hmem := h.subset List.mem_cons_self
    exact absurd (List.mem_replicate.mp hmem).2 (by decide)
  have hskip : ∀ {z : UInt8} {s : ByteString}, z ≠ socksVersion →
      [socksVersion, cmdConnect] <:+: z :: s → [socksVersion, cmdConnect] <:+: s := by
    intro z s hz h
    rcases List.infix_cons_iff.mp h with h | h
    · exact absurd (List.cons_prefix_cons.mp h).1.symm hz
    · exact h
  intro h
  replace h := hskip (by decide) (hskip (by decide) h)
  replace h := hskip (by rcases htype with rfl | rfl | rfl <;> decide) h
  rcases lead with _ | ⟨z, _ | ⟨z', lead⟩⟩
  · exact hletters h
  · rcases List.infix_cons_iff.mp h with h | h
    · have hmem : cmdConnect ∈ List.replicate n (98 : UInt8) :=
        (List.cons_prefix_cons.mp h).2.subset (List.mem_singleton_self _)
      exact absurd (List.mem_replicate.mp hmem).2 (by decide)
    · exact hletters h
  · exact absurd hlead (by simp)

/-- It is no HTTP CONNECT. -/
theorem not_verb_request (hlead : lead.length ≤ 1) (htype : type = 1 ∨ type = 3 ∨ type = 4)
    (h : verb ⊆ socksVersion :: cmdConnect :: 0 :: type :: (lead ++ List.replicate n 98)) :
    False := by
  have hC : (67 : UInt8) ∈ verb := by decide
  have hO : (79 : UInt8) ∈ verb := by decide
  have hC' := (mem_request (h hC) htype (by decide)).resolve_right (by decide)
  have hO' := (mem_request (h hO) htype (by decide)).resolve_right (by decide)
  rcases lead with _ | ⟨z, _ | ⟨z', lead⟩⟩
  · exact List.not_mem_nil hC'
  · rw [List.mem_singleton] at hC' hO'
    exact absurd (hC'.trans hO'.symm) (by decide)
  · exact absurd hlead (by simp)

/-- Neither is a login with one letter. -/
theorem not_verb_login {ulen plen : UInt8} {m : ℕ} (hx : x = 97 ∨ x = 99)
    (h : verb ⊆ 0x01 :: ulen :: (List.replicate m x ++ plen :: List.replicate n x)) : False := by
  have hmem : ∀ {y : UInt8}, y ∈ verb → y ≠ 1 → y ≠ 97 → y ≠ 99 → y = ulen ∨ y = plen := by
    intro y hy h1 h97 h99
    have hyx : y ≠ x := by
      rcases hx with rfl | rfl
      · exact h97
      · exact h99
    have hbytes := h hy
    simpa only [List.mem_cons, List.mem_append, List.mem_replicate, h1, hyx, and_false, false_or,
      or_false] using hbytes
  have hC := hmem (y := 67) (by decide) (by decide) (by decide) (by decide)
  have hO := hmem (y := 79) (by decide) (by decide) (by decide) (by decide)
  have hN := hmem (y := 78) (by decide) (by decide) (by decide) (by decide)
  -- three letters, and only two bytes that could be one
  rcases hC with hC | hC <;> rcases hO with hO | hO <;> rcases hN with hN | hN
  · exact absurd (hC.trans hO.symm) (by decide)
  · exact absurd (hC.trans hO.symm) (by decide)
  · exact absurd (hC.trans hN.symm) (by decide)
  · exact absurd (hO.trans hN.symm) (by decide)
  · exact absurd (hO.trans hN.symm) (by decide)
  · exact absurd (hC.trans hN.symm) (by decide)
  · exact absurd (hC.trans hO.symm) (by decide)
  · exact absurd (hC.trans hO.symm) (by decide)

end Bytes

/-! ### An opening that arrives whole -/

/-- A gateway where `u` is the administrator, and any password is right. -/
def openTo (u : ByteString) : Environment :=
  let env := sampleEnvironment .direct
  { env with config := { env.config with adminUsername := u } }

theorem authenticate_openTo (u pw : ByteString) :
    (openTo u).users.authenticate (openTo u).lib (openTo u).config (openTo u).time u pw =
      .ok true := by
  have hsample : PasswordHasher.isBcrypt (sampleEnvironment .direct).config.adminPasswordHash =
      true := by decide +kernel
  have hhash : PasswordHasher.isBcrypt (openTo u).config.adminPasswordHash = true := hsample
  have hverify : PasswordHasher.pythonBcryptVerify (openTo u).lib pw
      (openTo u).config.adminPasswordHash = true := by
    show (PasswordHasher.trimNewlines (ofString "ok\n") == ofString "ok") = true
    decide
  have hname : u = (openTo u).config.adminUsername := rfl
  rw [UserManager.authenticate, UserManager.hashFor, if_pos hname]
  simp only [PasswordHasher.verify, hhash, hverify, if_true]
  rfl

namespace SocksDialogue

open Session

variable {env : Environment} {c : Ctx}

/-- No SOCKS5 message is taken for an HTTP CONNECT. -/
theorem isHttpConnect_of_head {b : Buffer} {chunk : Chunk} {y : UInt8} {s : ByteString}
    (h : chunk.bytes = y :: s) (hy : y ≠ 67) :
    isHttpConnect (b.store chunk.bytes) chunk.bytes.length = false := by
  by_contra hhttp
  have hpre := verb_prefix_of_isHttpConnect (Bool.eq_true_of_not_eq_false hhttp)
  rw [h] at hpre
  exact hy (List.cons_prefix_cons.mp hpre).1.symm

/-- **A whole opening is understood**, by a gateway that knows the name and writes its log. -/
theorem run_hear_whole (env : Environment) (o : SocksDialogue) (hs : c.self.Sound)
    (hp : c.self.pending = [.read .handshake])
    (hoffer : o.offer.methods.any (· == authUserpass) = true)
    (hok : env.users.authenticate env.lib env.config env.time o.login.username
      o.login.password = .ok true)
    (hu : Utf8 o.login.username) (hhost : Utf8 (o.request.address.host env.v6Text)) :
    ∃ d, run (hear env) c (ClientOpening.socks o).unsplit.reads = .ok d ∧ d.self.milestones =
      c.self.milestones ++ [.methodReply authUserpass,
        .credentials o.login.username o.login.password,
        .target (o.request.address.host env.v6Text) o.request.port] := by
  have hgreeting : ∀ b : Buffer, parseGreeting (b.store o.offer.chunk.bytes)
      o.offer.chunk.bytes.length = .methods true := by
    intro b
    rw [← hoffer]
    exact offers_exact.roundTrip b o.offer
  have hlogin : ∀ b : Buffer, parseLogin (b.store o.login.chunk.bytes) o.login.chunk.bytes.length =
      .credentials o.login.username o.login.password :=
    fun b ↦ logins_exact.roundTrip b o.login
  have hrequest : ∀ b : Buffer, parseRequest env.v6Text (b.store o.request.chunk.bytes)
      o.request.chunk.bytes.length =
        .target (o.request.address.host env.v6Text) o.request.port :=
    fun b ↦ (connects_exact env.v6Text).roundTrip b ⟨o.request, o.connects⟩
  obtain ⟨c₁, hc₁, hs₁, hp₁, hm₁⟩ := hear_greeting env hs
    (.inr ⟨hp, isHttpConnect_of_head rfl (by decide)⟩) (hgreeting _)
  obtain ⟨c₂, hc₂, hs₂, hp₂, hm₂⟩ := hear_login hs₁ hp₁ (hlogin _) hok hu
  obtain ⟨d, hd, -, -, hm⟩ := hear_request hs₂ hp₂ (hrequest _) hhost
  refine ⟨d, ?_, ?_⟩
  · have hreads : (ClientOpening.socks o).unsplit.reads =
      [o.offer.chunk, o.login.chunk, o.request.chunk] := rfl
    rw [hreads, run_cons, hc₁]
    simp only [Except.bind, run_cons, hc₂, hd, run_nil]
  · rw [hm, hm₂, hm₁]
    simp only [Greeting.reached, List.append_assoc, List.cons_append, List.nil_append]

/-! ### The messages of a plain opening -/

variable (o : SocksDialogue) (x : UInt8)

theorem plain_offer_encode : (o.plain x).offer.encode = socksVersion ::
    o.offer.methods.length.toUInt8 :: List.replicate o.offer.methods.length authUserpass := by
  rw [MethodOffer.encode, plain, List.length_replicate]

theorem plain_login_encode : (o.plain x).login.encode = 0x01 ::
    o.login.username.length.toUInt8 :: (List.replicate o.login.username.length x ++
      o.login.password.length.toUInt8 :: List.replicate o.login.password.length x) := by
  rw [LoginMessage.encode, plain, List.length_replicate, List.length_replicate]

/-- Behind two bytes there is nothing but one method. -/
theorem eq_of_sublist_offer {y z method : UInt8} {s : ByteString}
    (h : (y :: z :: s).Sublist (o.plain x).offer.encode) (hmem : method ∈ s) :
    method = authUserpass := by
  rw [plain_offer_encode] at h
  have htail : s.Sublist (List.replicate o.offer.methods.length authUserpass) := h.tail.tail
  exact (List.mem_replicate.mp (htail.subset hmem)).2

end SocksDialogue

/-! ## Cutting other messages at the same places -/

/-- Any bytes can arrive in reads of given lengths. -/
theorem exists_recut (chunks : List Chunk) {s : ByteString}
    (h : s.length = (chunks.map Chunk.bytes).flatten.length) : ∃ chunks' : List Chunk,
      (chunks'.map Chunk.bytes).flatten = s ∧
        chunks'.map (fun c ↦ c.bytes.length) = chunks.map fun c ↦ c.bytes.length := by
  induction chunks generalizing s with
  | nil => exact ⟨[], (List.length_eq_zero_iff.mp h).symm, rfl⟩
  | cons c chunks ih =>
    rw [List.map_cons, List.flatten_cons, List.length_append] at h
    have hlen : (s.take c.bytes.length).length = c.bytes.length := by
      rw [List.length_take]
      omega
    have hpos := List.length_pos_iff.mpr c.nonempty
    obtain ⟨chunks', hjoined, hplaces⟩ := ih (s := s.drop c.bytes.length) (by
      rw [List.length_drop]
      omega)
    refine ⟨⟨s.take c.bytes.length, ?_, hlen.trans_le c.fits⟩ :: chunks', ?_, ?_⟩
    · rw [← List.length_pos_iff, hlen]
      exact hpos
    · rw [List.map_cons, List.flatten_cons, hjoined, List.take_append_drop]
    · rw [List.map_cons, List.map_cons, hplaces, hlen]

namespace Splitting

variable {o : SocksDialogue}

/-- The reads of the three messages. -/
theorem exists_pieces (cut : Splitting (ClientOpening.socks o).messages) : ∃ offers logins requests,
    cut.pieces = [offers, logins, requests] ∧
      (offers.map Chunk.bytes).flatten = o.offer.encode ∧
      (logins.map Chunk.bytes).flatten = o.login.encode ∧
      (requests.map Chunk.bytes).flatten = o.request.encode := by
  obtain ⟨pieces, hjoined⟩ := cut
  simp only [ClientOpening.messages, List.map_eq_cons_iff, List.map_eq_nil_iff] at hjoined
  obtain ⟨offers, _, rfl, hoffer, logins, _, rfl, hlogin, requests, _, rfl, hrequest, rfl⟩ :=
    hjoined
  exact ⟨offers, logins, requests, rfl, hoffer, hlogin, hrequest⟩

/-- An opening of the same layout can be cut at the same places. -/
theorem exists_cut_alike (cut : Splitting (ClientOpening.socks o).messages) {o' : SocksDialogue}
    (h : o'.layout = o.layout) :
    ∃ cut' : Splitting (ClientOpening.socks o').messages, cut'.places = cut.places := by
  obtain ⟨offers, logins, requests, hpieces, hoffer, hlogin, hrequest⟩ := cut.exists_pieces
  simp only [SocksDialogue.layout, Layout.mk.injEq] at h
  obtain ⟨hmethods, husername, hpassword, -, haddress⟩ := h
  obtain ⟨offers', hoffer', hoffers⟩ := exists_recut offers (s := o'.offer.encode) (by
    rw [hoffer, MethodOffer.encode, MethodOffer.encode, List.length_cons, List.length_cons,
      List.length_cons, List.length_cons, hmethods])
  obtain ⟨logins', hlogin', hlogins⟩ := exists_recut logins (s := o'.login.encode) (by
    simp only [hlogin, LoginMessage.encode, List.length_cons, List.length_append, husername,
      hpassword])
  obtain ⟨requests', hrequest', hrequests⟩ := exists_recut requests (s := o'.request.encode) (by
    simp only [hrequest, RequestMessage.encode, List.length_cons, List.length_append, haddress])
  refine ⟨⟨[offers', logins', requests'], ?_⟩, ?_⟩
  · simp only [List.map_cons, List.map_nil, hoffer', hlogin', hrequest']
    rfl
  · simp only [places, hpieces, List.map_cons, List.map_nil, hoffers, hlogins, hrequests]

/-- A message in one read is that read. -/
theorem eq_singleton {chunks : List Chunk} (chunk : Chunk)
    (h : (chunks.map Chunk.bytes).flatten = chunk.bytes) (hone : chunks.length = 1) :
    chunks = [chunk] := by
  obtain ⟨c, rfl⟩ := List.length_eq_one_iff.mp hone
  rw [List.map_singleton, List.flatten_singleton] at h
  obtain ⟨bytes, nonempty, fits⟩ := c
  obtain rfl : bytes = chunk.bytes := h
  rfl

/-- **Nothing can be noticed where nothing is cut.** -/
theorem unnoticed_of_whole {cut : Splitting (ClientOpening.socks o).messages}
    (h : ∀ lengths ∈ cut.places, lengths.length = 1) : cut.Unnoticed := by
  obtain ⟨offers, logins, requests, hpieces, hoffer, hlogin, hrequest⟩ := cut.exists_pieces
  simp only [places, hpieces, List.map_cons, List.map_nil, List.mem_cons, List.not_mem_nil,
    or_false, forall_eq_or_imp, forall_eq, List.length_map] at h
  obtain ⟨hoffers, hlogins, hrequests⟩ := h
  have hreads : cut.reads = (ClientOpening.socks o).unsplit.reads := by
    rw [reads, hpieces, eq_singleton o.offer.chunk hoffer hoffers,
      eq_singleton o.login.chunk hlogin hlogins,
      eq_singleton o.request.chunk hrequest hrequests]
    rfl
  intro w t env₀ env a _
  rw [hreads]

end Splitting

/-! ## Every cut is felt by an opening -/

/-- One read of a message is part of it. -/
theorem isInfix_of_mem {chunks : List Chunk} {chunk : Chunk} (h : chunk ∈ chunks) :
    chunk.bytes <:+: (chunks.map Chunk.bytes).flatten := by
  obtain ⟨before, behind, rfl⟩ := List.append_of_mem h
  rw [List.map_append, List.map_cons, List.flatten_append, List.flatten_cons, ← List.append_assoc]
  exact List.infix_append _ _ _

theorem length_le_joined (chunks : List Chunk) :
    chunks.length ≤ (chunks.map Chunk.bytes).flatten.length := by
  induction chunks with
  | nil => exact le_rfl
  | cons c chunks ih =>
    have hpos := List.length_pos_iff.mpr c.nonempty
    rw [List.map_cons, List.flatten_cons, List.length_append, List.length_cons]
    omega

/-- A read that is as long as the message is the only one. -/
theorem length_eq_one_of_long {chunks : List Chunk} {chunk : Chunk} (hmem : chunk ∈ chunks)
    (hlong : (chunks.map Chunk.bytes).flatten.length ≤ chunk.bytes.length) : chunks.length = 1 := by
  obtain ⟨before, behind, rfl⟩ := List.append_of_mem hmem
  have hbefore := length_le_joined before
  have hbehind := length_le_joined behind
  simp only [List.map_append, List.map_cons, List.flatten_append, List.flatten_cons,
    List.length_append] at hlong
  rw [List.length_append, List.length_cons]
  omega

theorem TargetAddress.type_mem_encode (address : TargetAddress) :
    address.type ∈ address.encode := by
  cases address <;> exact List.mem_cons_self

theorem TargetAddress.type_cases (address : TargetAddress) :
    address.type = 1 ∨ address.type = 3 ∨ address.type = 4 := by
  cases address with
  | ipv4 b0 b1 b2 b3 => exact .inl rfl
  | domain name hname => exact .inr (.inl rfl)
  | ipv6 bytes hbytes => exact .inr (.inr rfl)

namespace SocksDialogue

variable (o : SocksDialogue)

/-- A letter that does not occur in the request. -/
theorem exists_foreign_letter :
    ∃ x : UInt8, (x = 97 ∨ x = 99) ∧ x ∉ (o.plain x).request.encode := by
  obtain ⟨lead, n, hlead, hencode⟩ := o.exists_request_encode 0
  obtain ⟨x, hx, hforeign⟩ := exists_letter hlead
  refine ⟨x, hx, fun hmem ↦ ?_⟩
  have hrequest : (o.plain x).request = (o.plain 0).request := rfl
  rw [hrequest, hencode] at hmem
  have hletter : 5 < x ∧ x ≠ 98 := by
    rcases hx with rfl | rfl <;> decide
  rcases mem_request hmem o.request.address.type_cases hletter.1 with hmem | hmem
  · exact hforeign hmem
  · exact hletter.2 hmem

end SocksDialogue

namespace Splitting

open Session

variable {o : SocksDialogue} {x : UInt8}
  {cut : Splitting (ClientOpening.socks (o.plain x)).messages} {offers logins requests : List Chunk}

theorem mem_reads {chunk : Chunk} (hpieces : cut.pieces = [offers, logins, requests])
    (h : chunk ∈ cut.reads) : chunk ∈ offers ∨ chunk ∈ logins ∨ chunk ∈ requests := by
  simpa only [reads, hpieces, List.flatten_cons, List.flatten_nil, List.append_nil,
    List.mem_append] using h

/-- No piece of a plain opening looks like an HTTP CONNECT. -/
theorem not_verb_of_mem (hx : x = 97 ∨ x = 99) {chunk : Chunk} (h : chunk ∈ cut.reads) :
    ¬verb <+: chunk.bytes := by
  intro hverb
  obtain ⟨offers, logins, requests, hpieces, hoffer, hlogin, hrequest⟩ := cut.exists_pieces
  rcases mem_reads hpieces h with hmem | hmem | hmem
  all_goals have hpart := hverb.isInfix.trans (isInfix_of_mem hmem)
  · rw [hoffer] at hpart
    have hverb : verb = ofString "CO" ++ ofString "NNECT " := by decide
    have hmem : (78 : UInt8) ∈ ofString "NNECT " := by decide
    rw [hverb] at hpart
    exact absurd (o.eq_of_sublist_offer x hpart.sublist hmem) (by decide)
  · rw [hlogin, o.plain_login_encode] at hpart
    exact not_verb_login hx hpart.subset
  · obtain ⟨lead, n, hlead, hencode⟩ := o.exists_request_encode x
    rw [hrequest, hencode] at hpart
    exact not_verb_request hlead o.request.address.type_cases hpart.subset

variable {env : Environment} {c d : Ctx} {u pw : ByteString} {host : ByteString} {port : UInt16}

/-- The name and the password are only found in a login that is whole. -/
theorem login_whole (hx : x = 97 ∨ x = 99) (hforeign : x ∉ (o.plain x).request.encode)
    (hpieces : cut.pieces = [offers, logins, requests])
    (hoffer : (offers.map Chunk.bytes).flatten = (o.plain x).offer.encode)
    (hlogin : (logins.map Chunk.bytes).flatten = (o.plain x).login.encode)
    (hrequest : (requests.map Chunk.bytes).flatten = (o.plain x).request.encode)
    {chunk : Chunk} (hmem : chunk ∈ cut.reads)
    (hsaid : Said env chunk (.credentials (o.plain x).login.username (o.plain x).login.password)) :
    logins.length = 1 := by
  rcases hsaid.of_credentials with hverb | ⟨m, rest, hbytes, hu, hpw⟩
  · exact absurd hverb (not_verb_of_mem hx hmem)
  have hm : m.encode = (o.plain x).login.encode := by
    rw [LoginMessage.encode, LoginMessage.encode, hu, hpw]
  have hinside : (o.plain x).login.encode <+: chunk.bytes := by
    rw [hbytes, hm]
    exact List.prefix_append _ _
  have hletter : x ∈ (o.plain x).login.username := by
    obtain ⟨y, hy⟩ := List.exists_mem_of_ne_nil _ (o.plain x).named
    exact (List.mem_replicate.mp hy).2 ▸ hy
  have hletter' : x ∈ (o.plain x).login.encode := by
    rw [LoginMessage.encode]
    simp only [List.mem_cons, List.mem_append, hletter, true_or, or_true]
  rcases mem_reads hpieces hmem with hmem | hmem | hmem
  · -- `01` and the letter do not both fit between the first byte of an offer and the methods
    have hpart := hinside.isInfix.trans (hoffer ▸ isInfix_of_mem hmem)
    have hsmall : x ≠ socksVersion ∧ x ≠ authUserpass ∧ x ≠ 1 := by
      rcases hx with rfl | rfl <;> decide
    have hbyte : ∀ y ∈ (o.plain x).login.encode, y ≠ socksVersion → y ≠ authUserpass →
        y = o.offer.methods.length.toUInt8 := by
      intro y hy hversion hmethod
      have hmem := hpart.subset hy
      rw [o.plain_offer_encode] at hmem
      simpa only [List.mem_cons, hversion, List.mem_replicate, hmethod, and_false, or_false,
        false_or] using hmem
    have hone := hbyte 1 List.mem_cons_self (by decide) (by decide)
    exact absurd ((hbyte x hletter' hsmall.1 hsmall.2.1).trans hone.symm) hsmall.2.2
  · refine length_eq_one_of_long hmem ?_
    rw [hlogin]
    exact hinside.length_le
  · have hpart := hinside.isInfix.trans (hrequest ▸ isInfix_of_mem hmem)
    exact absurd (hpart.subset hletter') hforeign

/-- The target is only found in a request that is whole. -/
theorem request_whole (hx : x = 97 ∨ x = 99) (hpieces : cut.pieces = [offers, logins, requests])
    (hoffer : (offers.map Chunk.bytes).flatten = (o.plain x).offer.encode)
    (hlogin : (logins.map Chunk.bytes).flatten = (o.plain x).login.encode)
    (hrequest : (requests.map Chunk.bytes).flatten = (o.plain x).request.encode)
    (hone : logins.length = 1) {chunk : Chunk} (hmem : chunk ∈ cut.reads)
    (hsaid : Said env chunk (.target host port)) : requests.length = 1 := by
  rcases hsaid.of_target with hverb | ⟨m, rest, hbytes, hconnect⟩
  · exact absurd hverb (not_verb_of_mem hx hmem)
  have hinside : m.encode <+: chunk.bytes := by
    rw [hbytes]
    exact List.prefix_append _ _
  rcases mem_reads hpieces hmem with hmem | hmem | hmem
  · -- the type of its address would be a method
    have hpart := hinside.isInfix.trans (hoffer ▸ isInfix_of_mem hmem)
    have htype := o.eq_of_sublist_offer x hpart.sublist
      (List.mem_cons_of_mem m.reserved (List.mem_append_left _ m.address.type_mem_encode))
    rcases m.address.type_cases with h | h | h
    all_goals
      rw [h] at htype
      exact absurd htype (by decide)
  · have hwhole := eq_singleton (o.plain x).login.chunk hlogin hone
    rw [hwhole, List.mem_singleton] at hmem
    rw [hmem] at hinside
    exact absurd (List.cons_prefix_cons.mp hinside).1 (by decide)
  · obtain ⟨before, behind, rfl⟩ := List.append_of_mem hmem
    rcases before with _ | ⟨first, before⟩
    · -- what a request begins with is no shorter request
      have hstart : chunk.bytes <+: (o.plain x).request.encode := by
        rw [← hrequest]
        exact List.prefix_append _ _
      refine length_eq_one_of_long hmem ?_
      rw [hrequest, ← length_encode_beginning (hinside.trans hstart)]
      exact hinside.length_le
    · -- and behind its first byte no request begins
      obtain ⟨lead, n, hlead, hencode⟩ := o.exists_request_encode x
      refine absurd ?_ (not_infix_request (n := n) hlead o.request.address.type_cases)
      have hbegins : [socksVersion, cmdConnect] <+: m.encode := by
        rw [RequestMessage.encode, hconnect]
        exact ⟨_, rfl⟩
      refine (hbegins.trans hinside).isInfix.trans ?_
      obtain ⟨y, bytes, hy⟩ := List.exists_cons_of_ne_nil first.nonempty
      rw [hencode, List.cons_append, List.map_cons, List.flatten_cons, hy, List.cons_append]
        at hrequest
      rw [← (List.cons.inj hrequest).2]
      have hmem : chunk ∈ before ++ chunk :: behind :=
        List.mem_append_right _ List.mem_cons_self
      exact (isInfix_of_mem hmem).trans (List.suffix_append _ _).isInfix

/-- The first piece of an offer is too short, and the second is none. -/
theorem run_of_cut_offer (env : Environment) (hs : c.self.Sound)
    (hp : c.self.pending = [.read .handshake]) {first second : Chunk} {behind : ByteString}
    (hjoined : first.bytes ++ (second.bytes ++ behind) = (o.plain x).offer.encode)
    (rest : List Chunk) : ∃ d, run (hear env) c (first :: second :: rest) = .ok d ∧
      d.self.milestones = c.self.milestones := by
  rw [o.plain_offer_encode] at hjoined
  obtain ⟨y, bytes, hy⟩ := List.exists_cons_of_ne_nil first.nonempty
  obtain ⟨method, bytes', hmethod⟩ := List.exists_cons_of_ne_nil second.nonempty
  rw [hy, List.cons_append, List.cons.injEq] at hjoined
  obtain ⟨rfl, hjoined⟩ := hjoined
  have hsocks : isHttpConnect (c.self.clientBuffer.store first.bytes) first.bytes.length = false :=
    SocksDialogue.isHttpConnect_of_head hy (by decide)
  rcases bytes with _ | ⟨count, bytes⟩
  · have hshort : parseGreeting (c.self.clientBuffer.store first.bytes) first.bytes.length =
        .invalid := by
      rw [parseGreeting, hy, if_pos]
      exact .inl (by decide)
    obtain ⟨d, hd, -, hpending, hmilestones⟩ :=
      hear_greeting env hs (.inr ⟨hp, hsocks⟩) hshort
    refine ⟨d, ?_, hmilestones.trans (List.append_nil _)⟩
    rw [run_cons, hd]
    exact run_hear_of_over (.inl hpending) _
  · rw [List.cons_append, List.cons.injEq] at hjoined
    obtain ⟨rfl, hjoined⟩ := hjoined
    have hlength := congrArg List.length hjoined
    rw [hmethod, List.length_append, List.cons_append, List.length_cons, List.length_replicate]
      at hlength
    have hshort : bytes.length < (o.offer.methods.length.toUInt8).toNat := by
      rw [toNat_length o.offer.fits]
      omega
    have hincomplete := parseGreeting_of_short c.self.clientBuffer hy first.fits hshort
    obtain ⟨c₁, hc₁, hs₁, hp₁, hm₁⟩ :=
      hear_greeting env hs (.inr ⟨hp, hsocks⟩) hincomplete
    have hmem : method ∈ List.replicate o.offer.methods.length authUserpass := by
      rw [← hjoined, hmethod]
      exact List.mem_append_right _ List.mem_cons_self
    have hforeign : method ≠ socksVersion := by
      rw [(List.mem_replicate.mp hmem).2]
      decide
    have hinvalid := parseGreeting_of_head c₁.self.clientBuffer hmethod second.fits hforeign
    obtain ⟨d, hd, -, hpending, hmilestones⟩ :=
      hear_greeting env hs₁ (.inl hp₁) hinvalid
    refine ⟨d, ?_, ?_⟩
    · rw [run_cons, hc₁]
      simp only [Except.bind, run_cons, hd]
      exact run_hear_of_over (.inl hpending) rest
    · rw [hmilestones, hm₁]
      simp only [Greeting.reached, List.append_nil]

/-- **What is not noticed of a plain opening cuts no message of it.** -/
theorem whole_of_unnoticed (hx : x = 97 ∨ x = 99) (hforeign : x ∉ (o.plain x).request.encode)
    (hcut : cut.Unnoticed) : ∀ lengths ∈ cut.places, lengths.length = 1 := by
  obtain ⟨offers, logins, requests, hpieces, hoffer, hlogin, hrequest⟩ := cut.exists_pieces
  obtain ⟨c, hfresh, hp, hheard⟩ := exists_listener
  -- a gateway that understands the whole opening
  have hletter : Ascii (o.plain x).login.username := by
    intro y hy
    rw [(List.mem_replicate.mp hy).2]
    rcases hx with rfl | rfl <;> decide
  obtain ⟨e, he, hmilestones⟩ := SocksDialogue.run_hear_whole
    (openTo (o.plain x).login.username) (o.plain x) hfresh.sound hp (by
      obtain ⟨method, hmethod⟩ := List.exists_mem_of_ne_nil _ (o.plain x).offered
      have hone := (List.mem_replicate.mp hmethod).2
      exact List.any_eq_true.mpr ⟨method, hmethod, beq_iff_eq.mpr hone⟩)
    (authenticate_openTo _ _) (utf8_of_ascii hletter) (o.request.address.utf8_plain _)
  rw [hfresh.milestones, List.nil_append] at hmilestones
  obtain ⟨d, hd, hreached⟩ : ∃ d, run (hear (openTo (o.plain x).login.username)) c cut.reads =
      .ok d ∧ d.self.milestones = e.self.milestones := by
    have heq := hheard hcut (openTo (o.plain x).login.username)
    rw [heard_of_ok he, heard] at heq
    obtain ⟨d, hd, hreached⟩ := Option.map_eq_some_iff.mp heq
    refine ⟨d, ?_, hreached⟩
    rcases hrun : run (hear (openTo (o.plain x).login.username)) c cut.reads with _ | d'
    · rw [hrun] at hd
      cases hd
    · rw [hrun] at hd
      exact congrArg Except.ok (Option.some.inj hd)
  rw [hmilestones] at hreached
  have hsaid : ∀ {m}, m ∈ d.self.milestones → ∃ chunk ∈ cut.reads,
      Said (openTo (o.plain x).login.username) chunk m := by
    intro m hm
    rcases run_said hd hm with hm | hsaid
    · rw [hfresh.milestones] at hm
      exact absurd hm List.not_mem_nil
    · exact hsaid
  have hlogins : logins.length = 1 := by
    obtain ⟨chunk, hmem, h⟩ := hsaid (m := .credentials _ _) (by
      rw [hreached]
      exact List.mem_cons_of_mem _ List.mem_cons_self)
    exact login_whole hx hforeign hpieces hoffer hlogin hrequest hmem h
  have hrequests : requests.length = 1 := by
    obtain ⟨chunk, hmem, h⟩ := hsaid (m := .target _ _) (by
      rw [hreached]
      exact List.mem_cons_of_mem _ (List.mem_cons_of_mem _ List.mem_cons_self))
    exact request_whole hx hpieces hoffer hlogin hrequest hlogins hmem h
  have hoffers : offers.length = 1 := by
    rcases offers with _ | ⟨first, _ | ⟨second, behind⟩⟩
    · cases hoffer
    · rfl
    · obtain ⟨d', hd', hnone⟩ := run_of_cut_offer (openTo (o.plain x).login.username)
        hfresh.sound hp (by simpa only [List.map_cons, List.flatten_cons] using hoffer)
        (behind ++ (logins ++ requests))
      have hreads : cut.reads = first :: second :: (behind ++ (logins ++ requests)) := by
        simp only [reads, hpieces, List.flatten_cons, List.flatten_nil, List.append_nil,
          List.cons_append]
      rw [hreads, hd'] at hd
      obtain rfl := Except.ok.inj hd
      rw [hnone, hfresh.milestones] at hreached
      cases hreached
  simp only [places, hpieces, List.map_cons, List.map_nil, List.mem_cons, List.not_mem_nil,
    or_false, forall_eq_or_imp, forall_eq, List.length_map]
  exact ⟨hoffers, hlogins, hrequests⟩

end Splitting

/-! ## The places -/

/-- **Where TCP may cut the messages of a client.** -/
theorem unnoticed_iff (o : ClientOpening) (cut : Splitting o.messages) :
    (∀ o', o.Resembles o' → ∀ cut' : Splitting o'.messages, cut'.places = cut.places →
      cut'.Unnoticed) ↔ o.SparedBy cut.places := by
  rcases o with o | h
  · constructor
    · intro hunnoticed
      obtain ⟨x, hx, hforeign⟩ := o.exists_foreign_letter
      obtain ⟨cut', hplaces⟩ := cut.exists_cut_alike (o.layout_plain x)
      rw [← hplaces]
      exact Splitting.whole_of_unnoticed hx hforeign
        (hunnoticed (.socks (o.plain x)) (o.layout_plain x) cut' hplaces)
    · rintro hspared (o' | h') hresembles cut' hplaces
      · rw [← hplaces] at hspared
        exact Splitting.unnoticed_of_whole hspared
      · exact hresembles.elim
  · constructor
    · intro hunnoticed
      exact (h.unnoticed_head_iff cut).mp (hunnoticed (.http h) rfl cut rfl)
    · rintro hspared (o' | h') hresembles cut' hplaces
      · exact hresembles.elim
      · obtain rfl : h' = h := hresembles
        rw [← hplaces] at hspared
        exact (h'.unnoticed_head_iff cut').mpr hspared

/-- No login or the one of RFC 1929, then `a` with the password `a`, then port 80 of `10.0.0.2`. -/
def sampleDialogue : SocksDialogue where
  offer := ⟨[0x00, authUserpass], by decide⟩
  login := ⟨ofString "a", ofString "a", by decide, by decide⟩
  request := ⟨cmdConnect, 0, .ipv4 10 0 0 2, 80⟩
  offered := List.cons_ne_nil _ _
  named := by decide
  connects := rfl

def sampleFirstPiece : Chunk where
  bytes := [socksVersion, 0x02]
  nonempty := List.cons_ne_nil _ _
  fits := by decide

def sampleSecondPiece : Chunk where
  bytes := [0x00, authUserpass]
  nonempty := List.cons_ne_nil _ _
  fits := by decide

/-- The methods arrive after their number. -/
def sampleCut : Splitting (ClientOpening.socks sampleDialogue).messages where
  pieces := [[sampleFirstPiece, sampleSecondPiece], [sampleDialogue.login.chunk],
    [sampleDialogue.request.chunk]]
  joined := rfl

/-- The session is closed where the whole offer would have been answered. -/
theorem sampleCut_noticed : ¬sampleCut.Unnoticed := by
  intro hcut
  have hobs : (World.step {} (.start (sampleEnvironment .direct) sampleArrival)).toOption.map
      (fun t ↦ (t.outcome (sampleEnvironment .direct) 0 sampleCut.reads, t.outcome
        (sampleEnvironment .direct) 0 (ClientOpening.socks sampleDialogue).unsplit.reads)) =
      some (some [], some [.methodReply authUserpass, .credentials (ofString "a") (ofString "a"),
        .target (ofString "10.0.0.2") 80]) := by decide +kernel
  rcases ht : World.step {} (.start (sampleEnvironment .direct) sampleArrival) with _ | t
  · rw [ht] at hobs
    cases hobs
  · rw [ht] at hobs
    obtain ⟨hclosed, hanswered⟩ := Prod.mk.inj (Option.some.inj hobs)
    have heq := hcut _ _ _ (sampleEnvironment .direct) _ ht
    rw [List.length_nil, hclosed, hanswered] at heq
    cases heq

end LanProxyGateway
