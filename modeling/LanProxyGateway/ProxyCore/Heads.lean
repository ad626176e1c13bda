import LanProxyGateway.ProxyCore.ConnectPort
import LanProxyGateway.ProxyCore.Hearing

/-!
# The beginning of a head

A session looks for the parts of a head in what it has read of it.
-/

open Foundation ByteString

namespace LanProxyGateway

open LanProxy

/-- The digits that the inline decoder reads: padding is where it stops. -/
theorem filterMap_takeWhile_unpadded (s : ByteString) (k : ℕ) :
    ((Base64.unpadded s ++ List.replicate k 61).takeWhile fun c ↦
      (Base64.digit? c).isSome).filterMap Base64.digit? = Base64.digits s := by
  have hpad : Base64.digit? 61 = none := by decide +kernel
  have htake : (Base64.unpadded s ++ List.replicate k 61).takeWhile
      (fun c ↦ (Base64.digit? c).isSome) = Base64.unpadded s := by
    rw [List.takeWhile_append_of_pos fun c hc ↦
      Base64.isSome_digit? ((Base64.unpadded_spec s).1 c hc)]
    cases k with
    | zero => simp
    | succ k =>
      rw [List.replicate_succ, List.takeWhile_cons_of_neg (by rw [hpad]; decide), List.append_nil]
  rw [htake, Base64.filterMap_unpadded Base64.digit?_getD hpad]

/-- The inline decoder reads what an encoder without padding writes. -/
theorem decodeCredentials_unpadded (s : ByteString) (k : ℕ) :
    decodeCredentials (Base64.unpadded s ++ List.replicate k 61) = s := by
  rw [decodeCredentials, filterMap_takeWhile_unpadded]
  exact Base64.decodeDigits_digits s 0

theorem decodeCredentials_encode (s : ByteString) : decodeCredentials (Base64.encode s) = s := by
  obtain ⟨-, k, hencode, -⟩ := Base64.unpadded_spec s
  rw [hencode, decodeCredentials_unpadded]

/-- The first colon of a user name and a password. -/
theorem split_at_colon {u : ByteString} (p : ByteString) (hu : 58 ∉ u) :
    find (u ++ ofString ":" ++ p) (ofString ":") 0 = some u.length ∧
      (u ++ ofString ":" ++ p).take u.length = u ∧
      (u ++ ofString ":" ++ p).drop (u.length + 1) = p := by
  have hwhole : (u ++ ofString ":" ++ p).drop 0 = u ++ 58 :: p := List.append_assoc _ _ _
  obtain ⟨hfind, hcut, hbehind⟩ := cut_at_byte hwhole hu
  rw [Nat.zero_add] at hfind hbehind
  exact ⟨hfind, hcut, hbehind⟩

/-- The end of a line without a carriage return of its own. -/
theorem find_crlf_of_drop {s word rest : ByteString} {pos : ℕ} (hword : 13 ∉ word)
    (hdrop : s.drop pos = word ++ (crlf ++ rest)) :
    find s crlf pos = some (pos + word.length) := by
  refine (find_eq_some_iff (by decide)).mpr ⟨Nat.le_add_right _ _, ?_, fun m hle hm hmem ↦ ?_⟩
  · rw [← List.drop_drop, hdrop, List.drop_left]
    exact List.prefix_append _ _
  · obtain ⟨j, rfl⟩ := Nat.exists_eq_add_of_le hle
    have hj : j < word.length := by omega
    rw [← List.drop_drop, hdrop, List.drop_append_of_le_length hj.le,
      List.drop_eq_getElem_cons hj] at hmem
    have hhead : (13 : UInt8) = word[j] := (List.cons_prefix_cons.mp hmem).1
    exact hword (hhead ▸ List.getElem_mem hj)

namespace ConnectHead

variable {h : ConnectHead} {sv : ByteString}

def authority (h : ConnectHead) : ByteString := h.host ++ ofString ":" ++ h.port

theorem not_mem_port {c : UInt8} (hc : isDigit c = false) : c ∉ h.port := by
  intro hmem
  have hdigit := h.port_written.decimal.2 c hmem
  rw [hc] at hdigit
  cases hdigit

theorem exists_encode_eq (h : ConnectHead) :
    ∃ rest, h.encode = ofString "CONNECT" ++ 32 :: (h.authority ++ 32 :: rest) := by
  have hblank : ofString " " = [32] := by decide
  have hverb : ofString "CONNECT " = ofString "CONNECT" ++ [32] := by decide
  refine ⟨h.lines ++ (basicHeader ++ (h.token ++ (crlf ++ h.rest))), ?_⟩
  simp only [encode, upToCredentials, front, connectFront, authority, hblank, hverb,
    List.append_assoc, List.cons_append, List.nil_append]

/-- The blanks on both sides of the authority. -/
theorem find_blanks (h : ConnectHead) : find h.encode (ofString " ") 0 = some 7 ∧
    find h.encode (ofString " ") 8 = some (8 + h.authority.length) := by
  have hblank : ofString " " = [32] := by decide
  obtain ⟨rest, hencode⟩ := h.exists_encode_eq
  have hword : (32 : UInt8) ∉ h.authority := by
    simp only [authority, List.mem_append, not_or]
    exact ⟨⟨h.host_word, by decide⟩, not_mem_port (by decide)⟩
  rw [hblank]
  constructor
  · exact find_singleton_iff.mpr ⟨_, _, hencode, by decide, rfl⟩
  · refine find_singleton_iff.mpr ⟨h.authority, rest, ?_, hword, rfl⟩
    rw [hencode]
    rfl

/-- The credentials begin where they should. -/
theorem find_basicHeader (h : ConnectHead) :
    find h.encode basicHeader 0 = some h.front.length := by
  have hencode : h.encode = h.front ++ (basicHeader ++ (h.token ++ crlf ++ h.rest)) := by
    simp only [encode, upToCredentials, List.append_assoc]
  rw [hencode]
  exact find_of_first (by decide) h.first

theorem drop_encode (h : ConnectHead) :
    h.encode.drop (h.front.length + 27) = h.token ++ (crlf ++ h.rest) := by
  rw [show h.encode = (h.front ++ basicHeader) ++ (h.token ++ (crlf ++ h.rest)) by
    simp only [encode, upToCredentials, List.append_assoc]]
  exact List.drop_left' List.length_append

/-- And their line ends where it should. -/
theorem find_crlf (h : ConnectHead) : find h.encode crlf (h.front.length + 27) =
    some (h.front.length + 27 + h.token.length) := by
  have hreturn : (13 : UInt8) ∉ h.token := by
    intro hmem
    obtain ⟨core, k, hcore, hletters, -, -⟩ :=
      Base64.exists_encode_eq (h.username ++ ofString ":" ++ h.password)
    rw [token, hcore, List.mem_append] at hmem
    rcases hmem with hmem | hmem
    · exact absurd (hletters 13 hmem) (by decide +kernel)
    · exact absurd (List.eq_of_mem_replicate hmem) (by decide)
  exact find_crlf_of_drop hreturn h.drop_encode

theorem length_upToCredentials (h : ConnectHead) :
    h.upToCredentials.length = h.front.length + 27 + h.token.length + 2 := by
  have hheader : basicHeader.length = 27 := by decide
  have hcrlf : crlf.length = 2 := by decide
  simp only [upToCredentials, List.length_append, hheader, hcrlf]

/-! ### What is found in the beginning of a head -/

/-- The authority is found whole or not at all. -/
theorem parseAuthority_beginning (hsv : sv <+: h.encode) : parseAuthority sv =
    if 8 + h.authority.length < sv.length then some (h.host, h.port) else none := by
  have hblank : ofString " " ≠ [] := by decide
  obtain ⟨hfirst, hsecond⟩ := h.find_blanks
  rw [parseAuthority]
  by_cases hlong : 8 + h.authority.length < sv.length
  · have h7 := (find_beginning hsv hblank).mpr ⟨hfirst, show 8 ≤ sv.length by omega⟩
    have hend := (find_beginning hsv hblank).mpr ⟨hsecond, hlong⟩
    have hcolon : ofString ":" = [58] := by decide
    have hport : (58 : UInt8) ∉ h.port := not_mem_port (by decide)
    have hsubstr : substr sv 8 h.authority.length = h.authority := by
      rw [substr_beginning hsv hlong.le, substr]
      obtain ⟨rest, hencode⟩ := h.exists_encode_eq
      have hdrop : h.encode.drop 8 = h.authority ++ 32 :: rest := by
        rw [hencode]
        rfl
      rw [hdrop, List.take_left]
    rw [if_pos hlong, h7]
    simp only [Option.bind_eq_bind, Option.bind_some, hend, Nat.add_sub_cancel_left, hsubstr]
    rw [authority, hcolon, List.append_assoc, List.singleton_append, rfind_append_cons hport]
    simp
  · rw [if_neg hlong]
    rcases h7 : find sv (ofString " ") 0 with _ | k
    · rfl
    · obtain rfl := Option.some.inj (((find_beginning hsv hblank).mp h7).1.symm.trans hfirst)
      rcases hend : find sv (ofString " ") 8 with _ | k
      · simp only [Option.bind_eq_bind, Option.bind_some, hend, Option.bind_none]
      · obtain ⟨hk, hle⟩ := (find_beginning hsv hblank).mp hend
        obtain rfl := Option.some.inj (hk.symm.trans hsecond)
        exact absurd hle hlong

/-- So are the credentials, and to find them takes the end of their line. -/
theorem parseCredentials_beginning (hsv : sv <+: h.encode) : parseCredentials sv =
    if h.upToCredentials.length ≤ sv.length then (h.username, h.password) else ([], []) := by
  have hheader : basicHeader ≠ [] := by decide
  have hcrlf : crlf ≠ [] := by decide
  rw [parseCredentials, show ofString "Proxy-Authorization: Basic " = basicHeader from rfl,
    show ofString "\r\n" = crlf from rfl]
  by_cases hlong : h.upToCredentials.length ≤ sv.length
  · rw [if_pos hlong]
    rw [length_upToCredentials] at hlong
    have hpos := (find_beginning hsv hheader).mpr ⟨h.find_basicHeader,
      show h.front.length + 27 ≤ sv.length by omega⟩
    have hend := (find_beginning hsv hcrlf).mpr ⟨h.find_crlf, hlong⟩
    have hsubstr : substr sv (h.front.length + 27) h.token.length = h.token := by
      rw [substr_beginning hsv (by omega), substr, h.drop_encode, List.take_left]
    obtain ⟨hcolon, husername, hpassword⟩ := split_at_colon h.password h.username_word
    simp only [hpos, hend, Nat.add_sub_cancel_left, hsubstr]
    rw [token, decodeCredentials_encode, hcolon]
    simp only [husername, hpassword]
  · rw [if_neg hlong]
    rw [length_upToCredentials] at hlong
    rcases hpos : find sv basicHeader 0 with _ | k
    · rfl
    · obtain rfl := Option.some.inj
        (((find_beginning hsv hheader).mp hpos).1.symm.trans h.find_basicHeader)
      rcases hend : find sv crlf (h.front.length + 27) with _ | k
      · simp only [hend]
      · obtain ⟨hk, hle⟩ := (find_beginning hsv hcrlf).mp hend
        obtain rfl := Option.some.inj (hk.symm.trans h.find_crlf)
        exact absurd hle hlong

/-! ### How far the beginning of a head takes the handshake -/

variable {env : Environment}

theorem isHttpConnect_beginning (b : Buffer) (hsv : sv <+: h.encode) (hfits : sv.length ≤ 8192) :
    isHttpConnect (b.store sv) sv.length = decide (8 ≤ sv.length) := by
  rw [isHttpConnect]
  by_cases h8 : 8 ≤ sv.length
  · obtain ⟨rest, hencode⟩ := h.exists_encode_eq
    have hread : (b.store sv).read 0 8 = ofString "CONNECT " := by
      obtain ⟨u, hu⟩ := hsv
      have htake : (sv ++ u).take 8 = sv.take 8 := List.take_append_of_le_length h8
      rw [Buffer.read_store b (by omega) hfits, List.drop_zero, ← htake, hu, hencode]
      rfl
    simp [h8, hread]
  · simp [h8]

/-- Too little for an HTTP CONNECT, and no greeting. -/
theorem parseGreeting_beginning (b : Buffer) (hsv : sv <+: h.encode) (hne : sv ≠ [])
    (hfits : sv.length ≤ 8192) : parseGreeting (b.store sv) sv.length = .invalid := by
  obtain ⟨y, bytes, hy⟩ := List.exists_cons_of_ne_nil hne
  obtain ⟨rest, hencode⟩ := h.exists_encode_eq
  rw [hy, hencode] at hsv
  obtain ⟨rfl, -⟩ := List.cons_prefix_cons.mp hsv
  exact parseGreeting_of_head b hy hfits (by decide)

/-- What shows no credentials leads nowhere, and does no harm. -/
theorem harmless_of_unnamed (env : Environment) (hsv : sv <+: h.encode)
    (hcredentials : parseCredentials sv = ([], [])) :
    Session.HarmlessHead env sv ∧ Session.headMilestones env sv = [] := by
  have hauthority := parseAuthority_beginning hsv
  constructor
  · intro host portStr hfound
    rw [hauthority] at hfound
    split at hfound
    · obtain ⟨rfl, rfl⟩ := Prod.mk.inj (Option.some.inj hfound)
      refine ⟨(Session.parsePort_isOk_iff _).mp ⟨_, parsePort_of_writesPort h.port_written⟩,
        utf8_of_ascii h.host_ascii, fun hne ↦ absurd ?_ hne⟩
      rw [hcredentials]
      exact ⟨rfl, rfl⟩
    · cases hfound
  · rw [Session.headMilestones, hauthority, hcredentials]
    split
    · rfl
    · rfl

/-- In front of the credentials stands the authority. -/
theorem authority_of_long {n : ℕ} (hlong : h.upToCredentials.length ≤ n) :
    8 + h.authority.length < n := by
  have hverb : (ofString "CONNECT ").length = 8 := by decide
  rw [length_upToCredentials, front, connectFront] at hlong
  simp only [List.length_append, hverb] at hlong
  simp only [authority, List.length_append]
  omega

/-- Everything up to the credentials leads as far as the whole head. -/
theorem harmless_iff_of_long (env : Environment) (hsv : sv <+: h.encode)
    (hlong : h.upToCredentials.length ≤ sv.length) :
    (Session.HarmlessHead env sv ↔ Session.HarmlessHead env h.encode) ∧
      Session.headMilestones env sv = Session.headMilestones env h.encode := by
  have hwhole : h.encode <+: h.encode := List.prefix_refl _
  have hle := hsv.length_le
  have hreach := authority_of_long hlong
  have hcredentials : parseCredentials sv = parseCredentials h.encode := by
    rw [parseCredentials_beginning hsv, parseCredentials_beginning hwhole, if_pos hlong,
      if_pos (hlong.trans hle)]
  have hauthority : parseAuthority sv = parseAuthority h.encode := by
    rw [parseAuthority_beginning hsv, parseAuthority_beginning hwhole, if_pos hreach,
      if_pos (hreach.trans_le hle)]
  constructor
  · rw [Session.HarmlessHead, Session.HarmlessHead, hcredentials, hauthority]
  · rw [Session.headMilestones, Session.headMilestones, hcredentials, hauthority]

/-! ### Where a head may be cut -/

open Session

variable {c : Ctx} {first : Chunk}

/-- A first read that shows no credentials. -/
theorem heard_of_unnamed (hs : c.self.Sound) (hp : c.self.pending = [.read .handshake])
    (hpre : first.bytes <+: h.encode) (hcredentials : parseCredentials first.bytes = ([], []))
    (rest : List Chunk) : heard env c (first :: rest) = some c.self.milestones := by
  have hhttp := isHttpConnect_beginning c.self.clientBuffer hpre first.fits
  by_cases h8 : 8 ≤ first.bytes.length
  · obtain ⟨hharmless, hnone⟩ := harmless_of_unnamed env hpre hcredentials
    rw [decide_eq_true h8] at hhttp
    obtain ⟨d, hd, hmilestones⟩ := run_hear_head hs hp hhttp hharmless rest
    rw [heard_of_ok hd, hmilestones, hnone, List.append_nil]
  · rw [decide_eq_false h8] at hhttp
    have hinvalid := parseGreeting_beginning c.self.clientBuffer hpre first.nonempty first.fits
    obtain ⟨d, hd, -, hpending, hmilestones⟩ :=
      hear_greeting env hs (.inr ⟨hp, hhttp⟩) hinvalid
    have hrun : run (hear env) c (first :: rest) = .ok d := by
      rw [run_cons, hd]
      exact run_hear_of_over (.inl hpending) rest
    rw [heard_of_ok hrun, hmilestones]
    exact congrArg some (List.append_nil _)

/-- A first read that reaches to the end of that line. -/
theorem heard_of_long (hs : c.self.Sound) (hp : c.self.pending = [.read .handshake])
    (hpre : first.bytes <+: h.encode) (hlong : h.upToCredentials.length ≤ first.bytes.length)
    (rest : List Chunk) : heard env c (first :: rest) = heard env c [h.chunk] := by
  have hchunk : ∀ {chunk : Chunk}, chunk.bytes <+: h.encode →
      h.upToCredentials.length ≤ chunk.bytes.length →
      isHttpConnect (c.self.clientBuffer.store chunk.bytes) chunk.bytes.length = true := by
    intro chunk hpre hlong
    rw [isHttpConnect_beginning _ hpre chunk.fits, decide_eq_true_iff]
    rw [length_upToCredentials] at hlong
    omega
  have hwhole : h.chunk.bytes <+: h.encode := List.prefix_refl _
  have hreach : h.upToCredentials.length ≤ h.chunk.bytes.length := hlong.trans hpre.length_le
  obtain ⟨hiff, hmilestones⟩ := harmless_iff_of_long env hpre hlong
  by_cases hharmless : HarmlessHead env h.encode
  · obtain ⟨d, hd, hd'⟩ :=
      run_hear_head hs hp (hchunk hpre hlong) (hiff.mpr hharmless) rest
    obtain ⟨e, he, he'⟩ := run_hear_head hs hp (hchunk hwhole hreach) hharmless []
    rw [heard_of_ok hd, heard_of_ok he, hd', he', hmilestones]
    rfl
  · rw [heard, heard, run_hear_head_throws hs hp (hchunk hpre hlong) (hiff.not.mpr hharmless) rest,
      run_hear_head_throws hs hp (hchunk hwhole hreach) hharmless []]

/-- The whole head gets somewhere, or it takes the process down. -/
theorem heard_whole_ne (hs : c.self.Sound) (hp : c.self.pending = [.read .handshake])
    (hne : ¬(h.username = [] ∧ h.password = [])) :
    heard env c [h.chunk] ≠ some c.self.milestones := by
  have hwhole : h.chunk.bytes <+: h.encode := List.prefix_refl _
  have hlong : h.upToCredentials.length ≤ h.encode.length := by
    rw [encode, List.length_append]
    omega
  have hhttp : isHttpConnect (c.self.clientBuffer.store h.chunk.bytes) h.chunk.bytes.length =
      true := by
    rw [isHttpConnect_beginning _ hwhole h.chunk.fits, decide_eq_true_iff]
    rw [length_upToCredentials] at hlong
    exact le_trans (by omega) hlong
  by_cases hharmless : HarmlessHead env h.chunk.bytes
  · obtain ⟨d, hd, hmilestones⟩ := run_hear_head hs hp hhttp hharmless []
    obtain ⟨ms, hms⟩ : ∃ ms, headMilestones env h.chunk.bytes =
        .credentials h.username h.password :: ms := by
      have hreach : 8 + h.authority.length < h.encode.length := authority_of_long hlong
      rw [headMilestones, parseAuthority_beginning hwhole, parseCredentials_beginning hwhole]
      rw [if_pos (show 8 + h.authority.length < h.chunk.bytes.length from hreach),
        if_pos (show h.upToCredentials.length ≤ h.chunk.bytes.length from hlong)]
      simp only [if_neg hne]
      exact ⟨_, rfl⟩
    rw [heard_of_ok hd, hmilestones, hms]
    intro heq
    have hlen := congrArg List.length (Option.some.inj heq)
    rw [List.length_append, List.length_cons] at hlen
    omega
  · rw [heard, run_hear_head_throws hs hp hhttp hharmless []]
    intro heq
    cases heq

/-- The first read is a beginning of the head. -/
theorem exists_first (cut : Splitting (ClientOpening.http h).messages) : ∃ first rest,
    cut.reads = first :: rest ∧ first.bytes <+: h.encode ∧
      ∃ ns, cut.places.flatten = first.bytes.length :: ns := by
  obtain ⟨chunks, hpieces, hjoined⟩ := List.map_eq_singleton_iff.mp cut.joined
  have hreads : cut.reads = chunks := by
    rw [Splitting.reads, hpieces, List.flatten_singleton]
  rcases chunks with _ | ⟨first, rest⟩
  · exact absurd hjoined.symm h.chunk.nonempty
  · refine ⟨first, rest, hreads, ?_, rest.map fun c ↦ c.bytes.length, ?_⟩
    · rw [← hjoined, List.map_cons, List.flatten_cons]
      exact List.prefix_append _ _
    · rw [Splitting.places, hpieces]
      simp

/-- **Where the head of an HTTP CONNECT may be cut.** -/
theorem unnoticed_head_iff (h : ConnectHead) (cut : Splitting (ClientOpening.http h).messages) :
    cut.Unnoticed ↔ (ClientOpening.http h).SparedBy cut.places := by
  obtain ⟨first, rest, hreads, hpre, ns, hplaces⟩ := exists_first cut
  have hunsplit : (ClientOpening.http h).unsplit.reads = [h.chunk] := rfl
  rw [ClientOpening.SparedBy, hplaces]
  constructor
  · intro hcut
    by_contra hspared
    rw [not_or] at hspared
    obtain ⟨hne, hshort⟩ := hspared
    obtain ⟨c, hfresh, hp, hheard⟩ := exists_listener
    have heq := hheard hcut (sampleEnvironment .direct)
    have hcredentials := parseCredentials_beginning hpre
    rw [if_neg fun hle ↦ hshort ⟨_, _, rfl, hle⟩] at hcredentials
    rw [hreads, hunsplit, heard_of_unnamed hfresh.sound hp hpre hcredentials] at heq
    exact heard_whole_ne hfresh.sound hp hne heq.symm
  · intro hspared
    refine Splitting.unnoticed_of_heard fun env c hs hp ↦ ?_
    rw [hreads, hunsplit]
    rcases hspared with hnone | ⟨_, _, hcons, hlong⟩
    · -- the code takes the credentials for none, wherever the read ends
      have hunnamed : ∀ {chunk : Chunk}, chunk.bytes <+: h.encode →
          parseCredentials chunk.bytes = ([], []) := by
        intro chunk hchunk
        rw [parseCredentials_beginning hchunk, hnone.1, hnone.2, ite_self]
      rw [heard_of_unnamed hs hp hpre (hunnamed hpre),
        heard_of_unnamed hs hp (List.prefix_refl _) (hunnamed (List.prefix_refl _))]
    · obtain ⟨rfl, -⟩ := List.cons.inj hcons
      exact heard_of_long hs hp hpre hlong rest

end ConnectHead

end LanProxyGateway
