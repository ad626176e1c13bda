import LanProxyGateway.ProxyCore.Protocol

/-!
# The messages of a SOCKS5 client

A client sends three messages: the methods it offers, its name and password (RFC 1929), and its
request (RFC 1928). Two facts about each of the three parsers: its result depends on the bytes of
the last read alone (`_fresh`), and it decodes a message exactly where these bytes begin with that
message (`_iff`).
-/

open Foundation ByteString

namespace LanProxyGateway

open LanProxy

/-! ## Messages -/

/-- A list of methods. -/
structure MethodOffer where
  methods : ByteString
  fits : methods.length ≤ 255

def MethodOffer.encode (m : MethodOffer) : ByteString :=
  socksVersion :: m.methods.length.toUInt8 :: m.methods

/-- A name and a password. -/
structure LoginMessage where
  username : ByteString
  password : ByteString
  username_fits : username.length ≤ 255
  password_fits : password.length ≤ 255

def LoginMessage.encode (m : LoginMessage) : ByteString :=
  0x01 :: m.username.length.toUInt8 ::
    (m.username ++ m.password.length.toUInt8 :: m.password)

inductive TargetAddress
  | ipv4 (b0 b1 b2 b3 : UInt8)
  | domain (name : ByteString) (fits : name.length ≤ 255)
  | ipv6 (bytes : ByteString) (sixteen : bytes.length = 16)

/-- The type of the address and the address. -/
def TargetAddress.encode : TargetAddress → ByteString
  | .ipv4 b0 b1 b2 b3 => [atypIpv4, b0, b1, b2, b3]
  | .domain name _ => atypDomain :: name.length.toUInt8 :: name
  | .ipv6 bytes _ => atypIpv6 :: bytes

/-- The text that becomes `m_target_host`. -/
def TargetAddress.host (v6Text : List UInt8 → AsciiText) : TargetAddress → ByteString
  | .ipv4 b0 b1 b2 b3 => (ipv4Text b0 b1 b2 b3).bytes
  | .domain name _ => name
  | .ipv6 bytes _ => (v6Text bytes).bytes

structure RequestMessage where
  command : UInt8
  reserved : UInt8
  address : TargetAddress
  port : UInt16

def RequestMessage.encode (m : RequestMessage) : ByteString :=
  socksVersion :: m.command :: m.reserved ::
    (m.address.encode ++ [(m.port >>> 8).toUInt8, m.port.toUInt8])

/-! ## Bytes of lengths and ports -/

theorem toNat_length {s : ByteString} (h : s.length ≤ 255) : s.length.toUInt8.toNat = s.length := by
  have hmod : s.length.toUInt8.toNat = s.length % 256 := UInt8.toNat_ofNat'
  omega

theorem toUInt8_length_eq {s : ByteString} {c : UInt8} (h : s.length = c.toNat) :
    s.length.toUInt8 = c := by
  have hlt := c.toNat_lt
  rw [← UInt8.toNat_inj, toNat_length (by omega), h]

/-- The two bytes of a port, put together again. -/
theorem portOfBytes_split (port : UInt16) :
    portOfBytes (port >>> 8).toUInt8 port.toUInt8 = port := by
  have hlt := port.toNat_lt
  rw [portOfBytes, ← UInt16.toNat_inj]
  have hhigh : ((port >>> 8).toUInt8.toUInt16 <<< 8).toNat = (port.toNat / 256) <<< 8 := by
    simp [Nat.shiftRight_eq_div_pow, Nat.shiftLeft_eq]
    omega
  have hlow : port.toUInt8.toUInt16.toNat = port.toNat % 256 := by simp
  rw [UInt16.toNat_or, hhigh, hlow, ← Nat.shiftLeft_add_eq_or_of_lt (Nat.mod_lt _ (by decide)),
    Nat.shiftLeft_eq]
  omega

theorem toNat_portOfBytes (high low : UInt8) :
    (portOfBytes high low).toNat = high.toNat * 256 + low.toNat := by
  have hhigh := high.toNat_lt
  have hlow := low.toNat_lt
  have hshift : (high.toUInt16 <<< 8).toNat = high.toNat <<< 8 := by
    simp [Nat.shiftLeft_eq]
    omega
  rw [portOfBytes, UInt16.toNat_or, hshift, UInt8.toNat_toUInt16,
    ← Nat.shiftLeft_add_eq_or_of_lt hlow, Nat.shiftLeft_eq]

/-- The bytes of a port are its two bytes. -/
theorem bytes_portOfBytes (high low : UInt8) :
    (portOfBytes high low >>> 8).toUInt8 = high ∧ (portOfBytes high low).toUInt8 = low := by
  have hport := toNat_portOfBytes high low
  have hhigh := high.toNat_lt
  have hlow := low.toNat_lt
  constructor
  · rw [← UInt8.toNat_inj, UInt16.toNat_toUInt8, UInt16.toNat_shiftRight, hport]
    simp [Nat.shiftRight_eq_div_pow]
    omega
  · rw [← UInt8.toNat_inj, UInt16.toNat_toUInt8, hport]
    omega

/-! ## The parsers -/

section Parsers

variable {b b' : Buffer} {n : ℕ}

/-! ### The offer -/

theorem parseGreeting_fresh (h : ∀ i < n, b.byte i = b'.byte i) :
    parseGreeting b n = parseGreeting b' n := by
  rw [parseGreeting, parseGreeting]
  by_cases hshort : n < 2
  · rw [if_pos (.inl hshort), if_pos (.inl hshort)]
  rw [h 0 (by omega), h 1 (by omega)]
  refine if_congr Iff.rfl rfl (if_ctx_congr Iff.rfl (fun _ ↦ rfl) fun hlong ↦ ?_)
  rw [Buffer.read_congr fun i _ hi ↦ h i (by omega)]

/-- What begins with another byte than the version is no greeting. -/
theorem parseGreeting_of_head (b : Buffer) {s bytes : ByteString} {y : UInt8} (hs : s = y :: bytes)
    (hfits : s.length ≤ 8192) (hy : y ≠ socksVersion) :
    parseGreeting (b.store s) s.length = .invalid := by
  subst hs
  rw [parseGreeting, if_pos]
  rw [Buffer.byte_store b (List.length_pos_of_mem List.mem_cons_self) hfits,
    List.getElem_cons_zero]
  exact .inr hy

/-- A greeting with fewer methods than it says is incomplete. -/
theorem parseGreeting_of_short (b : Buffer) {s bytes : ByteString} {count : UInt8}
    (hs : s = socksVersion :: count :: bytes) (hfits : s.length ≤ 8192)
    (hshort : bytes.length < count.toNat) : parseGreeting (b.store s) s.length = .incomplete := by
  subst hs
  have hlength : (socksVersion :: count :: bytes).length = bytes.length + 2 := rfl
  have h0 : (b.store (socksVersion :: count :: bytes)).byte 0 = socksVersion := by
    rw [Buffer.byte_store b (by omega) hfits, List.getElem_cons_zero]
  have h1 : (b.store (socksVersion :: count :: bytes)).byte 1 = count := by
    rw [Buffer.byte_store b (by omega) hfits, List.getElem_cons_succ, List.getElem_cons_zero]
  rw [parseGreeting, h0, h1, if_neg, if_pos]
  · omega
  · rintro (hless | hversion)
    · omega
    · exact hversion rfl

theorem parseGreeting_eq_methods_iff (b : Buffer) (n : ℕ) (supportAuth : Bool) :
    parseGreeting b n = .methods supportAuth ↔ ∃ (m : MethodOffer) (rest : ByteString),
      b.read 0 n = m.encode ++ rest ∧ m.methods.any (· == authUserpass) = supportAuth := by
  simp only [parseGreeting]
  constructor
  · intro h
    split at h
    · cases h
    rename_i hhead
    split at h
    · cases h
    rename_i hlong
    rw [not_or, not_not] at hhead
    have hlt := (b.byte 1).toNat_lt
    have hlen := b.length_read 2 (b.byte 1).toNat
    obtain ⟨k, rfl⟩ := Nat.exists_eq_add_of_le (Nat.not_lt.mp hlong)
    refine ⟨⟨b.read 2 (b.byte 1).toNat, by omega⟩, b.read (2 + (b.byte 1).toNat) k, ?_,
      Greeting.methods.inj h⟩
    rw [MethodOffer.encode, toUInt8_length_eq hlen, ← hhead.2,
      show 2 + (b.byte 1).toNat + k = (b.byte 1).toNat + k + 1 + 1 by omega, Buffer.read_succ,
      Buffer.read_succ, Buffer.read_add]
    rfl
  · rintro ⟨m, rest, hread, rfl⟩
    have hmethods := m.fits
    simp only [MethodOffer.encode, List.cons_append, Buffer.read_eq_cons_iff,
      Buffer.read_eq_append_iff, List.length_cons, List.length_append] at hread
    obtain ⟨rfl, h0, -, h1, -, hm, -⟩ := hread
    rw [Nat.zero_add] at h1
    rw [h0, h1, toNat_length hmethods, if_neg, if_neg, hm]
    · omega
    · rintro (hshort | hversion)
      · omega
      · exact hversion rfl

/-! ### The login -/

theorem parseLogin_fresh (h : ∀ i < n, b.byte i = b'.byte i) :
    parseLogin b n = parseLogin b' n := by
  rw [parseLogin, parseLogin]
  by_cases hshort : n < 2
  · rw [if_pos (.inl hshort), if_pos (.inl hshort)]
  rw [h 0 (by omega), h 1 (by omega)]
  refine if_congr Iff.rfl rfl (if_ctx_congr Iff.rfl (fun _ ↦ rfl) fun hulen ↦ ?_)
  rw [h _ (by omega)]
  refine if_ctx_congr Iff.rfl (fun _ ↦ rfl) fun hplen ↦ ?_
  rw [Buffer.read_congr fun i _ hi ↦ h i (by omega), Buffer.read_congr fun i _ hi ↦ h i (by omega)]

theorem parseLogin_eq_credentials_iff (b : Buffer) (n : ℕ) (username password : ByteString) :
    parseLogin b n = .credentials username password ↔ ∃ (m : LoginMessage) (rest : ByteString),
      b.read 0 n = m.encode ++ rest ∧ (m.username, m.password) = (username, password) := by
  simp only [parseLogin]
  constructor
  · intro h
    split at h
    · cases h
    rename_i hhead
    split at h
    · cases h
    split at h
    · cases h
    rename_i hlong
    rw [not_or, not_not] at hhead
    obtain ⟨rfl, rfl⟩ := Login.credentials.inj h
    have hulen := (b.byte 1).toNat_lt
    set ulen := (b.byte 1).toNat with hu
    have hplen := (b.byte (2 + ulen)).toNat_lt
    set plen := (b.byte (2 + ulen)).toNat with hp
    have hlenu := b.length_read 2 ulen
    have hlenp := b.length_read (2 + ulen + 1) plen
    obtain ⟨k, rfl⟩ := Nat.exists_eq_add_of_le (Nat.not_lt.mp hlong)
    refine ⟨⟨b.read 2 ulen, b.read (2 + ulen + 1) plen, by omega, by omega⟩,
      b.read (2 + ulen + 1 + plen) k, ?_, rfl⟩
    rw [LoginMessage.encode, toUInt8_length_eq (hlenu.trans hu), toUInt8_length_eq (hlenp.trans hp),
      ← hhead.2, show 2 + ulen + 1 + plen + k = ulen + (plen + k + 1) + 1 + 1 by omega,
      Buffer.read_succ, Buffer.read_succ, Buffer.read_add, Buffer.read_succ, Buffer.read_add]
    simp only [List.cons_append, List.append_assoc, Nat.zero_add, Nat.reduceAdd]
  · rintro ⟨m, rest, hread, hvalue⟩
    obtain ⟨rfl, rfl⟩ := Prod.mk.inj hvalue
    have hulen := m.username_fits
    have hplen := m.password_fits
    simp only [LoginMessage.encode, List.cons_append, List.append_assoc, Buffer.read_eq_cons_iff,
      Buffer.read_eq_append_iff, List.length_cons, List.length_append, Nat.zero_add,
      Nat.reduceAdd] at hread
    obtain ⟨rfl, h0, -, h1, -, hu, -, hbyte, -, hp, -⟩ := hread
    rw [h0, h1, toNat_length hulen, hbyte, toNat_length hplen, if_neg, if_neg, if_neg, hu, hp]
    · omega
    · omega
    · rintro (hshort | hversion)
      · omega
      · exact hversion rfl

/-! ### The request -/

variable (v6Text : List UInt8 → AsciiText)

theorem parseRequest_fresh (h : ∀ i < n, b.byte i = b'.byte i) :
    parseRequest v6Text b n = parseRequest v6Text b' n := by
  rw [parseRequest, parseRequest]
  by_cases hshort : n < 4
  · rw [if_pos (.inl hshort), if_pos (.inl hshort)]
  rw [h 0 (by omega), h 1 (by omega), h 3 (by omega)]
  refine if_congr Iff.rfl rfl (if_congr Iff.rfl rfl (if_congr Iff.rfl ?_ (if_congr Iff.rfl ?_
    (if_congr Iff.rfl ?_ rfl))))
  · refine if_ctx_congr Iff.rfl (fun _ ↦ rfl) fun hlong ↦ ?_
    rw [h 4 (by omega), h 5 (by omega), h 6 (by omega), h 7 (by omega), h 8 (by omega),
      h 9 (by omega)]
  · by_cases hfour : n = 4
    · -- the length of the host is not among the bytes of the read, but whatever it is they are few
      simp only
      rw [if_pos (by omega), if_pos (by omega)]
    · rw [h 4 (by omega)]
      refine if_ctx_congr Iff.rfl (fun _ ↦ rfl) fun hlong ↦ ?_
      rw [Buffer.read_congr fun i _ hi ↦ h i (by omega), h (5 + _) (by omega),
        h (5 + _ + 1) (by omega)]
  · refine if_ctx_congr Iff.rfl (fun _ ↦ rfl) fun hlong ↦ ?_
    rw [Buffer.read_congr fun i _ hi ↦ h i (by omega), h 20 (by omega), h 21 (by omega)]

/-- The bytes of a request behind the reserved byte decide about the target. -/
theorem parseRequest_of_read {b : Buffer} {n : ℕ} {m : RequestMessage} {rest : ByteString}
    (hcommand : m.command = cmdConnect) (hread : b.read 0 n = m.encode ++ rest) :
    parseRequest v6Text b n = .target (m.address.host v6Text) m.port := by
  obtain ⟨command, reserved, address, port⟩ := m
  obtain rfl : command = cmdConnect := hcommand
  simp only [RequestMessage.encode, List.cons_append, List.append_assoc, Buffer.read_eq_cons_iff,
    Nat.zero_add, Nat.reduceAdd] at hread
  obtain ⟨rfl, h0, -, h1, -, -, hread⟩ := hread
  simp only [parseRequest, h0, h1]
  cases address with
  | ipv4 b0 b1 b2 b3 =>
    simp only [TargetAddress.encode, List.cons_append, List.nil_append, Buffer.read_eq_cons_iff,
      Nat.reduceAdd] at hread
    obtain ⟨-, h3, -, h4, -, h5, -, h6, -, h7, -, h8, -, h9, -⟩ := hread
    rw [h3, h4, h5, h6, h7, h8, h9, portOfBytes_split, if_neg, if_neg, if_pos rfl, if_neg]
    · rfl
    · simp [TargetAddress.encode]
    · simp
    · simp [TargetAddress.encode]
  | domain name hname =>
    simp only [TargetAddress.encode, List.cons_append, List.nil_append, Buffer.read_eq_cons_iff,
      Buffer.read_eq_append_iff, Nat.reduceAdd] at hread
    obtain ⟨-, h3, -, h4, -, hhost, -, hhigh, -, hlow, -⟩ := hread
    rw [h3, h4, toNat_length hname, hhigh, hlow, hhost, portOfBytes_split, if_neg, if_neg, if_neg,
      if_pos rfl, if_neg]
    · rfl
    · simp [TargetAddress.encode]
      omega
    · decide
    · simp
    · simp [TargetAddress.encode]
  | ipv6 bytes hbytes =>
    simp only [TargetAddress.encode, List.cons_append, List.nil_append, Buffer.read_eq_cons_iff,
      Buffer.read_eq_append_iff, hbytes, Nat.reduceAdd] at hread
    obtain ⟨-, h3, -, h4, -, h20, -, h21, -⟩ := hread
    rw [h3, h4, h20, h21, portOfBytes_split, if_neg, if_neg, if_neg, if_neg, if_pos rfl, if_neg]
    · rfl
    · simp [TargetAddress.encode, hbytes]
      omega
    · decide
    · decide
    · simp
    · simp [TargetAddress.encode]

/-- A request with the given parts stands at the front of the bytes that it was read from. -/
theorem encode_of_reads {b : Buffer} {address : TargetAddress} {k : ℕ}
    (h0 : b.byte 0 = socksVersion) (h1 : b.byte 1 = cmdConnect)
    (haddress : b.read 3 address.encode.length = address.encode) :
    b.read 0 (3 + address.encode.length + 2 + k) =
      RequestMessage.encode ⟨cmdConnect, b.byte 2, address,
          portOfBytes (b.byte (3 + address.encode.length))
            (b.byte (3 + address.encode.length + 1))⟩ ++
        b.read (3 + address.encode.length + 2) k := by
  obtain ⟨hhigh, hlow⟩ := bytes_portOfBytes (b.byte (3 + address.encode.length))
    (b.byte (3 + address.encode.length + 1))
  have hhead : b.read 0 3 = [b.byte 0, b.byte 1, b.byte 2] := rfl
  have hport : b.read (3 + address.encode.length) 2 = [b.byte (3 + address.encode.length),
    b.byte (3 + address.encode.length + 1)] := rfl
  rw [RequestMessage.encode, hhigh, hlow, Buffer.read_add, Buffer.read_add, Buffer.read_add,
    Nat.zero_add, Nat.zero_add, Nat.zero_add, haddress, hhead, hport, h0, h1]
  simp only [List.append_assoc, List.cons_append, List.nil_append]

theorem parseRequest_eq_target_iff_starts (b : Buffer) (n : ℕ) (host : ByteString)
    (port : UInt16) :
    parseRequest v6Text b n = .target host port ↔
      ∃ (m : { m : RequestMessage // m.command = cmdConnect }) (rest : ByteString),
        b.read 0 n = m.val.encode ++ rest ∧
          (m.val.address.host v6Text, m.val.port) = (host, port) := by
  constructor
  · intro h
    simp only [parseRequest] at h
    split at h
    · cases h
    rename_i hhead
    rw [not_or, not_not] at hhead
    split at h
    · cases h
    rename_i hcommand
    rw [not_not] at hcommand
    -- every kind of address is where `encode_of_reads` looks for it
    have hstarts : ∀ address : TargetAddress, 3 + address.encode.length + 2 ≤ n →
        b.read 3 address.encode.length = address.encode → address.host v6Text = host →
        portOfBytes (b.byte (3 + address.encode.length))
          (b.byte (3 + address.encode.length + 1)) = port →
        ∃ (m : { m : RequestMessage // m.command = cmdConnect }) (rest : ByteString),
          b.read 0 n = m.val.encode ++ rest ∧
            (m.val.address.host v6Text, m.val.port) = (host, port) := by
      rintro address hlong haddress rfl rfl
      obtain ⟨k, rfl⟩ := Nat.exists_eq_add_of_le hlong
      exact ⟨⟨_, rfl⟩, _, encode_of_reads hhead.2 hcommand haddress, rfl⟩
    split at h
    · rename_i hatyp
      split at h
      · cases h
      rename_i hlong
      obtain ⟨hhost, hport⟩ := ConnectRequest.target.inj h
      apply hstarts (.ipv4 (b.byte 4) (b.byte 5) (b.byte 6) (b.byte 7))
      · exact Nat.not_lt.mp hlong
      · rw [TargetAddress.encode, ← hatyp]
        rfl
      · exact hhost
      · exact hport
    split at h
    · rename_i hatyp
      split at h
      · cases h
      rename_i hlong
      obtain ⟨hhost, hport⟩ := ConnectRequest.target.inj h
      have hlt := (b.byte 4).toNat_lt
      have hlen := b.length_read 5 (b.byte 4).toNat
      have hencode : (TargetAddress.domain (b.read 5 (b.byte 4).toNat) (by omega)).encode.length =
          2 + (b.byte 4).toNat := by
        rw [TargetAddress.encode, List.length_cons, List.length_cons, hlen]
        omega
      apply hstarts (.domain (b.read 5 (b.byte 4).toNat) (by omega))
      · omega
      · rw [hencode, TargetAddress.encode, toUInt8_length_eq hlen, ← hatyp, Nat.add_comm 2,
          Buffer.read_succ, Buffer.read_succ]
      · exact hhost
      · rw [hencode, ← Nat.add_assoc]
        exact hport
    split at h
    · rename_i hatyp
      split at h
      · cases h
      rename_i hlong
      obtain ⟨hhost, hport⟩ := ConnectRequest.target.inj h
      have hlen := b.length_read 4 16
      apply hstarts (.ipv6 (b.read 4 16) hlen)
      · rw [TargetAddress.encode, List.length_cons, hlen]
        omega
      · rw [TargetAddress.encode, List.length_cons, hlen, ← hatyp, Buffer.read_succ]
      · exact hhost
      · rw [TargetAddress.encode, List.length_cons, hlen]
        exact hport
    · cases h
  · rintro ⟨⟨m, hcommand⟩, rest, hread, hvalue⟩
    obtain ⟨rfl, rfl⟩ := Prod.mk.inj hvalue
    exact parseRequest_of_read v6Text hcommand hread

end Parsers

end LanProxyGateway
