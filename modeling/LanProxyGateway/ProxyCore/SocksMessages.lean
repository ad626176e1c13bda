import LanProxyGateway.ProxyCore.Lifecycle

/-!
# What is made of SOCKS5 messages

The three parsers of a session work on a buffer that still holds what earlier reads left in it, and
take lengths from the bytes and use them as offsets. `Decoder.Exact` says that none of this matters:
a parser looks at no cell that is not there, its result depends on the bytes of the last read alone,
and it decodes a message exactly where the bytes begin with that message.

The parsers are a little wider than the two documents and in one place narrower. They let an offer
be empty and ignore the reserved byte of a request, and the only command they decode is CONNECT.
-/

open Foundation ByteString

namespace LanProxyGateway

open LanProxy

/-! ## Reads that are checked -/

namespace Buffer

/-- `buffer.at(i)`: nothing outside the buffer. -/
def byte? (b : Buffer) (i : ℕ) : Option UInt8 :=
  if h : i < 8192 then some (b.cells ⟨i, h⟩) else none

/-- The `n` bytes from index `start` on, where all of them are there. -/
def read? (b : Buffer) (start n : ℕ) : Option ByteString :=
  if start + n ≤ 8192 then some (b.read start n) else none

variable {b : Buffer} {i start n : ℕ}

theorem byte?_eq (hi : i < 8192) : b.byte? i = some (b.byte i) := by
  rw [byte?, byte, dif_pos hi, dif_pos hi]

theorem read?_eq (h : start + n ≤ 8192) : b.read? start n = some (b.read start n) := if_pos h

end Buffer

/-- `parseGreeting` with checked reads. -/
def parseGreeting? (b : Buffer) (length : ℕ) : Option Greeting :=
  if length < 2 then some .invalid
  else do
    let version ← b.byte? 0
    if version ≠ socksVersion then some .invalid
    else do
      let nmethods ← b.byte? 1
      if length < 2 + nmethods.toNat then some .incomplete
      else do
        let methods ← b.read? 2 nmethods.toNat
        some (.methods (methods.any (· == authUserpass)))

/-- `parseLogin` with checked reads. -/
def parseLogin? (b : Buffer) (length : ℕ) : Option Login :=
  if length < 2 then some .invalid
  else do
    let version ← b.byte? 0
    if version ≠ 0x01 then some .invalid
    else do
      let ulen ← b.byte? 1
      if length < 2 + ulen.toNat + 1 then some .incomplete
      else do
        let username ← b.read? 2 ulen.toNat
        let plen ← b.byte? (2 + ulen.toNat)
        if length < 2 + ulen.toNat + 1 + plen.toNat then some .incomplete
        else do
          let password ← b.read? (2 + ulen.toNat + 1) plen.toNat
          some (.credentials username password)

/-- `parseRequest` with checked reads. -/
def parseRequest? (v6Text : List UInt8 → AsciiText) (b : Buffer) (length : ℕ) :
    Option ConnectRequest :=
  if length < 4 then some .invalid
  else do
    let version ← b.byte? 0
    if version ≠ socksVersion then some .invalid
    else do
      let command ← b.byte? 1
      if command ≠ cmdConnect then some .unsupportedCommand
      else do
        let atyp ← b.byte? 3
        if atyp = atypIpv4 then
          if length < 10 then some .incomplete
          else do
            let b0 ← b.byte? 4
            let b1 ← b.byte? 5
            let b2 ← b.byte? 6
            let b3 ← b.byte? 7
            let high ← b.byte? 8
            let low ← b.byte? 9
            some (.target (ipv4Text b0 b1 b2 b3).bytes (portOfBytes high low))
        else if atyp = atypDomain then do
          let domainLen ← b.byte? 4
          if length < 5 + domainLen.toNat + 2 then some .incomplete
          else do
            let host ← b.read? 5 domainLen.toNat
            let high ← b.byte? (5 + domainLen.toNat)
            let low ← b.byte? (5 + domainLen.toNat + 1)
            some (.target host (portOfBytes high low))
        else if atyp = atypIpv6 then
          if length < 22 then some .incomplete
          else do
            let bytes ← b.read? 4 16
            let high ← b.byte? 20
            let low ← b.byte? 21
            some (.target (v6Text bytes).bytes (portOfBytes high low))
        else some .unknownAddressType

/-! ## What a decoder should do -/

/-- A parser of the session, with checked reads too, and the messages it is for. -/
structure Decoder (μ ν ρ : Type) where
  parse : Buffer → ℕ → ρ
  parse? : Buffer → ℕ → Option ρ
  encode : μ → ByteString
  /-- What a message says. -/
  value : μ → ν
  /-- The result of a parser that has decoded a message. -/
  decoded : ν → ρ

namespace Decoder

variable {μ ν ρ : Type}

structure Exact (d : Decoder μ ν ρ) : Prop where
  /-- What lies behind the bytes of the last read does not matter. -/
  fresh : ∀ {b b' : Buffer} {n : ℕ}, (∀ i < n, b.byte i = b'.byte i) → d.parse b n = d.parse b' n
  /-- Every index is inside the buffer. -/
  inside : ∀ b n, d.parse? b n = some (d.parse b n)
  /-- What is decoded is what the bytes of the last read begin with. -/
  exact : ∀ b n v, d.parse b n = d.decoded v ↔
    ∃ m rest, b.read 0 n = d.encode m ++ rest ∧ d.value m = v
  /-- A message that arrives in one read is decoded. -/
  roundTrip : ∀ (b : Buffer) m,
    d.parse (b.store (d.encode m)) (d.encode m).length = d.decoded (d.value m)

/-- A message that fits into the buffer and is decoded wherever it stands makes the round trip. -/
theorem roundTrip_of_exact {d : Decoder μ ν ρ} {b : Buffer} {m : μ}
    (hfits : (d.encode m).length ≤ 8192)
    (hexact : ∀ b n v, d.parse b n = d.decoded v ↔
      ∃ m rest, b.read 0 n = d.encode m ++ rest ∧ d.value m = v) :
    d.parse (b.store (d.encode m)) (d.encode m).length = d.decoded (d.value m) := by
  rw [hexact]
  refine ⟨m, [], ?_, rfl⟩
  rw [b.read_store_self hfits, List.append_nil]

end Decoder

/-- `handle_socks5_handshake`. -/
def offers : Decoder MethodOffer Bool Greeting where
  parse := parseGreeting
  parse? := parseGreeting?
  encode := MethodOffer.encode
  value m := m.methods.any (· == authUserpass)
  decoded := .methods

/-- The handler of `do_auth`. -/
def logins : Decoder LoginMessage (ByteString × ByteString) Login where
  parse := parseLogin
  parse? := parseLogin?
  encode := LoginMessage.encode
  value m := (m.username, m.password)
  decoded v := .credentials v.1 v.2

/-- The handler of `do_request`, for requests of some kind. -/
def requests (Kind : RequestMessage → Prop) (v6Text : List UInt8 → AsciiText) :
    Decoder { m : RequestMessage // Kind m } (ByteString × UInt16) ConnectRequest where
  parse := parseRequest v6Text
  parse? := parseRequest? v6Text
  encode m := m.val.encode
  value m := (m.val.address.host v6Text, m.val.port)
  decoded v := .target v.1 v.2

/-! ## The checks find nothing -/

theorem parseGreeting?_eq (b : Buffer) (n : ℕ) : parseGreeting? b n = some (parseGreeting b n) := by
  have hlt := (b.byte 1).toNat_lt
  rw [parseGreeting?, parseGreeting, Buffer.byte?_eq (by omega), Buffer.byte?_eq (by omega)]
  by_cases hshort : n < 2
  · rw [if_pos hshort, if_pos (.inl hshort)]
  rw [if_neg hshort]
  simp only [Option.bind_eq_bind, Option.bind_some, hshort, false_or]
  split
  · rfl
  split
  · rfl
  · rw [Buffer.read?_eq (by omega)]
    rfl

theorem parseLogin?_eq (b : Buffer) (n : ℕ) : parseLogin? b n = some (parseLogin b n) := by
  have hulen := (b.byte 1).toNat_lt
  have hplen := (b.byte (2 + (b.byte 1).toNat)).toNat_lt
  rw [parseLogin?, parseLogin, Buffer.byte?_eq (by omega), Buffer.byte?_eq (by omega)]
  by_cases hshort : n < 2
  · rw [if_pos hshort, if_pos (.inl hshort)]
  rw [if_neg hshort]
  simp only [Option.bind_eq_bind, Option.bind_some, hshort, false_or]
  split
  · rfl
  split
  · rfl
  rw [Buffer.read?_eq (by omega), Buffer.byte?_eq (by omega)]
  simp only [Option.bind_some]
  split
  · rfl
  · rw [Buffer.read?_eq (by omega)]
    rfl

theorem parseRequest?_eq (v6Text : List UInt8 → AsciiText) (b : Buffer) (n : ℕ) :
    parseRequest? v6Text b n = some (parseRequest v6Text b n) := by
  have hlen := (b.byte 4).toNat_lt
  have hbyte : ∀ i, i ≤ 300 → b.byte? i = some (b.byte i) := fun i hi ↦ Buffer.byte?_eq (by omega)
  rw [parseRequest?, parseRequest]
  by_cases hshort : n < 4
  · rw [if_pos hshort, if_pos (.inl hshort)]
  rw [if_neg hshort]
  simp only [hbyte, Nat.reduceLeDiff, Option.bind_eq_bind, Option.bind_some, hshort, false_or]
  split
  · rfl
  split
  · rfl
  split
  · split
    · rfl
    · rfl
  split
  · split
    · rfl
    · rw [Buffer.read?_eq (by omega), hbyte _ (by omega), hbyte _ (by omega)]
      rfl
  split
  · split
    · rfl
    · rw [Buffer.read?_eq (by omega)]
      rfl
  · rfl

/-! ## The three decoders -/

theorem offers_exact : offers.Exact where
  fresh := parseGreeting_fresh
  inside := parseGreeting?_eq
  exact := parseGreeting_eq_methods_iff
  roundTrip b m := by
    refine Decoder.roundTrip_of_exact ?_ parseGreeting_eq_methods_iff
    have hfits := m.fits
    simp only [offers, MethodOffer.encode, List.length_cons]
    omega

theorem logins_exact : logins.Exact where
  fresh := parseLogin_fresh
  inside := parseLogin?_eq
  exact b n v := parseLogin_eq_credentials_iff b n v.1 v.2
  roundTrip b m := by
    refine Decoder.roundTrip_of_exact ?_ fun b n v ↦ parseLogin_eq_credentials_iff b n v.1 v.2
    have hu := m.username_fits
    have hp := m.password_fits
    simp only [logins, LoginMessage.encode, List.length_cons, List.length_append]
    omega

theorem length_encode_address (address : TargetAddress) : address.encode.length ≤ 257 := by
  cases address with
  | ipv4 b0 b1 b2 b3 => exact Nat.le_of_ble_eq_true rfl
  | domain name hname =>
    simp only [TargetAddress.encode, List.length_cons]
    omega
  | ipv6 bytes hbytes =>
    simp only [TargetAddress.encode, List.length_cons]
    omega

theorem connects_exact (v6Text : List UInt8 → AsciiText) :
    (requests (fun m ↦ m.command = cmdConnect) v6Text).Exact where
  fresh := parseRequest_fresh v6Text
  inside := parseRequest?_eq v6Text
  exact b n v := parseRequest_eq_target_iff_starts v6Text b n v.1 v.2
  roundTrip b m := by
    refine Decoder.roundTrip_of_exact ?_
      fun b n v ↦ parseRequest_eq_target_iff_starts v6Text b n v.1 v.2
    have hle := length_encode_address m.val.address
    simp only [requests, RequestMessage.encode, List.length_cons, List.length_append,
      List.length_nil]
    omega

/-- **The SOCKS5 parsers decode what was sent, and nothing that is left over**: the offer, the login
and a CONNECT request, whatever its reserved byte. -/
theorem socks_messages_exact (v6Text : List UInt8 → AsciiText) :
    offers.Exact ∧ logins.Exact ∧ (requests (fun m ↦ m.command = cmdConnect) v6Text).Exact :=
  ⟨offers_exact, logins_exact, connects_exact v6Text⟩

/-! ## What RFC 1928 says about a request -/

/-- One of the three commands, and zero in the reserved byte. -/
def RequestMessage.IsRfc (m : RequestMessage) : Prop :=
  (m.command = 0x01 ∨ m.command = 0x02 ∨ m.command = 0x03) ∧ m.reserved = 0x00

theorem ascii_loopback : Ascii (ofString "::1") := by decide

def loopbackText (_ : List UInt8) : AsciiText := .lit "::1" ascii_loopback

/-- A BIND request is one of them and is not decoded, and a CONNECT request that has a one in the
reserved byte is none of them and is decoded. -/
theorem rfcRequests_not_exact :
    ((⟨0x02, 0x00, .ipv4 10 0 0 1, 80⟩ : RequestMessage).IsRfc ∧
      parseRequest loopbackText (zeroBuffer.store [0x05, 0x02, 0x00, 0x01, 10, 0, 0, 1, 0, 80]) 10 =
        .unsupportedCommand) ∧
    (parseRequest loopbackText (zeroBuffer.store [0x05, 0x01, 0x01, 0x01, 10, 0, 0, 1, 0, 80]) 10 =
        .target (ofString "10.0.0.1") 80 ∧
      ¬∃ (m : RequestMessage) (rest : ByteString), m.IsRfc ∧
        ([0x05, 0x01, 0x01, 0x01, 10, 0, 0, 1, 0, 80] : ByteString) = m.encode ++ rest) ∧
    ¬(offers.Exact ∧ logins.Exact ∧ (requests RequestMessage.IsRfc loopbackText).Exact) := by
  have hbind : parseRequest loopbackText
      (zeroBuffer.store [0x05, 0x02, 0x00, 0x01, 10, 0, 0, 1, 0, 80]) 10 = .unsupportedCommand := by
    decide +kernel
  have hrfc : (⟨0x02, 0x00, .ipv4 10 0 0 1, 80⟩ : RequestMessage).IsRfc := ⟨.inr (.inl rfl), rfl⟩
  refine ⟨⟨hrfc, hbind⟩, ⟨by decide +kernel, ?_⟩, ?_⟩
  · rintro ⟨m, rest, ⟨-, hreserved⟩, hbytes⟩
    simp only [RequestMessage.encode, List.cons_append, List.cons.injEq] at hbytes
    rw [hreserved] at hbytes
    exact absurd hbytes.2.2.1 (by decide)
  · rintro ⟨-, -, h⟩
    have htrip := h.roundTrip zeroBuffer ⟨_, hrfc⟩
    exact absurd (hbind.symm.trans htrip) (by simp [requests])

end LanProxyGateway
