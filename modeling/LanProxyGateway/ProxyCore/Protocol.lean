import LanProxyGateway.Foundation.Base64
import LanProxyGateway.Foundation.Text

/-!
# What a session reads

The fixed-size buffer a session reads into, and the parsers that its completion handlers apply to
the buffer and the length of the last read: the SOCKS5 greeting, the RFC 1929 login, the SOCKS5
request, and the head of an HTTP CONNECT.

The buffer keeps its old content behind the bytes of the last read, and the parsers index it without
asking how much of it is new; whether they ever look behind the read is a matter of their length
tests. An index outside the buffer yields zero here.
-/

open Foundation ByteString

namespace LanProxyGateway

namespace LanProxy

def socksVersion : UInt8 := 0x05
def authNone : UInt8 := 0x00
def authUserpass : UInt8 := 0x02
def authNoAcceptable : UInt8 := 0xFF
def cmdConnect : UInt8 := 0x01
def atypIpv4 : UInt8 := 0x01
def atypDomain : UInt8 := 0x03
def atypIpv6 : UInt8 := 0x04

end LanProxy

open LanProxy

/-! ## Buffers and reads -/

/-- `std::array<uint8_t, 8192>`. -/
structure Buffer where
  cells : Fin 8192 → UInt8

namespace Buffer

/-- `buffer[i]`. -/
def byte (b : Buffer) (i : ℕ) : UInt8 := if h : i < 8192 then b.cells ⟨i, h⟩ else 0

/-- The `n` bytes from index `start` on. -/
def read (b : Buffer) (start n : ℕ) : ByteString := (List.range n).map fun i ↦ b.byte (start + i)

/-- A read stores its bytes at the front and leaves the rest as it was. -/
def store (b : Buffer) (s : ByteString) : Buffer := ⟨fun i ↦ s.getD i (b.cells i)⟩

theorem length_read (b : Buffer) (start n : ℕ) : (b.read start n).length = n := by
  rw [read, List.length_map, List.length_range]

theorem byte_store (b : Buffer) {s : ByteString} {i : ℕ} (hi : i < s.length)
    (hs : s.length ≤ 8192) : (b.store s).byte i = s[i] := by
  have h : i < 8192 := by omega
  rw [byte, dif_pos h]
  show s.getD i _ = s[i]
  rw [List.getD_eq_getElem?_getD, List.getElem?_eq_getElem hi, Option.getD_some]

/-- Inside the bytes of the last read the buffer is those bytes. -/
theorem read_store (b : Buffer) {s : ByteString} {start n : ℕ} (hn : start + n ≤ s.length)
    (hs : s.length ≤ 8192) : (b.store s).read start n = (s.drop start).take n := by
  refine List.ext_getElem ?_ fun i hi hi' ↦ ?_
  · rw [length_read, List.length_take, List.length_drop]
    omega
  · rw [length_read] at hi
    have hlt : start + i < s.length := by omega
    simp only [read, List.getElem_map, List.getElem_range, List.getElem_take, List.getElem_drop]
    exact byte_store b hlt hs

/-- The bytes of the last read themselves. -/
theorem read_store_self (b : Buffer) {s : ByteString} (hs : s.length ≤ 8192) :
    (b.store s).read 0 s.length = s := by
  rw [read_store b (by rw [Nat.zero_add]) hs, List.drop_zero, List.take_length]

/-- Reading some bytes and then some more. -/
theorem read_add (b : Buffer) (start m n : ℕ) :
    b.read start (m + n) = b.read start m ++ b.read (start + m) n := by
  rw [read, List.range_add, List.map_append, List.map_map]
  simp only [read, Function.comp_def, Nat.add_assoc]

theorem read_one (b : Buffer) (start : ℕ) : b.read start 1 = [b.byte start] := rfl

theorem read_succ (b : Buffer) (start n : ℕ) :
    b.read start (n + 1) = b.byte start :: b.read (start + 1) n := by
  rw [Nat.add_comm n, read_add, read_one, List.singleton_append]

/-- What is read in two parts. -/
theorem read_eq_append_iff {b : Buffer} {start n : ℕ} {x y : ByteString} :
    b.read start n = x ++ y ↔
      n = x.length + y.length ∧ b.read start x.length = x ∧
        b.read (start + x.length) y.length = y := by
  constructor
  · intro h
    have hn : n = x.length + y.length := by rw [← b.length_read start n, h, List.length_append]
    rw [hn, read_add] at h
    obtain ⟨hx, hy⟩ := List.append_inj h (b.length_read _ _)
    exact ⟨hn, hx, hy⟩
  · rintro ⟨rfl, hx, hy⟩
    rw [read_add, hx, hy]

theorem read_eq_cons_iff {b : Buffer} {start n : ℕ} {c : UInt8} {s : ByteString} :
    b.read start n = c :: s ↔
      n = s.length + 1 ∧ b.byte start = c ∧ b.read (start + 1) s.length = s := by
  rw [← List.singleton_append, read_eq_append_iff, List.length_singleton, read_one,
    List.singleton_inj, Nat.add_comm 1]

/-- What is read depends on the cells that are read. -/
theorem read_congr {b b' : Buffer} {start n : ℕ}
    (h : ∀ i, start ≤ i → i < start + n → b.byte i = b'.byte i) :
    b.read start n = b'.read start n := by
  apply List.map_congr_left
  intro i hi
  have hlt := List.mem_range.mp hi
  exact h (start + i) (Nat.le_add_right start i) (by omega)

end Buffer

/-- The bytes of one successful `async_read_some`. -/
structure Chunk where
  bytes : ByteString
  nonempty : bytes ≠ []
  fits : bytes.length ≤ 8192
  deriving DecidableEq

/-! ## Addresses -/

inductive IpAddress
  | v4 (b0 b1 b2 b3 : UInt8)
  | v6 (bytes : List UInt8)
  deriving DecidableEq, Repr

def IpAddress.isV4 : IpAddress → Bool
  | .v4 .. => true
  | .v6 _ => false

structure Endpoint where
  address : IpAddress
  port : UInt16
  deriving DecidableEq, Repr

/-- `std::to_string` of a port. -/
def portText (port : UInt16) : AsciiText := ⟨toDecimal port.toNat, ascii_toDecimal _⟩

/-- `address_v4::to_string`. -/
def ipv4Text (b0 b1 b2 b3 : UInt8) : AsciiText where
  bytes := toDecimal b0.toNat ++ ofString "." ++ toDecimal b1.toNat ++ ofString "."
    ++ toDecimal b2.toNat ++ ofString "." ++ toDecimal b3.toNat
  ascii := by
    have hdot : Ascii (ofString ".") := by decide
    exact ((((((ascii_toDecimal _).append hdot).append (ascii_toDecimal _)).append hdot).append
      (ascii_toDecimal _)).append hdot).append (ascii_toDecimal _)

/-- `address::to_string`, with the text of an IPv6 address as `inet_ntop` gives it. -/
def IpAddress.text (v6Text : List UInt8 → AsciiText) : IpAddress → AsciiText
  | .v4 b0 b1 b2 b3 => ipv4Text b0 b1 b2 b3
  | .v6 bytes => v6Text bytes

/-- A big-endian port. -/
def portOfBytes (high low : UInt8) : UInt16 := high.toUInt16 <<< 8 ||| low.toUInt16

/-! ## The greeting -/

inductive Greeting
  | invalid
  | incomplete
  | methods (supportAuth : Bool)
  deriving DecidableEq, Repr

/-- The parser in `handle_socks5_handshake`. -/
def parseGreeting (b : Buffer) (length : ℕ) : Greeting :=
  if length < 2 ∨ b.byte 0 ≠ socksVersion then .invalid
  else
    let nmethods := (b.byte 1).toNat
    if length < 2 + nmethods then .incomplete
    else .methods ((b.read 2 nmethods).any (· == authUserpass))

/-! ## The login -/

inductive Login
  | invalid
  | incomplete
  | credentials (username password : ByteString)
  deriving DecidableEq, Repr

/-- The parser in `do_auth`. -/
def parseLogin (b : Buffer) (length : ℕ) : Login :=
  if length < 2 ∨ b.byte 0 ≠ 0x01 then .invalid
  else
    let ulen := (b.byte 1).toNat
    if length < 2 + ulen + 1 then .incomplete
    else
      let plen := (b.byte (2 + ulen)).toNat
      if length < 2 + ulen + 1 + plen then .incomplete
      else .credentials (b.read 2 ulen) (b.read (2 + ulen + 1) plen)

/-! ## The request -/

inductive ConnectRequest
  | invalid
  | unsupportedCommand
  | incomplete
  | unknownAddressType
  | target (host : ByteString) (port : UInt16)
  deriving DecidableEq, Repr

/-- The parser in `do_request`. -/
def parseRequest (v6Text : List UInt8 → AsciiText) (b : Buffer) (length : ℕ) : ConnectRequest :=
  if length < 4 ∨ b.byte 0 ≠ socksVersion then .invalid
  else if b.byte 1 ≠ cmdConnect then .unsupportedCommand
  else if b.byte 3 = atypIpv4 then
    if length < 10 then .incomplete
    else .target (ipv4Text (b.byte 4) (b.byte 5) (b.byte 6) (b.byte 7)).bytes
      (portOfBytes (b.byte 8) (b.byte 9))
  else if b.byte 3 = atypDomain then
    -- with a read of four bytes this length is left over from an earlier one
    let domainLen := (b.byte 4).toNat
    if length < 5 + domainLen + 2 then .incomplete
    else .target (b.read 5 domainLen)
      (portOfBytes (b.byte (5 + domainLen)) (b.byte (5 + domainLen + 1)))
  else if b.byte 3 = atypIpv6 then
    if length < 22 then .incomplete
    else .target (v6Text (b.read 4 16)).bytes (portOfBytes (b.byte 20) (b.byte 21))
  else .unknownAddressType

/-! ## HTTP CONNECT -/

/-- `session::is_http_connect`. -/
def isHttpConnect (b : Buffer) (length : ℕ) : Bool :=
  8 ≤ length && b.read 0 8 == ofString "CONNECT "

/-- The authority between the first two blanks, split at its last colon. -/
def parseAuthority (sv : ByteString) : Option (ByteString × ByteString) := do
  let space ← find sv (ofString " ") 0
  let hostStart := space + 1
  let hostEnd ← find sv (ofString " ") hostStart
  let hostPort := substr sv hostStart (hostEnd - hostStart)
  let colonPos ← rfind 58 hostPort
  some (hostPort.take colonPos, hostPort.drop (colonPos + 1))

/-- The inline Base64 decoder: it stops at the first character outside the alphabet. -/
def decodeCredentials (credB64 : ByteString) : ByteString :=
  Base64.decodeDigits {} ((credB64.takeWhile fun c ↦ (Base64.digit? c).isSome).filterMap
    Base64.digit?)

/-- User name and password from the `Proxy-Authorization` header, both empty where there is none. -/
def parseCredentials (sv : ByteString) : ByteString × ByteString :=
  match find sv (ofString "Proxy-Authorization: Basic ") 0 with
  | none => ([], [])
  | some authHeaderPos =>
    let credStart := authHeaderPos + 27
    match find sv (ofString "\r\n") credStart with
    | none => ([], [])
    | some lineEnd =>
      let decoded := decodeCredentials (substr sv credStart (lineEnd - credStart))
      match find decoded (ofString ":") 0 with
      | none => ([], [])
      | some colon => (decoded.take colon, decoded.drop (colon + 1))

/-- `static_cast<uint16_t>(std::stoi(port_str))`. -/
def parsePort (portStr : ByteString) : Except CxxException UInt16 :=
  (stoi portStr).map UInt16.ofInt

end LanProxyGateway
