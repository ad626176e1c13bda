import LanProxyGateway.ProxyCore.SocksMessages

/-!
# Openings that arrive in pieces

A client opens with the head of an HTTP CONNECT, or with three SOCKS5 messages, each of which it
sends when the one before has been answered. TCP keeps the bytes and their order but no messages: a
message may take any number of reads. A `Splitting` is one way of it, and it goes `Unnoticed` when
the handshake gets as far with the same method reply, the same credentials and the same target as
when every message arrives in one read.

A buffer that is read into from its start again and again keeps only the last piece of a message.
What this makes of a message depends on its bytes, so the question is asked about the places where
the messages are cut: `ClientOpening.SparedBy` names the places that no opening suffers from.
-/

open Foundation ByteString

namespace LanProxyGateway

open LanProxy

/-! ## How far a handshake gets -/

inductive Milestone
  | methodReply (method : UInt8)
  | credentials (username password : ByteString)
  | target (host : ByteString) (port : UInt16)
  deriving DecidableEq, Repr

/-- The calls that a client could tell one handshake from another by. -/
def Call.milestone : Call → Option Milestone
  | .sent .client [version, method] =>
    if version = socksVersion then some (.methodReply method) else none
  | .authenticate username password _ => some (.credentials username password)
  | .service _ (.routeDecision host port) => some (.target host port)
  | _ => none

def Session.milestones (s : Session) : List Milestone := s.trace.filterMap Call.milestone

namespace World

/-- Bytes arrive at the `i`-th session, read by read, and it finishes what it writes before the next
read. A read that it does not wait for changes nothing. -/
def arrivals (env : Environment) (i : ℕ) (reads : List Chunk) : List Event :=
  reads.flatMap fun chunk ↦ [.complete i 0 (.received chunk) env, .complete i 0 .written env]

/-- How far the handshake gets, unless it takes the process down. -/
def outcome (w : World) (env : Environment) (i : ℕ) (reads : List Chunk) :
    Option (List Milestone) :=
  (run step w (arrivals env i reads)).toOption.map fun t ↦
    (t.sessions[i]?).elim [] Session.milestones

end World

/-! ## SOCKS5 -/

/-- Three messages as the documents have them, and passwords of no bytes besides. -/
structure SocksDialogue where
  offer : MethodOffer
  login : LoginMessage
  request : RequestMessage
  offered : offer.methods ≠ []
  named : login.username ≠ []
  connects : request.command = cmdConnect

def TargetAddress.type : TargetAddress → UInt8
  | .ipv4 _ _ _ _ => atypIpv4
  | .domain _ _ => atypDomain
  | .ipv6 _ _ => atypIpv6

/-- Where the parts of the messages begin and end. -/
structure Layout where
  methods : ℕ
  username : ℕ
  password : ℕ
  addressType : UInt8
  address : ℕ
  deriving DecidableEq, Repr

def SocksDialogue.layout (o : SocksDialogue) : Layout where
  methods := o.offer.methods.length
  username := o.login.username.length
  password := o.login.password.length
  addressType := o.request.address.type
  address := o.request.address.encode.length

/-! ## HTTP CONNECT -/

/-- `CONNECT host:port` and the lines in front of the credentials. -/
def connectFront (host port lines : ByteString) : ByteString :=
  ofString "CONNECT " ++ (host ++ ofString ":" ++ port) ++ ofString " " ++ lines

/-- A head with Basic credentials that one read can hold. What `lines` begins with is the version of
the protocol, and what `rest` ends with is the empty line. -/
structure ConnectHead where
  host : ByteString
  port : ByteString
  lines : ByteString
  username : ByteString
  password : ByteString
  rest : ByteString
  host_ascii : Ascii host
  host_word : 32 ∉ host
  port_written : WritesPort port
  username_word : 58 ∉ username
  /-- The credentials are the first ones. -/
  first : ¬basicHeader <:+: connectFront host port lines ++ basicHeader.dropLast
  fits : (connectFront host port lines ++ basicHeader ++
    Base64.encode (username ++ ofString ":" ++ password) ++ crlf ++ rest).length ≤ 8192

namespace ConnectHead

variable (h : ConnectHead)

def front : ByteString := connectFront h.host h.port h.lines

def token : ByteString := Base64.encode (h.username ++ ofString ":" ++ h.password)

/-- The head to the end of the line of the credentials. -/
def upToCredentials : ByteString := h.front ++ basicHeader ++ h.token ++ crlf

def encode : ByteString := h.upToCredentials ++ h.rest

end ConnectHead

/-! ## Openings -/

inductive ClientOpening
  | socks (o : SocksDialogue)
  | http (h : ConnectHead)

namespace ClientOpening

/-- What the client sends, message by message. -/
def messages : ClientOpening → List ByteString
  | .socks o => [o.offer.encode, o.login.encode, o.request.encode]
  | .http h => [h.encode]

/-- Openings that can be cut at the same places: of two SOCKS5 openings with one layout the bytes
may differ. -/
def Resembles : ClientOpening → ClientOpening → Prop
  | .socks o, .socks o' => o'.layout = o.layout
  | .http h, .http h' => h' = h
  | _, _ => False

end ClientOpening

/-- A way for messages to arrive: the reads that make up each of them. -/
structure Splitting (messages : List ByteString) where
  pieces : List (List Chunk)
  joined : pieces.map (fun chunks ↦ (chunks.map Chunk.bytes).flatten) = messages

namespace Splitting

variable {messages : List ByteString} (cut : Splitting messages)

def reads : List Chunk := cut.pieces.flatten

/-- Where the messages are cut, as the lengths of the reads. -/
def places : List (List ℕ) := cut.pieces.map fun chunks ↦ chunks.map fun c ↦ c.bytes.length

end Splitting

/-! ### In one read each -/

theorem MethodOffer.length_encode_le (m : MethodOffer) : m.encode.length ≤ 8192 := by
  have hfits := m.fits
  simp only [MethodOffer.encode, List.length_cons]
  omega

theorem LoginMessage.length_encode_le (m : LoginMessage) : m.encode.length ≤ 8192 := by
  have hu := m.username_fits
  have hp := m.password_fits
  simp only [LoginMessage.encode, List.length_cons, List.length_append]
  omega

theorem RequestMessage.length_encode_le (m : RequestMessage) : m.encode.length ≤ 8192 := by
  have hle := length_encode_address m.address
  simp only [RequestMessage.encode, List.length_cons, List.length_append, List.length_nil]
  omega

theorem ConnectHead.encode_ne_nil (h : ConnectHead) : h.encode ≠ [] := by
  have hverb : ofString "CONNECT " ≠ [] := by decide
  simp only [ConnectHead.encode, ConnectHead.upToCredentials, ConnectHead.front, connectFront,
    List.append_assoc]
  exact List.append_ne_nil_of_left_ne_nil hverb _

def MethodOffer.chunk (m : MethodOffer) : Chunk :=
  ⟨m.encode, List.cons_ne_nil _ _, m.length_encode_le⟩

def LoginMessage.chunk (m : LoginMessage) : Chunk :=
  ⟨m.encode, List.cons_ne_nil _ _, m.length_encode_le⟩

def RequestMessage.chunk (m : RequestMessage) : Chunk :=
  ⟨m.encode, List.cons_ne_nil _ _, m.length_encode_le⟩

def ConnectHead.chunk (h : ConnectHead) : Chunk := ⟨h.encode, h.encode_ne_nil, h.fits⟩

/-- Every message arrives in one read. -/
def ClientOpening.unsplit : (o : ClientOpening) → Splitting o.messages
  | .socks o => ⟨[[o.offer.chunk], [o.login.chunk], [o.request.chunk]], by
      simp only [List.map_cons, List.map_nil, List.flatten_cons, List.flatten_nil, List.append_nil]
      rfl⟩
  | .http h => ⟨[[h.chunk]], by
      simp only [List.map_cons, List.map_nil, List.flatten_cons, List.flatten_nil, List.append_nil]
      rfl⟩

namespace Splitting

/-- A client that is served by any gateway gets as far as when its messages arrive whole. -/
def Unnoticed {o : ClientOpening} (cut : Splitting o.messages) : Prop :=
  ∀ (w t : World) (env₀ env : Environment) (a : Arrival), w.step (.start env₀ a) = .ok t →
    t.outcome env w.sessions.length cut.reads = t.outcome env w.sessions.length o.unsplit.reads

end Splitting

/-- No SOCKS5 message is cut, and the head of an HTTP CONNECT not before the end of the line of its
credentials. The code takes an empty name with an empty password for no credentials, and then it
does not matter. -/
def ClientOpening.SparedBy : ClientOpening → List (List ℕ) → Prop
  | .socks _, places => ∀ lengths ∈ places, lengths.length = 1
  | .http h, places => (h.username = [] ∧ h.password = []) ∨
    ∃ n ns, places.flatten = n :: ns ∧ h.upToCredentials.length ≤ n

end LanProxyGateway
