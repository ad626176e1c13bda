import LanProxyGateway.V2raynManager.LinkCodec

/-!
# Share links there and back

A link that `encode` writes for a valid node is one that `decode` takes, and the node that comes out
agrees with the first one in all that a link carries, with one exception. The hosts of an h2 node
are joined by commas and split at commas, and an empty text stands for no host: a host that contains
a comma comes back as two, and a single empty host is lost. `roundTrips_iff` says that this is all.
-/

open Foundation ByteString

namespace LanProxyGateway

namespace VmLinkCodec

open VmNodeValidator

/-! ## The base64 layer -/

/-- What the library does with the text of a JSON value: it ends with the closing brace, it is
parsed to the value again, and from its base64 form `EVP_DecodeBlock` makes it again, with zero
bytes for the padding. -/
structure WritesAndReads (lib : LinkWriter) (j : Json) : Prop where
  dump_eq : ∃ text, lib.dump j = text ++ [125]
  parse_dump : lib.parse (lib.dump j) = .ok j
  decodeBlock_encode : ∃ n,
    lib.decodeBlock (Base64.encode (lib.dump j)) = some (lib.dump j ++ List.replicate n 0)

/-- Without its padding, an encoding consists of letters, and padding it makes it whole again. -/
theorem base64Encode_spec (s : ByteString) : (∀ c ∈ base64Encode s, c ∈ Base64.alphabet) ∧
    base64Encode s ++ List.replicate ((4 - (base64Encode s).length % 4) % 4) 61 =
      Base64.encode s := by
  obtain ⟨hletters, k, hencode, hlength, hk⟩ := Base64.unpadded_spec s
  have hzero : (0 : UInt8) ∉ Base64.encode s := by
    rw [hencode, List.mem_append, not_or]
    refine ⟨fun h ↦ Base64.not_mem_alphabet.1 (hletters 0 h), fun h ↦ ?_⟩
    exact absurd (List.eq_of_mem_replicate h) (by decide)
  have hbase : base64Encode s = Base64.unpadded s := by
    rw [base64Encode, rdropWhile_of_not_mem hzero, Base64.unpadded]
  have hpadding : (4 - (Base64.unpadded s).length % 4) % 4 = k := by omega
  rw [hbase, hpadding]
  exact ⟨hletters, hencode.symm⟩

/-- A text is decoded again. -/
theorem base64Decode_base64Encode {lib : LinkWriter} {j : Json} (h : WritesAndReads lib j) :
    base64Decode lib.toLinkLibrary (base64Encode (lib.dump j)) = lib.dump j := by
  obtain ⟨n, hdecode⟩ := h.decodeBlock_encode
  rw [base64Decode, (base64Encode_spec _).2, hdecode]
  obtain ⟨text, htext⟩ := h.dump_eq
  apply rdropWhile_append_replicate
  rw [htext]
  exact List.rdropWhile_concat_neg _ _ _ (by decide)

/-- There is nothing to be translated from the alphabet that is safe in a URL. -/
theorem base64UrlsafeDecode_base64Encode {lib : LinkWriter} {j : Json} (h : WritesAndReads lib j) :
    base64UrlsafeDecode lib.toLinkLibrary (base64Encode (lib.dump j)) = lib.dump j := by
  have hsame : ∀ c ∈ base64Encode (lib.dump j),
      (if c = 45 then 43 else if c = 95 then 47 else c) = c := by
    intro c hc
    have halphabet := (base64Encode_spec _).1 c hc
    rw [if_neg, if_neg]
    · rintro rfl
      exact Base64.not_mem_alphabet.2.2.2 halphabet
    · rintro rfl
      exact Base64.not_mem_alphabet.2.1 halphabet
  rw [base64UrlsafeDecode, List.map_congr_left hsame, List.map_id', base64Decode_base64Encode h]

/-- Decoding a link reads the node from the object that the link was written for. -/
theorem decode_link {lib : LinkWriter} {j : Json} (h : WritesAndReads lib j) :
    decode lib.toLinkLibrary (ofString "vmess://" ++ base64Encode (lib.dump j)) =
      (nodeOfJson j).map .ok := by
  have hne : lib.dump j ≠ [] := by
    obtain ⟨text, htext⟩ := h.dump_eq
    rw [htext]
    exact List.concat_ne_nil _ _
  have hprefix : startsWith (ofString "vmess://" ++ base64Encode (lib.dump j))
      (ofString "vmess://") := by
    rw [startsWith, List.isPrefixOf_iff_prefix]
    exact List.prefix_append _ _
  have hdrop : (ofString "vmess://" ++ base64Encode (lib.dump j)).drop 8 =
      base64Encode (lib.dump j) := List.drop_left' (by decide)
  rw [decode, hprefix, Bool.not_true, if_neg Bool.false_ne_true, hdrop]
  simp only [base64UrlsafeDecode_base64Encode h, if_neg hne, h.parse_dump]

/-! ## The object that a link carries -/

/-- All strings of a node are UTF-8. -/
structure Readable (node : VmNode) : Prop where
  remark : Utf8 node.remark
  address : Utf8 node.address
  userId : Utf8 node.userId
  security : Utf8 node.security
  network : Utf8 node.network
  tcpHeaderType : Utf8 node.tcpCfg.headerType
  wsPath : Utf8 node.wsCfg.path
  wsHost : Utf8 node.wsCfg.host
  h2Path : Utf8 node.h2Cfg.path
  h2Host : ∀ host ∈ node.h2Cfg.host, Utf8 host
  quicSecurity : Utf8 node.quicCfg.security
  quicKey : Utf8 node.quicCfg.key
  quicHeaderType : Utf8 node.quicCfg.headerType
  kcpHeaderType : Utf8 node.kcpCfg.headerType
  serverName : Utf8 node.tlsCfg.serverName

theorem utf8_intercalate {hosts : List ByteString} (h : ∀ host ∈ hosts, Utf8 host) :
    Utf8 (List.intercalate [44] hosts) := by
  induction hosts with
  | nil => exact utf8_nil
  | cons host hosts ih =>
    rw [List.forall_mem_cons] at h
    rcases hosts with _ | ⟨next, hosts⟩
    · rw [List.intercalate_singleton]
      exact h.1
    · rw [List.intercalate_cons_cons]
      exact (h.1.append (by decide)).append (ih h.2)

theorem isSerializable_linkFields {headerType host path : ByteString} (htype : Utf8 headerType)
    (hhost : Utf8 host) (hpath : Utf8 path) :
    ∀ f ∈ linkFields headerType host path, f.2.isSerializable := by
  simp only [linkFields, List.forall_mem_cons, Json.isSerializable_string, List.not_mem_nil,
    false_imp_iff, implies_true, and_true]
  exact ⟨htype, hhost, hpath⟩

theorem isSerializable_transportFields {node : VmNode} (h : Readable node) :
    ∀ f ∈ transportFields node, f.2.isSerializable := by
  rw [transportFields]
  split_ifs
  · exact isSerializable_linkFields h.tcpHeaderType utf8_nil utf8_nil
  · exact isSerializable_linkFields (utf8_ofString _) h.wsHost h.wsPath
  · exact isSerializable_linkFields (utf8_ofString _) (utf8_intercalate h.h2Host) h.h2Path
  · exact isSerializable_linkFields h.quicHeaderType h.quicSecurity h.quicKey
  · exact isSerializable_linkFields h.kcpHeaderType utf8_nil utf8_nil
  · exact fun f hf ↦ absurd hf List.not_mem_nil

/-- Writing the object out does not throw. -/
theorem isSerializable_linkJson {node : VmNode} (h : Readable node) :
    (linkJson node).isSerializable := by
  apply Json.isSerializable_ofFields
  rw [List.forall_mem_append, List.forall_mem_append]
  refine ⟨⟨?_, isSerializable_transportFields h⟩, ?_⟩
  · simp only [List.forall_mem_cons, Json.isSerializable_string, List.not_mem_nil, false_imp_iff,
      implies_true, and_true]
    refine ⟨utf8_ofString _, h.remark, h.address, utf8_of_ascii (ascii_toDecimal _), h.userId,
      utf8_of_ascii (ascii_intToDecimal _), h.security, h.network, ?_⟩
    split
    · exact utf8_ofString _
    · exact utf8_nil
  · rw [List.forall_mem_singleton, Json.isSerializable_string]
    split
    · exact h.serverName
    · exact utf8_nil

/-- What comes out of a link besides the settings of the transport. -/
def carried (node : VmNode) : VmNode where
  remark := node.remark
  address := node.address
  port := node.port
  userId := node.userId
  alterId := node.alterId
  security := node.security
  network := node.network
  tls := node.tls
  tlsCfg := { serverName := if node.tls = ofString "tls" then node.tlsCfg.serverName else [] }

/-- Only the settings of the transport are touched. -/
theorem exists_withTransport_eq (node : VmNode) (headerType host path : ByteString) :
    ∃ tcp ws h2 quic kcp, withTransport node headerType host path = { node with
      tcpCfg := tcp, wsCfg := ws, h2Cfg := h2, quicCfg := quic, kcpCfg := kcp } := by
  rw [withTransport]
  split_ifs
  all_goals exact ⟨_, _, _, _, _, rfl⟩

theorem withTransport_tls (node : VmNode) (headerType host path : ByteString) :
    (withTransport node headerType host path).tls = node.tls := by
  obtain ⟨_, _, _, _, _, heq⟩ := exists_withTransport_eq node headerType host path
  rw [heq]

theorem withTransport_tlsCfg (node : VmNode) (headerType host path : ByteString) :
    (withTransport node headerType host path).tlsCfg = node.tlsCfg := by
  obtain ⟨_, _, _, _, _, heq⟩ := exists_withTransport_eq node headerType host path
  rw [heq]

theorem withTransport_with_tlsCfg (node : VmNode) (headerType host path : ByteString)
    (cfg : VmNode.TlsConfig) :
    { withTransport node headerType host path with tlsCfg := cfg } =
      withTransport { node with tlsCfg := cfg } headerType host path := by
  simp only [withTransport]
  split_ifs <;> rfl

/-- The members of the object are read back, whatever the transport puts into its three. -/
theorem nodeOfJson_linkJson {node : VmNode} {isV5Core : Bool} (h : Valid node isV5Core)
    {headerType host path : ByteString}
    (hfields : transportFields node = linkFields headerType host path) :
    nodeOfJson (linkJson node) = .ok (withTransport (carried node) headerType host path) := by
  have hport : linkPort (linkJson node) = node.port := by
    have hlt := node.port.toNat_lt
    simp only [linkPort, linkJson, hfields, linkFields, List.cons_append, List.nil_append,
      Json.member?_ofFields_cons, String.reduceEq, if_false, if_true, Option.elim_some, numberOr,
      Json.isNumber, Bool.false_eq_true, Json.getString_string]
    rw [stoi_toDecimal (by omega)]
    exact ofInt_toNat_port node.port
  have haid : linkAlterId (linkJson node) = node.alterId := by
    obtain ⟨hlo, hhi⟩ := h.alterId_bounds
    obtain ⟨n, hn⟩ := Int.eq_ofNat_of_zero_le hlo
    simp only [linkAlterId, linkJson, hfields, linkFields, List.cons_append, List.nil_append,
      Json.member?_ofFields_cons, String.reduceEq, if_false, if_true, Option.elim_some, numberOr,
      Json.isNumber, Bool.false_eq_true, Json.getString_string]
    rw [hn, intToDecimal_natCast, stoi_toDecimal (by omega)]
    rfl
  rw [nodeOfJson, hport, haid]
  simp only [stringValue, linkJson, hfields, linkFields, List.cons_append, List.nil_append,
    Json.value_ofFields, Json.member?_ofFields_cons, String.reduceEq, if_false, if_true,
    Option.elim_some, Json.getString_string, Json.orThrow_some, Json.ok_bind]
  have htls : (if (if node.tls = ofString "tls" then ofString "tls" else []) = []
      then ofString "none"
      else if node.tls = ofString "tls" then ofString "tls" else []) = node.tls := by
    rcases h.tls_eq with htls | htls
    · rw [htls]
      decide
    · rw [htls]
      decide
  rw [htls, carried]
  generalize hsni : (if node.tls = ofString "tls" then node.tlsCfg.serverName else []) = sni
  split
  · refine congrArg Except.ok ((withTransport_with_tlsCfg _ _ _ _ _).trans ?_)
    rw [withTransport_tlsCfg]
  · rename_i hname
    rw [withTransport_tls, not_and_not_right] at hname
    have hnil : sni = [] := by
      by_cases htls : node.tls = ofString "tls"
      · exact hname htls
      · rw [← hsni, if_neg htls]
    rw [hnil]

/-! ## The hosts of an h2 node -/

/-- The hosts that come out of a link. -/
def arrivedHosts (hosts : List ByteString) : List ByteString :=
  if List.intercalate [44] hosts = [] then [] else (List.intercalate [44] hosts).splitOn 44

/-- What a split yields does not contain the separator. -/
theorem not_mem_of_mem_splitOn {c : UInt8} {s piece : ByteString} (h : piece ∈ s.splitOn c) :
    c ∉ piece := by
  induction s generalizing piece with
  | nil =>
    rw [List.splitOn_nil, List.mem_singleton] at h
    rw [h]
    exact List.not_mem_nil
  | cons b s ih =>
    rw [List.splitOn_cons_eq_if_modifyHead] at h
    split at h
    · rcases List.mem_cons.mp h with rfl | h
      · exact List.not_mem_nil
      · exact ih h
    · rename_i hb
      rcases hs : s.splitOn c with _ | ⟨first, rest⟩
      · exact absurd hs (List.splitOn_ne_nil c s)
      · rw [hs, List.modifyHead_cons] at h
        rw [hs] at ih
        rcases List.mem_cons.mp h with rfl | h
        · rw [List.mem_cons, not_or]
          refine ⟨fun hc ↦ hb ?_, ih List.mem_cons_self⟩
          rw [hc]
          exact beq_self_eq_true b
        · exact ih (List.mem_cons_of_mem _ h)

theorem intercalate_eq_nil_iff {c : UInt8} {hosts : List ByteString} :
    List.intercalate [c] hosts = [] ↔ hosts = [] ∨ hosts = [[]] := by
  rcases hosts with _ | ⟨host, _ | ⟨next, hosts⟩⟩
  · exact iff_of_true rfl (.inl rfl)
  · rw [List.intercalate_singleton]
    simp
  · rw [List.intercalate_cons_cons]
    simp

/-- The hosts arrive unless one of them contains a comma or an empty one is alone. -/
theorem arrivedHosts_eq_iff {hosts : List ByteString} :
    arrivedHosts hosts = hosts ↔ hosts ≠ [[]] ∧ ∀ host ∈ hosts, 44 ∉ host := by
  rw [arrivedHosts]
  split
  · rename_i hnil
    rcases intercalate_eq_nil_iff.mp hnil with rfl | rfl
    · simp
    · simp
  · rename_i hne
    rw [intercalate_eq_nil_iff, not_or] at hne
    constructor
    · intro h
      refine ⟨hne.2, fun host hhost ↦ ?_⟩
      rw [← h] at hhost
      exact not_mem_of_mem_splitOn hhost
    · rintro ⟨-, hcomma⟩
      exact List.splitOn_intercalate 44 hcomma hne.1

/-! ## The round trip -/

/-- Agreement in what a link carries for the transport of a node. -/
structure TransportAgrees (node' node : VmNode) : Prop where
  tcp : node.network = ofString "tcp" → node'.tcpCfg.headerType = node.tcpCfg.headerType
  ws : node.network = ofString "ws" → node'.wsCfg = node.wsCfg
  h2 : node.network = ofString "h2" → node'.h2Cfg = node.h2Cfg
  quic : node.network = ofString "quic" → node'.quicCfg = node.quicCfg
  kcp : node.network = ofString "kcp" → node'.kcpCfg.headerType = node.kcpCfg.headerType

/-- Agreement in all that a link carries. -/
structure Agrees (node' node : VmNode) : Prop extends TransportAgrees node' node where
  remark : node'.remark = node.remark
  address : node'.address = node.address
  port : node'.port = node.port
  userId : node'.userId = node.userId
  alterId : node'.alterId = node.alterId
  security : node'.security = node.security
  network : node'.network = node.network
  tls : node'.tls = node.tls
  serverName : node.tls = ofString "tls" → node'.tlsCfg.serverName = node.tlsCfg.serverName

/-- A link is written for the node, and it is read as a node that agrees with it. -/
def RoundTrips (lib : LinkWriter) (node : VmNode) : Prop :=
  ∃ link node', encode lib node = .ok link ∧ decode lib.toLinkLibrary link = .ok (.ok node') ∧
    Agrees node' node

/-- The hosts, where they are used, can be told apart. -/
def HostsApart (node : VmNode) : Prop :=
  node.network = ofString "h2" → node.h2Cfg.host ≠ [[]] ∧ ∀ host ∈ node.h2Cfg.host, 44 ∉ host

/-- Besides the transport everything agrees. -/
theorem agrees_iff {node : VmNode} {headerType host path : ByteString} :
    Agrees (withTransport (carried node) headerType host path) node ↔
      TransportAgrees (withTransport (carried node) headerType host path) node := by
  obtain ⟨_, _, _, _, _, heq⟩ := exists_withTransport_eq (carried node) headerType host path
  rw [heq]
  refine ⟨fun h ↦ h.toTransportAgrees, fun h ↦ ⟨h, rfl, rfl, rfl, rfl, rfl, rfl, rfl, rfl, ?_⟩⟩
  exact fun htls ↦ if_pos htls

theorem hostsApart_of_ne {node : VmNode} (h : node.network ≠ ofString "h2") : HostsApart node :=
  fun hnet ↦ absurd hnet h

/-- What `encode` writes for the transport of a valid node, and when `decode` reads it back. -/
theorem exists_linkFields {node : VmNode} {isV5Core : Bool} (h : Valid node isV5Core) :
    ∃ headerType host path, transportFields node = linkFields headerType host path ∧
      (TransportAgrees (withTransport (carried node) headerType host path) node ↔
        HostsApart node) := by
  have hnetwork : (carried node).network = node.network := rfl
  -- a node has one network, so what is said of the others is vacuous
  have hne : ∀ {s t : String}, node.network = ofString s → s ≠ t → node.network ≠ ofString t :=
    fun hs hst ht ↦ hst (ofString_inj.mp (hs.symm.trans ht))
  have hmem := h.network_mem
  simp only [List.map_cons, List.map_nil, List.mem_cons, List.not_mem_nil, or_false] at hmem
  rcases hmem with hnet | hnet | hnet | hnet | hnet
  · refine ⟨_, _, _, if_pos hnet, iff_of_true ?_ (hostsApart_of_ne (hne hnet (by decide)))⟩
    rw [withTransport, hnetwork, if_pos hnet]
    constructor <;> intro hother
    · rfl
    all_goals exact absurd hother (hne hnet (by decide))
  · have hpath := h.wsPath_ne_nil hnet
    have htcp := hne hnet (t := "tcp") (by decide)
    refine ⟨_, _, _, (if_neg htcp).trans (if_pos hnet),
      iff_of_true ?_ (hostsApart_of_ne (hne hnet (by decide)))⟩
    rw [withTransport, hnetwork, if_neg htcp, if_pos hnet, if_neg hpath]
    constructor <;> intro hother
    case ws => rfl
    all_goals exact absurd hother (hne hnet (by decide))
  · have hpath := h.h2Path_ne_nil hnet
    have htcp := hne hnet (t := "tcp") (by decide)
    have hws := hne hnet (t := "ws") (by decide)
    refine ⟨_, _, _, (if_neg htcp).trans ((if_neg hws).trans (if_pos hnet)), ?_⟩
    rw [withTransport, hnetwork, if_neg htcp, if_neg hws, if_pos hnet, if_neg hpath]
    rw [HostsApart, ← arrivedHosts_eq_iff]
    constructor
    · intro hagrees
      exact fun _ ↦ congrArg VmNode.H2Config.host (hagrees.h2 hnet)
    · intro hhosts
      have harrived : arrivedHosts node.h2Cfg.host = node.h2Cfg.host := hhosts hnet
      rw [arrivedHosts] at harrived
      rw [harrived]
      constructor <;> intro hother
      case h2 => rfl
      all_goals exact absurd hother (hne hnet (by decide))
  · have hsecurity := h.quicSecurity_ne_nil hnet
    have htcp := hne hnet (t := "tcp") (by decide)
    have hws := hne hnet (t := "ws") (by decide)
    have hh2 := hne hnet (t := "h2") (by decide)
    refine ⟨_, _, _, (if_neg htcp).trans ((if_neg hws).trans ((if_neg hh2).trans (if_pos hnet))),
      iff_of_true ?_ (hostsApart_of_ne hh2)⟩
    rw [withTransport, hnetwork, if_neg htcp, if_neg hws, if_neg hh2, if_pos hnet, if_neg hsecurity]
    constructor <;> intro hother
    case quic => rfl
    all_goals exact absurd hother (hne hnet (by decide))
  · have htcp := hne hnet (t := "tcp") (by decide)
    have hws := hne hnet (t := "ws") (by decide)
    have hh2 := hne hnet (t := "h2") (by decide)
    have hquic := hne hnet (t := "quic") (by decide)
    refine ⟨_, _, _, (if_neg htcp).trans ((if_neg hws).trans ((if_neg hh2).trans
      ((if_neg hquic).trans (if_pos hnet)))), iff_of_true ?_ (hostsApart_of_ne hh2)⟩
    rw [withTransport, hnetwork, if_neg htcp, if_neg hws, if_neg hh2, if_neg hquic, if_pos hnet]
    constructor <;> intro hother
    case kcp => rfl
    all_goals exact absurd hother (hne hnet (by decide))

theorem roundTrips_iff_agrees {lib : LinkWriter} {node : VmNode} {isV5Core : Bool}
    (h : Valid node isV5Core) (hreadable : Readable node)
    (hlib : WritesAndReads lib (linkJson node)) {headerType host path : ByteString}
    (hfields : transportFields node = linkFields headerType host path) :
    RoundTrips lib node ↔ Agrees (withTransport (carried node) headerType host path) node := by
  have hencode : encode lib node
      = .ok (ofString "vmess://" ++ base64Encode (lib.dump (linkJson node))) :=
    if_pos (isSerializable_linkJson hreadable)
  have hdecode := decode_link hlib
  rw [nodeOfJson_linkJson h hfields, Json.map_ok] at hdecode
  rw [RoundTrips]
  constructor
  · rintro ⟨link, node', hlink, hnode', hagrees⟩
    obtain rfl := Except.ok.inj (hencode.symm.trans hlink)
    obtain rfl := Except.ok.inj (Except.ok.inj (hdecode.symm.trans hnode'))
    exact hagrees
  · intro hagrees
    exact ⟨_, _, hencode, hdecode, hagrees⟩

/-- **Share links.** The link of a valid node comes back as that node exactly when its hosts can be
told apart. -/
theorem roundTrips_iff {lib : LinkWriter} {node : VmNode} {isV5Core : Bool}
    (hvalid : validate node isV5Core = []) (hreadable : Readable node)
    (hlib : WritesAndReads lib (linkJson node)) : RoundTrips lib node ↔ HostsApart node := by
  have h := validate_eq_nil_iff.mp hvalid
  obtain ⟨headerType, host, path, hfields, htransport⟩ := exists_linkFields h
  rw [roundTrips_iff_agrees h hreadable hlib hfields, agrees_iff, htransport]

/-- An HTTP/2 node with the given hosts. -/
def h2Node (hosts : List ByteString) : VmNode where
  tag := ofString "vmess-1"
  address := ofString "1.1.1.1"
  userId := ofString "01234567-89ab-cdef-0123-456789abcdef"
  network := ofString "h2"
  h2Cfg := { host := hosts }

theorem validate_h2Node (hosts : List ByteString) : validate (h2Node hosts) true = [] :=
  have htag : validateTag (ofString "vmess-1") = [] := by decide +kernel
  have haddress : validateAddress (ofString "1.1.1.1") = [] := by decide +kernel
  validate_eq_nil_iff.mpr ⟨htag, haddress, rfl, validateUuid_sample, rfl, rfl, rfl, rfl, rfl, rfl⟩

theorem readable_h2Node {hosts : List ByteString} (h : ∀ host ∈ hosts, Utf8 host) :
    Readable (h2Node hosts) where
  remark := utf8_nil
  address := utf8_ofString _
  userId := utf8_ofString _
  security := utf8_ofString _
  network := utf8_ofString _
  tcpHeaderType := utf8_ofString _
  wsPath := utf8_ofString _
  wsHost := utf8_nil
  h2Path := utf8_ofString _
  h2Host := h
  quicSecurity := utf8_ofString _
  quicKey := utf8_nil
  quicHeaderType := utf8_ofString _
  kcpHeaderType := utf8_ofString _
  serverName := utf8_nil

/-- A string between quotation marks, where nothing has to be escaped. -/
def quoted (s : ByteString) : ByteString := [34] ++ s ++ [34]

/-- The text of an object of such strings. -/
def flatText (j : Json) : ByteString :=
  [123] ++ List.intercalate [44] (j.members.map fun m ↦
    quoted m.1 ++ [58] ++ quoted (m.2.getString.getD [])) ++ [125]

/-- What the library does on the way of one such object. -/
def flatLibrary (j : Json) : LinkWriter where
  dump := flatText
  parse s := if s = flatText j then .ok j else .error (ofString "parse error")
  decodeBlock s :=
    some (Base64.decodeDigits {} (s.map fun c ↦ (Base64.digit? c).getD 0))

theorem writesAndReads_flatLibrary (j : Json) : WritesAndReads (flatLibrary j) j where
  dump_eq := ⟨_, rfl⟩
  parse_dump := if_pos rfl
  decodeBlock_encode := by
    obtain ⟨n, hn⟩ := Base64.exists_decodeDigits_encode (flatText j)
    exact ⟨n, congrArg some hn⟩

def twoHosts : List ByteString := [ofString "a.com", ofString "b.com"]

theorem roundTrips_twoHosts :
    RoundTrips (flatLibrary (linkJson (h2Node twoHosts))) (h2Node twoHosts) := by
  refine (roundTrips_iff (validate_h2Node _) (readable_h2Node ?_)
    (writesAndReads_flatLibrary _)).mpr ?_
  · exact List.forall_mem_cons.mpr
      ⟨utf8_ofString _, List.forall_mem_singleton.mpr (utf8_ofString _)⟩
  · exact fun _ ↦ by decide

def commaHost : List ByteString := [ofString "a.com,b.com"]

/-- One host with a comma in its name comes back as two. -/
theorem commaHost_does_not_roundTrip :
    validate (h2Node commaHost) true = [] ∧ Readable (h2Node commaHost) ∧
      WritesAndReads (flatLibrary (linkJson (h2Node commaHost))) (linkJson (h2Node commaHost)) ∧
      ¬RoundTrips (flatLibrary (linkJson (h2Node commaHost))) (h2Node commaHost) := by
  have hvalid := validate_h2Node commaHost
  have hreadable : Readable (h2Node commaHost) :=
    readable_h2Node (List.forall_mem_singleton.mpr (utf8_ofString _))
  have hlib := writesAndReads_flatLibrary (linkJson (h2Node commaHost))
  refine ⟨hvalid, hreadable, hlib, fun h ↦ ?_⟩
  rw [roundTrips_iff_agrees (validate_eq_nil_iff.mp hvalid) hreadable hlib rfl] at h
  have hhosts : arrivedHosts commaHost = commaHost := congrArg VmNode.H2Config.host (h.h2 rfl)
  exact absurd ((arrivedHosts_eq_iff.mp hhosts).2 _ List.mem_cons_self) (by decide)

end VmLinkCodec

end LanProxyGateway
