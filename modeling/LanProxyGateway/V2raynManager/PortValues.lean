import LanProxyGateway.V2raynManager.NodeEdits
import LanProxyGateway.V2raynManager.NodeJson

/-!
# The port of a node

A node gets its port from the body of a request, from a share link or from an outbound of the
configuration. `json_to_node` and `parse_outbound` read an `int`, a link is read as a number or with
`std::stoi`, and all three cast to the sixteen bits of `node.port` before anyone looks. What does
not fit wraps, a fraction is cut off, a boolean is a number, and in a link whatever is no number
becomes 443. The validator sees only the result. `portKept_iff` says that the port of an accepted
node is the one that was given exactly where what was given is a port.
-/

open Foundation ByteString

namespace LanProxyGateway

namespace NodeStore

open VmLinkCodec VmNodeValidator

/-! ## What a value says -/

/-- The number that a value gives: a number, or a text of decimal digits. -/
def Gives : Json → ℕ → Prop
  | .integer k, n => k = n
  | .float x, n => x = n
  | .string s, n => IsDecimal s ∧ digitsValue s = n
  | _, _ => False

/-- The value gives a port. -/
def GivesPort (v : Json) : Prop := ∃ n, Gives v n ∧ 1 ≤ n ∧ n ≤ 65535

/-- The value gives a port, and the node has it. -/
def PortKept (v : Json) (node : VmNode) : Prop :=
  ∃ n, Gives v n ∧ 1 ≤ n ∧ n ≤ 65535 ∧ node.port.toNat = n

theorem getInt64_of_gives {v : Json} {n : ℕ} (h : Gives v n) (hle : n ≤ 65535)
    (hnumber : v.isNumber = true) : v.getInt64 = some (n : Int) := by
  cases v with
  | integer k =>
    obtain rfl : k = n := h
    rw [Json.getInt64, Json.castInt64_of_bounds (by omega) (by omega)]
  | float x =>
    obtain rfl : x = n := h
    simp only [Json.getInt64, Rat.num_natCast, Rat.den_natCast, Nat.cast_one, Int.tdiv_one]
    rw [Json.castInt64_of_bounds (by omega) (by omega)]
  | _ => cases hnumber

theorem getInt_of_gives {v : Json} {n : ℕ} {p : Int} (h : Gives v n) (hle : n ≤ 65535)
    (hp : v.getInt = some p) : p = n := by
  cases v with
  | integer k =>
    obtain rfl : k = n := h
    rw [Json.getInt, Json.castInt_of_bounds (by omega) (by omega)] at hp
    exact (Option.some.inj hp).symm
  | float x =>
    obtain rfl : x = n := h
    simp only [Json.getInt, Rat.num_natCast, Rat.den_natCast, Nat.cast_one, Int.tdiv_one] at hp
    rw [Json.castInt_of_bounds (by omega) (by omega)] at hp
    exact (Option.some.inj hp).symm
  | string s => cases hp
  | _ => cases h

/-! ## The three decoders -/

/-- The port of a body or of an outbound. -/
theorem toNat_of_value {j v : Json} {n : ℕ} {p : Int} (hv : j.member? (ofString "port") = some v)
    (hp : Json.value Json.getInt "port" 443 j = some p) (h : Gives v n) (hle : n ≤ 65535) :
    (UInt16.ofInt p).toNat = n := by
  have hobject : j.isObject := by
    by_contra hno
    rw [Json.member?_of_not_isObject hno] at hv
    cases hv
  rw [Json.value_of_isObject _ _ _ hobject, hv, Option.elim_some] at hp
  rw [getInt_of_gives h hle hp, toNat_uInt16_ofInt_natCast hle]

/-- The port of a link. -/
theorem toNat_linkPort {j v : Json} {n : ℕ} (hv : j.member? (ofString "port") = some v)
    (h : Gives v n) (hle : n ≤ 65535) : (linkPort j).toNat = n := by
  rw [linkPort, hv, Option.elim_some, numberOr]
  by_cases hnumber : v.isNumber = true
  · rw [if_pos hnumber, getInt64_of_gives h hle hnumber]
    exact toNat_uInt16_ofInt_natCast hle
  rw [if_neg hnumber]
  cases v with
  | string s =>
    obtain ⟨hdecimal, rfl⟩ := h
    simp only [Json.getString_string]
    rw [stoi_of_isDecimal hdecimal (by omega)]
    exact toNat_uInt16_ofInt_natCast hle
  | integer k => exact absurd rfl hnumber
  | float x => exact absurd rfl hnumber
  | _ => cases h

theorem port_jsonToNode {j : Json} {node : VmNode} (h : jsonToNode j = .ok node) :
    ∃ p, Json.value Json.getInt "port" 443 j = some p ∧ node.port = UInt16.ofInt p := by
  simp only [jsonToNode, Json.bind_eq_ok] at h
  obtain ⟨tag, -, address, -, port, hport, userId, -, alterId, -, security, -, network, -, tls, -,
    remark, -, node₁, h₁, node₂, h₂, node₃, h₃, node₄, h₄, node₅, h₅, h₆⟩ := h
  have hhead : head node = (tag, UInt16.ofInt port) := by
    rw [head_readInto h₆ fun _ ↦ rfl, head_readInto h₅ fun _ ↦ rfl, head_readInto h₄ fun _ ↦ rfl,
      head_readInto h₃ fun _ ↦ rfl, head_readInto h₂ fun _ ↦ rfl, head_readInto h₁ fun _ ↦ rfl]
    rfl
  exact ⟨port, Json.orThrow_eq_ok.mp hport, (Prod.mk.inj hhead).2⟩

theorem port_withTransport (node : VmNode) (headerType host path : ByteString) :
    (withTransport node headerType host path).port = node.port := by
  rw [withTransport]
  split_ifs <;> rfl

theorem port_nodeOfJson {j : Json} {node : VmNode} (h : nodeOfJson j = .ok node) :
    node.port = linkPort j := by
  simp only [nodeOfJson, Json.bind_eq_ok] at h
  obtain ⟨remark, -, address, -, userId, -, security, -, network, -, tls, -, headerType, -, host, -,
    path, -, sni, -, h⟩ := h
  generalize hw : withTransport _ _ _ _ = w at h
  have hw' : w.port = linkPort j := by
    rw [← hw, port_withTransport]
  split at h
  · rw [← Except.ok.inj h, ← hw']
  · rw [← Except.ok.inj h, hw']

/-! ## What is accepted -/

/-- The object in a link that is decoded. -/
theorem nodeOfJson_of_decode {lib : LinkLibrary} {vmessLink : ByteString} {j : Json} {node : VmNode}
    (hj : lib.parse (linkText lib vmessLink) = .ok j)
    (h : decode lib vmessLink = .ok (.ok node)) : nodeOfJson j = .ok node := by
  rw [decode_eq, hj] at h
  split at h
  · cases Except.ok.inj h
  split at h
  · cases Except.ok.inj h
  obtain ⟨node', hnode, heq⟩ := Json.map_eq_ok.mp h
  rw [hnode, Except.ok.inj heq]

/-- An import changes the tag of the node in the link, and nothing else. -/
theorem decode_of_importFromLink {lib : LinkLibrary} {disk : DiskAnswer} {vmessLink : ByteString}
    {s : NodeStore} {node : VmNode}
    (h : (s.importFromLink lib disk vmessLink).1 = .done node) :
    ∃ decoded, decode lib vmessLink = .ok (.ok decoded) ∧
      node = { decoded with tag := s.generateAutoTag } := by
  rw [importFromLink] at h
  rcases hdecode : decode lib vmessLink with e | errorMsg | decoded
  · simp only [hdecode] at h
    cases h
  · simp only [hdecode] at h
    cases h
  refine ⟨decoded, rfl, ?_⟩
  simp only [hdecode] at h
  split at h
  · cases h
  split at h
  · exact (Outcome.done.inj h).symm
  · cases h
  · cases h

/-- A node that was accepted, with the value `v` given for its port. -/
inductive Accepts (v : Json) (node : VmNode) : Prop
  /-- By `add_node`, out of the body of a request. -/
  | added (j : Json) (disk : DiskAnswer) (s : NodeStore) (hv : j.member? (ofString "port") = some v)
    (hj : jsonToNode j = .ok node) (h : (s.addNode disk node).1 = .done ())
  /-- By `update_node`. -/
  | updated (j : Json) (disk : DiskAnswer) (oldTag : ByteString) (s : NodeStore)
    (hv : j.member? (ofString "port") = some v) (hj : jsonToNode j = .ok node)
    (h : (s.updateNode disk oldTag node).1 = .done ())
  /-- By `import_from_link`, out of the object in the link. -/
  | imported (lib : LinkLibrary) (disk : DiskAnswer) (link : ByteString) (s : NodeStore) (j : Json)
    (hj : lib.parse (linkText lib link) = .ok j) (hv : j.member? (ofString "port") = some v)
    (h : (s.importFromLink lib disk link).1 = .done node)
  /-- By `parse_outbound`. -/
  | parsed (outbound vnext : Json) (vs : List Json)
    (hvnext : (outbound.member? (ofString "settings")).bind (Json.member? (ofString "vnext")) =
      some (.array (vnext :: vs))) (hv : vnext.member? (ofString "port") = some v)
    (h : parseOutbound outbound = .ok (some node))

/-- **When the port is the one that was given.** When a port was given. -/
theorem portKept_iff {v : Json} {node : VmNode} (h : Accepts v node) :
    PortKept v node ↔ GivesPort v := by
  constructor
  · rintro ⟨n, hgives, hpos, hle, -⟩
    exact ⟨n, hgives, hpos, hle⟩
  rintro ⟨n, hgives, hpos, hle⟩
  refine ⟨n, hgives, hpos, hle, ?_⟩
  cases h with
  | added j disk s hv hj _ =>
    obtain ⟨p, hp, hport⟩ := port_jsonToNode hj
    rw [hport, toNat_of_value hv hp hgives hle]
  | updated j disk oldTag s hv hj _ =>
    obtain ⟨p, hp, hport⟩ := port_jsonToNode hj
    rw [hport, toNat_of_value hv hp hgives hle]
  | imported lib disk link s j hj hv h =>
    obtain ⟨decoded, hdecode, rfl⟩ := decode_of_importFromLink h
    have hport := port_nodeOfJson (nodeOfJson_of_decode hj hdecode)
    rw [← toNat_linkPort hv hgives hle, ← hport]
  | parsed outbound vnext vs hvnext hv h =>
    obtain ⟨tag, vnext', vs', p, -, hvnext', hp, hhead⟩ := head_parseOutbound h
    obtain ⟨rfl, -⟩ := List.cons.inj (Json.array.inj (Option.some.inj (hvnext.symm.trans hvnext')))
    have hport : node.port = UInt16.ofInt p := (Prod.mk.inj hhead).2
    rw [hport, toNat_of_value hv hp hgives hle]

/-- The body of a request for a node with the given port. -/
def portBody (v : Json) : Json := .ofFields [
  ("tag", .string (ofString "vmess-1")),
  ("address", .string (ofString "1.1.1.1")),
  ("port", v),
  ("user_id", .string (ofString "01234567-89ab-cdef-0123-456789abcdef"))]

theorem eq_done_of_isDone {o : Outcome Unit} (h : o.isDone = true) : o = .done () := by
  cases o with
  | done result => rfl
  | _ => cases h

/-- A node can be added to an empty list, and is saved. -/
theorem addNode_vmessNode : (addNode {} (vmessNode "vmess-1") {}).1 = .done () := by
  have hvalid : validate (vmessNode "vmess-1") ({} : NodeStore).isV5Core = [] :=
    validate_vmessNode (by decide +kernel)
  have hsaves : (saveToConfig {} { nodes := [vmessNode "vmess-1"] }).1.isDone = true := by
    decide +kernel
  simp only [addNode, hvalid]
  rw [if_neg (not_not.mpr rfl), if_neg (by decide +kernel)]
  split
  · rename_i errorMsg s' hfailed
    have hsaves' : (saveToConfig {} { nodes := [vmessNode "vmess-1"] }).1.isDone = false :=
      congrArg (·.1.isDone) hfailed
    exact absurd (hsaves.symm.trans hsaves') (by decide)
  · exact eq_done_of_isDone hsaves

/-- The port 65979 is accepted, and the node gets the port 443. -/
theorem wrapped_port_accepted :
    Accepts (.integer 65979) (vmessNode "vmess-1") ∧ (vmessNode "vmess-1").port = 443 ∧
      ¬PortKept (.integer 65979) (vmessNode "vmess-1") := by
  refine ⟨.added (portBody (.integer 65979)) {} {} rfl ?_ addNode_vmessNode, rfl, ?_⟩
  · rfl
  · rintro ⟨n, hgives, -, hle, -⟩
    have hn : (65979 : Int) = n := hgives
    omega

theorem given_port_accepted : PortKept (.integer 443) (vmessNode "vmess-1") ↔
    GivesPort (.integer 443) :=
  portKept_iff (.added (portBody (.integer 443)) {} {} rfl rfl addNode_vmessNode)

end NodeStore

end LanProxyGateway
