import LanProxyGateway.ProxyCore.Messages

/-!
# Messages on the wire

What the messages of a client say, without buffers and lengths. `Decodes bytes u p` is the meaning
of a login: the bytes of a read hold the name `u` and the password `p`, either as an RFC 1929
message or in a `Proxy-Authorization: Basic` header. The parsers that the handlers apply to the
buffer only ever return what the bytes of the last read say: the length tests keep them away from
the old content.
-/

open Foundation ByteString

namespace LanProxyGateway

open LanProxy

/-! ## Logins -/

/-- The header that carries the credentials. -/
def basicHeader : ByteString := ofString "Proxy-Authorization: Basic "

def crlf : ByteString := ofString "\r\n"

/-- The bytes of a read hold a user name and a password. -/
inductive Decodes (bytes u p : ByteString) : Prop
  /-- As an RFC 1929 message. -/
  | login (ulen plen : UInt8) (rest : ByteString) (hu : u.length = ulen.toNat)
    (hp : p.length = plen.toNat) (h : bytes = 0x01 :: ulen :: (u ++ plen :: (p ++ rest)))
  /-- In a header of an HTTP head. -/
  | basic (before credB64 after : ByteString)
    (h : bytes = before ++ basicHeader ++ credB64 ++ crlf ++ after)
    (hc : decodeCredentials credB64 = u ++ ofString ":" ++ p)

theorem decodes_of_parseLogin {b : Buffer} {bytes u p : ByteString} (hlen : bytes.length ≤ 8192)
    (h : parseLogin (b.store bytes) bytes.length = .credentials u p) : Decodes bytes u p := by
  obtain ⟨m, rest, hread, hvalue⟩ := (parseLogin_eq_credentials_iff _ _ u p).mp h
  obtain ⟨rfl, rfl⟩ := Prod.mk.inj hvalue
  rw [b.read_store_self hlen] at hread
  refine .login m.username.length.toUInt8 m.password.length.toUInt8 rest
    (toNat_length m.username_fits).symm (toNat_length m.password_fits).symm ?_
  rw [hread, LoginMessage.encode]
  simp only [List.cons_append, List.append_assoc]

theorem decodes_of_parseCredentials {bytes u p : ByteString} (h : parseCredentials bytes = (u, p))
    (hne : ¬(u = [] ∧ p = [])) : Decodes bytes u p := by
  have hcolon : ofString ":" ≠ [] := by decide
  have hcrlf : crlf ≠ [] := by decide
  have hheader : basicHeader ≠ [] := by decide
  have hnone : ([], []) ≠ (u, p) := fun he ↦ hne ⟨(congrArg Prod.fst he).symm,
    (congrArg Prod.snd he).symm⟩
  rw [parseCredentials] at h
  rcases hpos : find bytes basicHeader 0 with _ | pos
  · rw [basicHeader] at hpos
    rw [hpos] at h
    exact absurd h hnone
  rw [show ofString "Proxy-Authorization: Basic " = basicHeader from rfl, hpos] at h
  simp only at h
  rcases hend : find bytes crlf (pos + 27) with _ | lineEnd
  · rw [show ofString "\r\n" = crlf from rfl, hend] at h
    exact absurd h hnone
  rw [show ofString "\r\n" = crlf from rfl, hend] at h
  simp only at h
  rcases hc : find (decodeCredentials (substr bytes (pos + 27) (lineEnd - (pos + 27))))
    (ofString ":") 0 with _ | colon
  · rw [hc] at h
    exact absurd h hnone
  rw [hc] at h
  obtain ⟨rfl, rfl⟩ := Prod.mk.inj h
  refine .basic (bytes.take pos) (substr bytes (pos + 27) (lineEnd - (pos + 27)))
    (bytes.drop (lineEnd + 2)) ?_ ?_
  · have hle : pos + 27 ≤ lineEnd := ((find_eq_some_iff hcrlf).mp hend).1
    have hsplit := eq_append_of_find hcrlf hend
    have hhead : bytes.take lineEnd = bytes.take pos ++ basicHeader
        ++ substr bytes (pos + 27) (lineEnd - (pos + 27)) := by
      have hlen : basicHeader.length = 27 := by decide
      rw [← take_of_find hheader hpos, substr, hlen, ← List.take_add, Nat.add_sub_cancel' hle]
    rw [hhead] at hsplit
    exact hsplit
  · exact eq_append_of_find hcolon hc

end LanProxyGateway
