import LanProxyGateway.ProxyCore.Heads
import LanProxyGateway.WebServer.Tokens

/-!
# The decoders undo base64

The tokens and the Basic credentials each have a decoder of their own. The one skips what is not in
its table, the other stops there, and neither ever cuts its accumulator back; on an encoding, with
its padding or without, both give the bytes that were encoded (`decoders_undo`).
-/

open Foundation ByteString

namespace LanProxyGateway

open LanProxy

/-- What the decoders make of the encodings of a string. -/
structure UndoesBase64 (b : ByteString) : Prop where
  own : JwtUtil.base64Decode (JwtUtil.base64Encode b) = b
  padded : JwtUtil.base64Decode (Base64.encode b) = b
  unpadded : JwtUtil.base64Decode (Base64.unpadded b) = b
  inlinePadded : decodeCredentials (Base64.encode b) = b
  inlineUnpadded : decodeCredentials (Base64.unpadded b) = b

theorem undoesBase64 (b : ByteString) : UndoesBase64 b where
  own := JwtUtil.base64Decode_base64Encode b
  padded := by
    rw [JwtUtil.base64Decode, Base64.filterMap_encode JwtUtil.digit?_getD (by decide)]
    exact Base64.decodeDigits_digits b 0
  unpadded := JwtUtil.base64Decode_base64Encode b
  inlinePadded := decodeCredentials_encode b
  inlineUnpadded := by
    have h := decodeCredentials_unpadded b 0
    rwa [List.replicate_zero, List.append_nil] at h

/-- What a client may send for some credentials. -/
def WritesCredentials (token u p : ByteString) : Prop :=
  token = Base64.encode (u ++ ofString ":" ++ p) ∨
    token = Base64.unpadded (u ++ ofString ":" ++ p)

variable {token u p : ByteString}

theorem WritesCredentials.decode (h : WritesCredentials token u p) :
    decodeCredentials token = u ++ ofString ":" ++ p := by
  rcases h with rfl | rfl
  · exact decodeCredentials_encode _
  · exact (undoesBase64 _).inlineUnpadded

/-- The token is a part of its line. -/
theorem WritesCredentials.return_not_mem (h : WritesCredentials token u p) : 13 ∉ token := by
  obtain ⟨hletters, k, hencode, -⟩ := Base64.unpadded_spec (u ++ ofString ":" ++ p)
  have hunpadded : 13 ∉ Base64.unpadded (u ++ ofString ":" ++ p) :=
    fun hmem ↦ absurd (hletters 13 hmem) (by decide +kernel)
  rcases h with rfl | rfl
  · rw [hencode, List.mem_append, not_or]
    exact ⟨hunpadded, fun hmem ↦ absurd (List.eq_of_mem_replicate hmem) (by decide)⟩
  · exact hunpadded

/-- The split is at the first colon of the text. -/
theorem parseCredentials_eq {front rest : ByteString} (htoken : WritesCredentials token u p)
    (hu : 58 ∉ u) (hfirst : ¬basicHeader <:+: front ++ basicHeader.dropLast) :
    parseCredentials (front ++ (basicHeader ++ (token ++ (crlf ++ rest)))) = (u, p) := by
  have hdrop : (front ++ (basicHeader ++ (token ++ (crlf ++ rest)))).drop (front.length + 27) =
      token ++ (crlf ++ rest) := by
    rw [← List.append_assoc]
    exact List.drop_left' List.length_append
  have hsubstr : substr (front ++ (basicHeader ++ (token ++ (crlf ++ rest)))) (front.length + 27)
      token.length = token := by
    rw [substr, hdrop, List.take_left]
  obtain ⟨hcolon, husername, hpassword⟩ := split_at_colon p hu
  rw [parseCredentials, show ofString "Proxy-Authorization: Basic " = basicHeader from rfl,
    show ofString "\r\n" = crlf from rfl, find_of_first (by decide) hfirst]
  simp only [find_crlf_of_drop htoken.return_not_mem hdrop, Nat.add_sub_cancel_left, hsubstr]
  rw [htoken.decode, hcolon]
  simp only [husername, hpassword]

/-- **The decoders undo base64**, so the credentials in a head are those that the client wrote, if
its user name has no colon. -/
theorem decoders_undo : (∀ b, UndoesBase64 b) ∧
    ∀ token u p front rest, WritesCredentials token u p → 58 ∉ u →
      ¬basicHeader <:+: front ++ basicHeader.dropLast →
      parseCredentials (front ++ (basicHeader ++ (token ++ (crlf ++ rest)))) = (u, p) := by
  refine ⟨undoesBase64, fun token u p front rest htoken hu hfirst ↦ ?_⟩
  exact parseCredentials_eq htoken hu hfirst

/-- The credentials `alice:pw`, in the first line behind that of the request. -/
theorem aliceHead_decoders_undo : parseCredentials (ofString
      "CONNECT h:80 HTTP/1.1\r\nProxy-Authorization: Basic YWxpY2U6cHc=\r\nHost: h\r\n\r\n") =
    (ofString "alice", ofString "pw") := by
  have htoken : WritesCredentials (ofString "YWxpY2U6cHc=") (ofString "alice") (ofString "pw") :=
    .inl (by decide +kernel)
  exact decoders_undo.2 _ _ _ (ofString "CONNECT h:80 HTTP/1.1\r\n")
    (ofString "Host: h\r\n\r\n") htoken (by decide) (by decide +kernel)

end LanProxyGateway
