import LanProxyGateway.Foundation.Text

/-!
# IP addresses and their ranges, as text

An address is 32 or 128 bits, and a range is an address and the number of its leading bits that
count. `InRange` compares the two as they are written: dotted decimal for 32 bits, groups of
hexadecimal digits for 128, and a range with the number of bits behind a slash.
-/

namespace Foundation

open ByteString

/-! ## Bits -/

/-- The first `n` bits agree. -/
def SamePrefix {w : ℕ} (n : ℕ) (a b : BitVec w) : Prop := a >>> (w - n) = b >>> (w - n)

instance {w n : ℕ} (a b : BitVec w) : Decidable (SamePrefix n a b) :=
  inferInstanceAs (Decidable (_ = _))

inductive IpValue
  | v4 (bits : BitVec 32)
  | v6 (bits : BitVec 128)
  deriving DecidableEq

/-- No range has more leading bits than its addresses have. -/
inductive IpRange
  | v4 (base : BitVec 32) (length : Fin 33)
  | v6 (base : BitVec 128) (length : Fin 129)
  deriving DecidableEq

/-- A range has addresses of its own kind only. -/
def IpRange.Contains : IpRange → IpValue → Prop
  | .v4 base n, .v4 a => SamePrefix n base a
  | .v6 base n, .v6 a => SamePrefix n base a
  | _, _ => False

instance (r : IpRange) (a : IpValue) : Decidable (r.Contains a) := by
  unfold IpRange.Contains
  split <;> infer_instance

/-! ## Texts -/

namespace IpText

/-- A number up to 255, without leading zeros. -/
def parseOctet (s : ByteString) : Option ℕ :=
  if IsDecimal s ∧ (s.length = 1 ∨ s.head? ≠ some 48) ∧ digitsValue s ≤ 255 then
    some (digitsValue s)
  else none

def parseV4 (s : ByteString) : Option (BitVec 32) :=
  match List.splitOn 46 s with
  | [a, b, c, d] => do
    let a ← parseOctet a
    let b ← parseOctet b
    let c ← parseOctet c
    let d ← parseOctet d
    some (BitVec.ofNat 32 (((a * 256 + b) * 256 + c) * 256 + d))
  | _ => none

/-- The value of a hexadecimal digit, in either case. -/
def hexValue? (c : UInt8) : Option ℕ :=
  if isDigit c then some (c.toNat - 48)
  else if 97 ≤ c && c ≤ 102 then some (c.toNat - 87)
  else if 65 ≤ c && c ≤ 70 then some (c.toNat - 55)
  else none

/-- One to four hexadecimal digits. -/
def parseGroup (s : ByteString) : Option ℕ := do
  let digits ← s.mapM hexValue?
  if 1 ≤ digits.length ∧ digits.length ≤ 4 then some (digits.foldl (fun n d ↦ 16 * n + d) 0)
  else none

/-- Groups, of which the last two may be written as an address of 32 bits. -/
def parseGroups : List ByteString → Option (List ℕ)
  | [] => some []
  | [last] =>
    match parseGroup last with
    | some g => some [g]
    | none => (parseV4 last).map fun n ↦ [n.toNat / 65536, n.toNat % 65536]
  | s :: ss => do
    let g ← parseGroup s
    let gs ← parseGroups ss
    some (g :: gs)

def ofGroups (gs : List ℕ) : BitVec 128 := BitVec.ofNat 128 (gs.foldl (fun n g ↦ 65536 * n + g) 0)

/-- Eight groups, or fewer with two colons in the place of at least one group of zeros. -/
def parseV6 (s : ByteString) : Option (BitVec 128) :=
  match find s (ofString "::") 0 with
  | none => do
    let gs ← parseGroups (List.splitOn 58 s)
    if gs.length = 8 then some (ofGroups gs) else none
  | some pos => do
    let left ← if pos = 0 then some [] else (List.splitOn 58 (s.take pos)).mapM parseGroup
    let right ← if s.length = pos + 2 then some []
      else parseGroups (List.splitOn 58 (s.drop (pos + 2)))
    if left.length + right.length ≤ 7 then
      some (ofGroups (left ++ List.replicate (8 - left.length - right.length) 0 ++ right))
    else none

def parseIp (s : ByteString) : Option IpValue :=
  match parseV4 s with
  | some a => some (.v4 a)
  | none => (parseV6 s).map .v6

/-- An address, a slash and the number of bits. -/
def parseRange (s : ByteString) : Option IpRange := do
  let slash ← find s (ofString "/") 0
  let base ← parseIp (s.take slash)
  let length ← parseOctet (s.drop (slash + 1))
  match base with
  | .v4 a => if h : length < 33 then some (.v4 a ⟨length, h⟩) else none
  | .v6 a => if h : length < 129 then some (.v6 a ⟨length, h⟩) else none

end IpText

/-- The text is an address. -/
def IsIpText (s : ByteString) : Prop := (IpText.parseIp s).isSome = true

instance (s : ByteString) : Decidable (IsIpText s) := inferInstanceAs (Decidable (_ = true))

/-- The text is an address, and it lies in the range. -/
def InRange (ip range : ByteString) : Prop :=
  match IpText.parseIp ip, IpText.parseRange range with
  | some a, some r => r.Contains a
  | _, _ => False

instance (ip range : ByteString) : Decidable (InRange ip range) := by
  unfold InRange
  split <;> infer_instance

example : InRange (ofString "10.1.2.3") (ofString "10.0.0.0/8") := by decide +kernel

example : ¬InRange (ofString "11.1.2.3") (ofString "10.0.0.0/8") := by decide +kernel

example : InRange (ofString "2001:db8::1") (ofString "2001:0DB8::/32") := by decide +kernel

/-- The empty text is no address. -/
theorem ne_nil_of_isIpText {s : ByteString} (h : IsIpText s) : s ≠ [] := by
  rintro rfl
  exact absurd h (by decide +kernel)

end Foundation
