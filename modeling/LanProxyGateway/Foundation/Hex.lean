import LanProxyGateway.Foundation.AsciiCase
import LanProxyGateway.Foundation.Text

/-!
# Hexadecimal text

Every byte becomes two lower-case digits, and from the digits, of either case, the bytes can be read
again.

Programs write such texts through a stream: `NumberStream` has the three settings of one that
matter. The base and the fill character stay as they are set, and the width only counts for the next
number; a byte that sets all three every time is always written with two digits
(`text_foldl_putHex`).
-/

namespace Foundation

namespace Hex

open ByteString

def digits : ByteString := ofString "0123456789abcdef"

def encode (s : ByteString) : ByteString :=
  s.flatMap fun c ↦ [hexDigit (c.toNat >>> 4), hexDigit c.toNat]

/-- The value of a digit of either case. -/
def value (c : UInt8) : Option ℕ := digits.idxOf? (lowerByte c)

/-- The bytes of a text that consists of pairs of digits. -/
def decode : ByteString → Option ByteString
  | [] => some []
  | [_] => none
  | a :: b :: s => do
    let high ← value a
    let low ← value b
    let rest ← decode s
    some (UInt8.ofNat (high * 16 + low) :: rest)

theorem hexDigit_mod (n : ℕ) : hexDigit (n % 16) = hexDigit n := by
  rw [hexDigit, hexDigit, Nat.mod_mod]

theorem hexDigit_mem (n : ℕ) : hexDigit n ∈ digits := by
  have hall : ∀ m < 16, hexDigit m ∈ digits := by decide +kernel
  rw [← hexDigit_mod]
  exact hall _ (Nat.mod_lt _ (by decide))

@[simp] theorem value_hexDigit (n : ℕ) : value (hexDigit n) = some (n % 16) := by
  have hall : ∀ m < 16, value (hexDigit m) = some m := by decide +kernel
  rw [← hexDigit_mod]
  exact hall _ (Nat.mod_lt _ (by decide))

theorem encode_cons (c : UInt8) (s : ByteString) :
    encode (c :: s) = hexDigit (c.toNat >>> 4) :: hexDigit c.toNat :: encode s := rfl

theorem mem_digits_of_mem_encode {c : UInt8} {s : ByteString} (h : c ∈ encode s) : c ∈ digits := by
  obtain ⟨b, -, hc⟩ := List.mem_flatMap.mp h
  rw [List.mem_pair] at hc
  rcases hc with rfl | rfl
  · exact hexDigit_mem _
  · exact hexDigit_mem _

theorem length_encode (s : ByteString) : (encode s).length = 2 * s.length := by
  induction s with
  | nil => rfl
  | cons c s ih =>
    rw [encode_cons, List.length_cons, List.length_cons, ih, List.length_cons]
    omega

/-- **The bytes are read again.** -/
theorem decode_encode (s : ByteString) : decode (encode s) = some s := by
  induction s with
  | nil => rfl
  | cons c s ih =>
    have hc := c.toNat_lt
    have hbyte : c.toNat >>> 4 % 16 * 16 + c.toNat % 16 = c.toNat := by
      rw [Nat.shiftRight_eq_div_pow]
      omega
    simp only [encode_cons, decode, value_hexDigit, ih, Option.bind_eq_bind, Option.bind_some]
    rw [hbyte, UInt8.ofNat_toNat]

theorem encode_injective : Function.Injective encode := by
  intro s t h
  have hs := decode_encode s
  rw [h, decode_encode] at hs
  exact (Option.some.inj hs).symm

/-! ## Through a stream -/

/-- A `std::ostringstream` and its settings. -/
structure NumberStream where
  text : ByteString := []
  base : ℕ := 10
  width : ℕ := 0
  fill : UInt8 := 32

namespace NumberStream

/-- `o << std::hex`. -/
def hex (o : NumberStream) : NumberStream := { o with base := 16 }

/-- `o << std::setw(n)`. -/
def setw (n : ℕ) (o : NumberStream) : NumberStream := { o with width := n }

/-- `o << std::setfill(c)`. -/
def setfill (c : UInt8) (o : NumberStream) : NumberStream := { o with fill := c }

/-- The digits of a number, with the fill in front of them up to the width. -/
def padded (o : NumberStream) (n : ℕ) : ByteString :=
  ((Nat.toDigits o.base n).map fun c ↦ c.toNat.toUInt8).leftpad o.width o.fill

/-- `o << n`. -/
def put (o : NumberStream) (n : ℕ) : NumberStream :=
  { o with text := o.text ++ o.padded n, width := 0 }

/-- `o << std::hex << std::setw(2) << std::setfill('0') << (int)c`. -/
def putHex (o : NumberStream) (c : UInt8) : NumberStream :=
  ((o.hex.setw 2).setfill 48).put c.toNat

theorem text_putHex (o : NumberStream) (c : UInt8) :
    (o.putHex c).text = o.text ++ [hexDigit (c.toNat >>> 4), hexDigit c.toNat] := by
  have hall : ∀ n < 256, ((Nat.toDigits 16 n).map fun c ↦ c.toNat.toUInt8).leftpad 2 48 =
      [hexDigit (n >>> 4), hexDigit n] := by decide +kernel
  exact congrArg (o.text ++ ·) (hall c.toNat c.toNat_lt)

theorem text_foldl_putHex (o : NumberStream) (s : ByteString) :
    (s.foldl putHex o).text = o.text ++ encode s := by
  induction s generalizing o with
  | nil => exact (List.append_nil _).symm
  | cons c s ih =>
    rw [List.foldl_cons, ih, text_putHex, List.append_assoc]
    rfl

end NumberStream

end Hex

end Foundation
