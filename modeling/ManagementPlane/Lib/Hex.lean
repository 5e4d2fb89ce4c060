import Mathlib.Data.List.Basic

/-!
# Hexadecimal text

`encoding/hex`: lower-case encoding, and decoding that accepts both cases and stops at the first
character that is no digit, with what has been decoded so far.
-/

namespace GoHex

def digit (n : Nat) : Char := "0123456789abcdef".toList.getD n '0'

def encode (bytes : List UInt8) : List Char :=
  bytes.flatMap fun byte => [digit (byte.toNat / 16), digit (byte.toNat % 16)]

def encodeToString (bytes : List UInt8) : String := String.ofList (encode bytes)

def value (c : Char) : Option Nat :=
  let code := c.toNat
  if 48 ≤ code ∧ code ≤ 57 then some (code - 48)
  else if 97 ≤ code ∧ code ≤ 102 then some (code - 87)
  else if 65 ≤ code ∧ code ≤ 70 then some (code - 55)
  else none

/-- The decoded bytes, and whether the whole text could be decoded. -/
def decode : List Char → List UInt8 × Bool
  | [] => ([], true)
  | [_] => ([], false)
  | high :: low :: rest =>
    match value high, value low with
    | some h, some l =>
      let (bytes, whole) := decode rest
      (UInt8.ofNat (h * 16 + l) :: bytes, whole)
    | _, _ => ([], false)

def decodeString (s : String) : List UInt8 × Bool := decode s.toList

theorem value_digit (n : Nat) (small : n < 16) : value (digit n) = some n := by
  revert n
  decide

theorem mem_encode {bytes : List UInt8} {c : Char} (member : c ∈ encode bytes) :
    ∃ n < 16, c = digit n := by
  simp [encode] at member
  obtain ⟨byte, _, high | low⟩ := member
  · have bound := byte.toNat_lt
    exact ⟨byte.toNat / 16, by omega, high⟩
  · exact ⟨byte.toNat % 16, by omega, low⟩

theorem decode_encode (bytes : List UInt8) : decode (encode bytes) = (bytes, true) := by
  induction bytes with
  | nil => rfl
  | cons byte rest ih =>
    have bound := byte.toNat_lt
    have high := value_digit (byte.toNat / 16) (by omega)
    have low := value_digit (byte.toNat % 16) (by omega)
    have whole : byte.toNat / 16 * 16 + byte.toNat % 16 = byte.toNat := by omega
    have unfolded : encode (byte :: rest) =
        digit (byte.toNat / 16) :: digit (byte.toNat % 16) :: encode rest := rfl
    rw [unfolded]
    simp [decode, high, low, ih, whole]

theorem decodeString_encodeToString (bytes : List UInt8) :
    decodeString (encodeToString bytes) = (bytes, true) := by
  rw [decodeString, encodeToString, String.toList_ofList, decode_encode]

end GoHex
