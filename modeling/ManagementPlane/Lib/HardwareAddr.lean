import ManagementPlane.Lib.Binary

/-!
# Hardware addresses

`net.ParseMAC` and the text of a `net.HardwareAddr`.
-/

namespace GoNet

open GoBinary

def hexValue (b : UInt8) : Option Nat :=
  let code := b.toNat
  if 48 ≤ code ∧ code ≤ 57 then some (code - 48)
  else if 97 ≤ code ∧ code ≤ 102 then some (code - 87)
  else if 65 ≤ code ∧ code ≤ 70 then some (code - 55)
  else none

/-- The byte of two digits, which the separator follows unless the text ends. -/
def xtoi2 (s : Bytes) (separator : UInt8) : Option UInt8 :=
  match s with
  | high :: low :: rest =>
    if rest.headD separator ≠ separator then none
    else
      match hexValue high, hexValue low with
      | some h, some l => some (UInt8.ofNat (h * 16 + l))
      | _, _ => none
  | _ => none

def parsePairs (separator : UInt8) : Nat → Bytes → Option Bytes
  | 0, _ => some []
  | n + 1, s => do
      let byte ← xtoi2 s separator
      let rest ← parsePairs separator n (s.drop 3)
      return byte :: rest

def parseQuads (separator : UInt8) : Nat → Bytes → Option Bytes
  | 0, _ => some []
  | n + 1, s => do
      let first ← xtoi2 (s.take 2) 0
      let second ← xtoi2 (s.drop 2) separator
      let rest ← parseQuads separator n (s.drop 5)
      return first :: second :: rest

def isAddrLength (n : Nat) : Bool := n = 6 || n = 8 || n = 20

/-- `net.ParseMAC`: pairs of digits after colons or hyphens, or groups of four after dots. -/
def parseMAC (s : Bytes) : Option Bytes :=
  if s.length < 14 then none
  else
    let separator := s.getD 2 0
    if separator = 58 ∨ separator = 45 then
      let n := (s.length + 1) / 3
      if (s.length + 1) % 3 = 0 ∧ isAddrLength n then parsePairs separator n s else none
    else if s.getD 4 0 = 46 then
      let n := 2 * (s.length + 1) / 5
      if (s.length + 1) % 5 = 0 ∧ isAddrLength n then parseQuads 46 (n / 2) s else none
    else none

def hardwareAddr (hw : Bytes) : Bytes :=
  List.intercalate [58] (hw.map fun byte =>
    [hexDigit (byte.toNat / 16), hexDigit (byte.toNat % 16)])

end GoNet
