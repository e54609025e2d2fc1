/-! UTF-16 units, and the zero-terminated strings made of them. -/
namespace VmBridge.Text.Utf16

def isHigh (u : UInt16) : Bool := 0xD800 ≤ u && u ≤ 0xDBFF
def isLow (u : UInt16) : Bool := 0xDC00 ≤ u && u ≤ 0xDFFF

def encodeChar (c : Char) : List UInt16 :=
  if c.toNat < 0x10000 then [c.toNat.toUInt16]
  else
    let v := c.toNat - 0x10000
    [(0xD800 + v / 0x400).toUInt16, (0xDC00 + v % 0x400).toUInt16]

def encode (s : String) : List UInt16 := s.toList.flatMap encodeChar

def lone (u : UInt16) : Char :=
  if isHigh u || isLow u then '\uFFFD' else Char.ofNat u.toNat

def pair (u v : UInt16) : Char :=
  Char.ofNat (0x10000 + (u.toNat - 0xD800) * 0x400 + (v.toNat - 0xDC00))

def lossyChars : List UInt16 → List Char
  | [] => []
  | [u] => [lone u]
  | u :: v :: rest =>
    if isHigh u && isLow v then pair u v :: lossyChars rest
    else lone u :: lossyChars (v :: rest)

def lossy (units : List UInt16) : String := String.ofList (lossyChars units)

def upToZero (units : List UInt16) : List UInt16 := units.takeWhile (· != 0)

end VmBridge.Text.Utf16
