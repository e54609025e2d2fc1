import VmBridge.Text.Utf8
/-! Bytes as characters: one character below 256 for each byte, for programs that count and
compare bytes. -/
namespace VmBridge.Text

def octets (bytes : Bytes) : List Char := bytes.map fun b => Char.ofNat b.toNat

def ofOctets (cs : List Char) : Bytes := cs.map (·.toNat.toUInt8)

def octetText (s : String) : String := String.ofList (octets (Utf8.encode s))

def octetBytes (s : String) : Bytes := ofOctets s.toList

end VmBridge.Text
