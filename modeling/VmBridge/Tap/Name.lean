import VmBridge.Fault
/-! Interface names: at most fifteen bytes, so that one byte of the kernel's sixteen is left
for the closing zero. -/
namespace VmBridge.Tap
open Text (Bytes)

def nameField : Nat := 16

def isForbidden (c : Char) : Bool :=
  c = '/' || c = ' ' || c = '\t' || c = '\n' || c = '\x0b' || c = '\x0c' || c = '\r'

def nameBytes (name : String) : Except Fault Bytes :=
  let bytes := Text.Utf8.encode name
  if nameField ≤ bytes.length ∨ bytes = [] then
    .error (.interfaceName name "interface name too long or short")
  else if name.toList.any isForbidden then
    .error (.interfaceName name "interface name contains an invalid character")
  else if name.toList.contains '\x00' then
    .error (.interfaceName name "interface name contains a NUL byte")
  else .ok bytes

def terminated (bytes : Bytes) : Bytes := bytes ++ [0]

def padded (bytes : Bytes) : Bytes := bytes ++ List.replicate (nameField - bytes.length) 0

theorem paddedLength {bytes : Bytes} (h : bytes.length ≤ nameField) :
    (padded bytes).length = nameField := by
  simp only [padded, List.length_append, List.length_replicate]
  omega

end VmBridge.Tap
