import VmBridge.Text.Utf8
/-! Paths as bytes: pieces between slashes. -/
namespace VmBridge.Files
open Text (Bytes)

def slash : UInt8 := 0x2F
def dot : UInt8 := 0x2E

def pieces : Bytes → List Bytes
  | [] => [[]]
  | b :: rest =>
    if b = slash then [] :: pieces rest
    else
      match pieces rest with
      | [] => [[b]]
      | piece :: more => (b :: piece) :: more

def fileName? (path : Bytes) : Option Bytes :=
  ((pieces path).filter fun piece => piece ≠ [] ∧ piece ≠ [dot]).getLast?.filter
    (· ≠ [dot, dot])

end VmBridge.Files
