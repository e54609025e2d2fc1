import VmBridge.Act
import VmBridge.Text.Utf16
import VmBridge.Windows.Call
/-! Strings that the system hands over. Whoever takes one frees it once; a null pointer has
nothing to free. -/
namespace VmBridge.Windows

abbrev SystemString := Option (List UInt16)

namespace SystemString
variable {σ α : Type}

def text : SystemString → String
  | none => ""
  | some units => Text.Utf16.lossy (Text.Utf16.upToZero units)

def free : SystemString → Act Call σ Unit
  | none => pure ()
  | some units => Act.call (.freeString (units.length + 1))

end SystemString
end VmBridge.Windows
