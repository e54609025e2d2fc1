import VmBridge.Proofs.Binding.Dispatch
import VmBridge.Proofs.Windows.Guarding
/-! What the exit status tells of a run: whether the change was made, whether the guard found
sharing or could not look, and whether it is worth trying again. -/
namespace VmBridge.Windows
open Binding

def Call.sets : Call → Bool
  | enable _ _ => true
  | _ => false

namespace Machine
variable (w : Machine)

end Machine

section Blamed
variable {w : Machine} {timeout : UInt32}

end Blamed

section Opening
variable {w : Machine} {timeout : UInt32} {calls : List Call} {result : Except Fault Unit}

end Opening

section Executed
variable {w : Machine} {timeout : UInt32} {policy : Sharing.Policy} {r : Request} {s : Ahead}
variable {calls : List Call} {result : Except Fault Unit}

end Executed

section Executed
variable {w : Machine} {timeout : UInt32} {policy : Sharing.Policy} {r : Request} {s : Ahead}
variable {calls : List Call} {result : Except Fault Unit}

end Executed

namespace Machine
variable (w : Machine)

end Machine

end VmBridge.Windows
