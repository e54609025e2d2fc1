import VmBridge.Proofs.Windows.Closing
/-! What is done on an open configuration. Reads come first; then the one path that was found is
set, and only if that succeeds is the change applied. -/
namespace VmBridge

def Fault.IsFinal (status : Int) (e : Fault) : Prop := e.exitCode = status ∧ e.isRetryable = false

namespace Binding
variable {κ σ π : Type}

end Binding

namespace Windows
open Binding

namespace Machine
variable {Q : List Call → Fault → Prop} (w : Machine)

theorem setEnabledYields (p : Path) (on : Bool) (s : Ahead) :
    Act.Yields Effect.call? (w.setEnabled p on) s [.enable p.index on]
      (if p.item.enable.fails then .error (.netConfig (w.describe p.item.enable)) else .ok ()) s :=
  Act.yieldsOk (Act.yieldsCall (Call.enable p.index on) s)
    (w.demandYields .netConfig p.item.enable s)

theorem applyChangesYields (s : Ahead) :
    Act.Yields Effect.call? w.applyChanges s [.apply]
      (if w.apply.fails then .error (.apply (w.describe w.apply)) else .ok ()) s := by
  have demanded := w.demandYields .apply w.apply s
  split
  · rename_i fails
    rw [if_pos fails] at demanded
    exact Act.yieldsOk (Act.yieldsCall _ s) (Act.yieldsError demanded)
  · rename_i applies
    rw [if_neg applies] at demanded
    exact Act.yieldsOk (Act.yieldsCall _ s) (Act.yieldsOk demanded (Act.yieldsQuiet rfl s))

end Machine

end Windows
end VmBridge
