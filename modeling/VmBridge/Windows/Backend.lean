import VmBridge.Windows.Apartment
import VmBridge.Windows.NetSession
import VmBridge.Windows.SharingManager
/-! Binding on Windows. -/
namespace VmBridge.Windows.Machine

def backend (w : Machine) (lockTimeout : UInt32) : Binding.Backend Call Ahead Path where
  ensureNotShared := w.ensureNotShared
  openConfig := w.openSession lockTimeout

end VmBridge.Windows.Machine
