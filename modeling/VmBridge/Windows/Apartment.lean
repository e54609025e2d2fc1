import VmBridge.Windows.Machine
/-! The apartment in which a thread may use objects of the system. A success code of any kind
enters it, and each entry is left once. -/
namespace VmBridge.Windows.Machine

def enterApartment (w : Machine) : WinAct Unit := do
  Act.call .enterApartment
  let code ← Act.take Ahead.takeApartment
  w.demand .notifyObject code

def leaveApartment : WinAct Unit := Act.call .leaveApartment

def inApartment {α : Type} (w : Machine) (body : WinAct α) : WinAct α := do
  w.enterApartment
  body.closing leaveApartment

end VmBridge.Windows.Machine
