import VmBridge.Fault
/-! A request to bind a device to a bridge component, or to take the binding away. -/
namespace VmBridge.Binding

inductive Action where
  | bind
  | unbind
  deriving DecidableEq, Repr, Inhabited

def usageLine : String := "Usage: bindbridge [<bridgeId>] <deviceId> <bind|unbind>"

namespace Action

def word : Action → String
  | bind => "bind"
  | unbind => "unbind"

def enables : Action → Bool
  | bind => true
  | unbind => false

theorem enablesBind (a : Action) : a.enables = decide (a = .bind) := by cases a <;> rfl

def ofWord (s : String) : Except Fault Action :=
  if s = "bind" then .ok bind
  else if s = "unbind" then .ok unbind
  else .error (.usage usageLine)

theorem ofWordWord (a : Action) : ofWord a.word = .ok a := by cases a <;> rfl

end Action

def defaultBridge : String := "ms_bridge"

def pathToken (infId deviceId : String) : String := infId ++ "->" ++ deviceId

structure Request where
  infId : String
  deviceId : String
  action : Action
  deriving DecidableEq, Repr, Inhabited

namespace Request

def ofOperands (fallback : String) : List String → Except Fault Request
  | [device, action] => (Action.ofWord action).map (⟨fallback, device, ·⟩)
  | [infId, device, action] => (Action.ofWord action).map (⟨infId, device, ·⟩)
  | _ => .error (.usage usageLine)

def token (r : Request) : String := pathToken r.infId r.deviceId

end Request
end VmBridge.Binding
