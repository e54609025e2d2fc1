import VmBridge.Binding.Request
/-! Before which actions a device is checked for connection sharing. -/
namespace VmBridge.Sharing

inductive Policy where
  /-- Unbinding a shared connection does no new harm, so only binding is checked. -/
  | bind
  | always
  | off
  deriving DecidableEq, Repr, Inhabited

namespace Policy

def applies : Policy → Binding.Action → Bool
  | bind, action => action = .bind
  | always, _ => true
  | off, _ => false

theorem appliesGuard {p : Policy} {action : Binding.Action} :
    p.applies action = true ↔ p = .always ∨ p = .bind ∧ action = .bind := by
  cases p <;> simp [applies]

def all : List Policy := [bind, always, off]

def word : Policy → String
  | bind => "bind"
  | always => "always"
  | off => "off"

def ofWord? (s : String) : Option Policy := all.find? (·.word = s)

theorem ofWordWord (p : Policy) : ofWord? p.word = some p := by cases p <;> decide

end Policy
end VmBridge.Sharing
