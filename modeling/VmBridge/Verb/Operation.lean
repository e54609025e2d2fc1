import VmBridge.Act
import VmBridge.Command.Basic
import VmBridge.Settings.Basic
import VmBridge.Verb.Basic
/-! The one operation that each verb stands for. Operands go into it whole, whatever they
hold. -/
namespace VmBridge

structure TapRequest where
  name : String
  user : Option String
  group : Option String
  deriving DecidableEq, Repr, Inhabited

inductive Operation where
  | run (command : Command)
  | makeTap (request : TapRequest)
  | deleteTap (name : String)
  deriving DecidableEq, Repr, Inhabited

def Operation.quoted : Operation → String
  | run command => "Run(" ++ command.quoted ++ ")"
  | makeTap r =>
    "MakeTap(" ++ Verb.fields "TapRequest" [("name", Text.quoted r.name),
      ("user", Text.quotedOption r.user), ("group", Text.quotedOption r.group)] ++ ")"
  | deleteTap name => "DeleteTap(" ++ Text.quoted name ++ ")"

def Verb.plan (tools : Tools) : Verb → Operation
  | ifUp interface => .run ⟨tools.ip, ["link", "set", interface, "up", "promisc", "on"]⟩
  | ifDown interface => .run ⟨tools.ip, ["link", "set", interface, "down"]⟩
  | ifAddress interface address => .run ⟨tools.ifconfig, [interface, address]⟩
  | makeTap tap user group => .makeTap ⟨tap, some user, group⟩
  | deleteTap tap => .deleteTap tap
  | addToBridge bridge tap => .run ⟨tools.brctl, ["addif", bridge, tap]⟩
  | removeFromBridge bridge tap => .run ⟨tools.brctl, ["delif", bridge, tap]⟩

structure Host (κ σ : Type) where
  run : Command → Act κ σ Unit
  makeTap : TapRequest → Act κ σ Unit
  deleteTap : String → Act κ σ Unit

variable {κ σ : Type}

def Host.perform (h : Host κ σ) : Operation → Act κ σ Unit
  | .run command => h.run command
  | .makeTap request => h.makeTap request
  | .deleteTap name => h.deleteTap name

namespace Verb

def appName : String := "qemu-bridge"

def dispatch (h : Host κ σ) (tools : Tools) (verb : Verb) : Act κ σ Int := do
  let operation := verb.plan tools
  Act.log .debug .verbs s!"{verb.quoted} -> {operation.quoted}"
  match ← (h.perform operation).attempt with
  | .ok () => pure 0
  | .error e => do
    Act.log .error .verbs s!"{verb.quoted} failed: {e.message}"
    Act.complain s!"{appName}: {e.message}\n"
    pure e.exitCode

end Verb
end VmBridge
