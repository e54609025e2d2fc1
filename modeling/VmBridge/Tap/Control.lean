import VmBridge.Act
import VmBridge.Tap.Call
/-! A TUN control device attached to one interface. It is opened, and each step is one request to
the driver. A step gives back the control whether it was granted or not; one that fails leaves the
steps before it in place, and its fault lists them. -/
namespace VmBridge.Tap
open Text (Bytes)

inductive Access where
  | opening (device : Bytes)
  | request (call : Call)
  deriving DecidableEq, Repr

/-- How the system answers: what opening a device gives, and the error number, 0 for
success, that the next request to the driver ends with. -/
structure Driver (κ σ : Type) where
  recorded : Access → κ
  openDevice : Bytes → Option IoFault
  request : Call → σ → Int × σ

structure Control where
  interface : String
  applied : List TapStep
  deriving DecidableEq, Repr, Inhabited

inductive Setting where
  | owner (id : UInt32)
  | group (id : UInt32)
  | persist (on : Bool)
  deriving DecidableEq, Repr

namespace Setting

def step : Setting → TapStep
  | owner _ => .owner
  | group _ => .group
  | persist true => .persist
  | persist false => .unpersist

def call : Setting → Call
  | owner id => .owner id
  | group id => .group id
  | persist on => .persist on

end Setting

variable {κ σ : Type}

def stepList (steps : List TapStep) : String :=
  "[" ++ ", ".intercalate (steps.map TapStep.name) ++ "]"

namespace Control

def apply (d : Driver κ σ) (c : Control) (step : TapStep) (request : Call) :
    Act κ σ (Except Fault Unit × Control) := do
  Act.call (d.recorded (.request request))
  let errno ← Act.take (d.request request)
  if errno = 0 then
    Act.log .debug .tap s!"{step.title} on '{c.interface}' done"
    pure (.ok (), { c with applied := c.applied ++ [step] })
  else
    let failure := s!"failed after {stepList c.applied}: {Errno.titled errno}"
    Act.log .warn .tap s!"{step.title} on '{c.interface}' {failure}"
    pure (.error (.tapSetup c.interface step c.applied (.os (Errno.reported errno))), c)

def attach (d : Driver κ σ) (device : Bytes) (interface : String) : Act κ σ Control := do
  let bytes ← Act.ofExcept (nameBytes interface)
  Act.call (d.recorded (.opening device))
  match d.openDevice device with
  | some cause => Act.fail (.tapOpen device cause)
  | none => do
    let (result, c) ← apply d ⟨interface, []⟩ .attach (.attachTo bytes)
    Act.ofExcept result
    pure c

def set (d : Driver κ σ) (c : Control) (s : Setting) : Act κ σ (Except Fault Unit × Control) :=
  c.apply d s.step s.call

def setAll (d : Driver κ σ) (c : Control) : List Setting → Act κ σ Control
  | [] => pure c
  | s :: rest => do
    let (result, c') ← c.set d s
    Act.ofExcept result
    c'.setAll d rest

structure Tried (κ : Type) where
  result : Except Fault Unit
  control : Control
  trace : List (Effect κ)

/-- Settings in order, past those that fail. -/
def session (d : Driver κ σ) (c : Control) : List Setting → Act κ σ (List (Tried κ))
  | [] => pure []
  | s :: rest => do
    let ((result, c'), trace) ← (c.set d s).traced
    let later ← c'.session d rest
    pure (⟨result, c', trace⟩ :: later)

end Control

def creation (owner : UInt32) (group : Option UInt32) : List Setting :=
  [.owner owner] ++ (group.map Setting.group).toList ++ [.persist true]

def createPersistent (d : Driver κ σ) (device : Bytes) (interface : String)
    (owner : UInt32) (group : Option UInt32) : Act κ σ Unit := do
  let c ← Control.attach d device interface
  let _ ← c.setAll d (creation owner group)

def clearPersistent (d : Driver κ σ) (device : Bytes) (interface : String) : Act κ σ Unit := do
  let c ← Control.attach d device interface
  let _ ← c.setAll d [.persist false]

end VmBridge.Tap
