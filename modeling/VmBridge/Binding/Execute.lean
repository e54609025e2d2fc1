import VmBridge.Binding.Request
import VmBridge.Binding.Search
import VmBridge.Sharing.Policy
/-! Carrying out a binding request: check for sharing where the policy asks for it, open the
configuration, find the path, toggle it, apply, and close whatever became of it. -/
namespace VmBridge.Binding
variable {κ σ π : Type}

def NetConfig.toggle (c : NetConfig κ σ π) (infId token : String) (enable : Bool) :
    Act κ σ Unit := do
  let paths ← c.below infId
  match ← findPath c.token token paths with
  | none => Act.fail (.toggle enable s!"no binding path matches {token}")
  | some path => do
    (c.setEnabled path enable).mapFault fun e => .toggle enable e.message
    c.apply

namespace Backend

def toggle (b : Backend κ σ π) (infId token : String) (enable : Bool) : Act κ σ Unit := do
  let c ← b.openConfig
  (c.toggle infId token enable).closing c.close

def check (b : Backend κ σ π) (policy : Sharing.Policy) (r : Request) : Act κ σ Unit :=
  if policy.applies r.action then b.ensureNotShared r.deviceId else pure ()

def execute (b : Backend κ σ π) (policy : Sharing.Policy) (r : Request) : Act κ σ Unit := do
  b.check policy r
  b.toggle r.infId r.token r.action.enables

end Backend

def toolName : String := "bindbridge"

def Request.announcement (r : Request) : String :=
  match r.action with
  | .bind => s!"Binding {r.deviceId} to bridge...\n"
  | .unbind => s!"Unbinding {r.deviceId} from bridge...\n"

def Request.completion (r : Request) : String :=
  match r.action with
  | .bind => s!"Device {r.deviceId} bound to bridge.\n"
  | .unbind => s!"Device {r.deviceId} unbound from bridge.\n"

def retryNote : String := s!"No change was made; run {toolName} again once the lock is released.\n"

def Backend.dispatch (b : Backend κ σ π) (policy : Sharing.Policy) (r : Request) :
    Act κ σ Int := do
  Act.print r.announcement
  match ← (b.execute policy r).attempt with
  | .ok () => do
    Act.print r.completion
    pure 0
  | .error e => do
    Act.log .error .binding s!"{r.action.word} {r.deviceId} failed: {e.message}"
    Act.complain (e.message ++ "\n")
    if e.isRetryable then Act.complain retryNote else pure ()
    pure e.exitCode

end VmBridge.Binding
