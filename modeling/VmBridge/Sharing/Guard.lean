import VmBridge.Act
import VmBridge.Sharing.Adapter
/-! Refusing to bridge a device whose connection is shared. The first connection with a
readable GUID of the device's adapter decides; a device without an adapter or without a
connection passes. -/
namespace VmBridge.Sharing

structure Inspector (κ σ γ : Type) where
  instanceId : String → Act κ σ (Option String)
  connections : Act κ σ (List γ)
  guid : γ → Act κ σ String
  isShared : γ → Act κ σ Bool

variable {κ σ γ : Type}

def Inspector.findConnection (i : Inspector κ σ γ) (instanceId : String) :
    List γ → Act κ σ (Option (γ × String))
  | [] => pure none
  | c :: rest => do
    match ← (i.guid c).attempt with
    | .ok guid =>
      if sameGuid guid instanceId then pure (some (c, guid))
      else i.findConnection instanceId rest
    | .error e => do
      Act.log .debug .sharing s!"skipping connection without readable GUID: {e.message}"
      i.findConnection instanceId rest

def Inspector.checkConnections (i : Inspector κ σ γ) (deviceId instanceId : String) :
    Act κ σ Unit := do
  let connections ← i.connections
  match ← i.findConnection instanceId connections with
  | none => Act.log .debug .sharing s!"no connection matches {instanceId}; nothing to guard"
  | some (c, guid) => do
    let shared ← i.isShared c
    if shared then
      Act.log .warn .sharing s!"connection {guid} of {deviceId} has sharing enabled"
      Act.fail (.sharedConnection deviceId)
    else pure ()

def ensureNotShared (i : Inspector κ σ γ) (deviceId : String) : Act κ σ Unit := do
  match ← i.instanceId deviceId with
  | none => Act.log .debug .sharing s!"no adapter key matches {deviceId}; nothing to guard"
  | some instanceId => do
    Act.log .debug .sharing s!"device {deviceId} has instance id {instanceId}"
    i.checkConnections deviceId instanceId

end VmBridge.Sharing
