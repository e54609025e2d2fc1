import VmBridge.Sharing.Adapter
import VmBridge.Windows.Machine
/-! Network adapters as the registry keeps them: one key for each below the adapter class. A
key that cannot be listed, opened or asked for its instance id is no adapter. All keys are
read before one is chosen. -/
namespace VmBridge.Windows
open Sharing (Adapter)

def instanceIdValue : String := "NetCfgInstanceId"
def devicePathValue : String := "DeviceInstanceID"

def RegistryKey.value? (k : RegistryKey) (value : String) : Option String :=
  (k.values.find? (·.1 = value)).map Prod.snd

def RegistryKey.read (k : RegistryKey) (name value : String) : WinAct (Option String) := do
  Act.call (.readValue name value)
  pure (k.value? value)

def RegistryKey.readAdapter (k : RegistryKey) (name : String) : WinAct (Option Adapter) := do
  match ← k.read name instanceIdValue with
  | none => pure none
  | some instanceId => do
    let devicePath ← k.read name devicePathValue
    Act.log .trace .registry s!"adapter {name} -> {instanceId} ({Text.quotedOption devicePath})"
    pure (some ⟨instanceId, devicePath⟩)

def RegistryKey.adapter (k : RegistryKey) : WinAct (Option Adapter) :=
  match k.name with
  | none => pure none
  | some name => do
    Act.call (.openKey name)
    if k.refusal.isSome then pure none else k.readAdapter name

def adaptersOf : List RegistryKey → WinAct (List Adapter)
  | [] => pure []
  | k :: rest => do
    let found ← k.adapter
    let more ← adaptersOf rest
    pure (found.toList ++ more)

namespace Machine

def adapters (w : Machine) : WinAct (List Adapter) := do
  Act.call .openClass
  match w.registry.refusal with
  | some reason => Act.fail (.sharing s!"can't open HKLM\\{adapterClass}: {reason}")
  | none => do
    Act.call .listKeys
    adaptersOf w.registry.keys

def instanceId (w : Machine) (deviceId : String) : WinAct (Option String) := do
  let found ← w.adapters
  pure (Sharing.matchAdapter found deviceId)

end Machine
end VmBridge.Windows
