/-! The calls that the Windows side makes, one line of text each. Objects of an enumeration
are known by their position in it. -/
namespace VmBridge.Windows

inductive ObjectClass where
  | sharingManager
  | netConfig
  deriving DecidableEq, Repr, Inhabited

def ObjectClass.text : ObjectClass → String
  | sharingManager => "5c63c1ad39564ff8848640034758315b 23"
  | netConfig => "5b03526140f911d1aaec00805fc1270e 1"

def readAccess : Nat := 131097

def adapterClass : String :=
  "SYSTEM\\CurrentControlSet\\Control\\Class\\\x7b4D36E972-E325-11CE-BFC1-08002BE10318\x7d"

def lockClient : String := "bindbridge"

inductive Call where
  | enterApartment
  | leaveApartment
  | freeString (units : Nat)
  | create (c : ObjectClass)
  | listConnections
  | enumerateConnections
  | asVariants
  | nextConnection (index : Nat)
  | asConnection (index : Nat)
  | properties (index : Nat)
  | guid (index : Nat)
  | sharingSettings (index : Nat)
  | sharingEnabled (index : Nat)
  | openClass
  | listKeys
  | openKey (name : String)
  | readValue (key value : String)
  | asLock
  | acquireLock (timeout : UInt32)
  | beginSession
  | findComponent (infId : String)
  | asBindings
  | enumeratePaths
  | nextPath (index : Nat)
  | pathToken (index : Nat)
  | enable (index : Nat) (on : Bool)
  | apply
  | endSession
  | releaseLock
  deriving DecidableEq, Repr

def Call.text : Call → String
  | enterApartment => "CoInitializeEx 2"
  | leaveApartment => "CoUninitialize"
  | freeString units => s!"CoTaskMemFree {units}"
  | create c => s!"CoCreateInstance {c.text}"
  | listConnections => "EnumEveryConnection"
  | enumerateConnections => "_NewEnum"
  | asVariants => "QueryInterface IEnumVARIANT"
  | nextConnection i => s!"Next 1 {i}"
  | asConnection i => s!"QueryInterface INetConnection {i}"
  | properties i => s!"get_NetConnectionProps {i}"
  | guid i => s!"Guid {i}"
  | sharingSettings i => s!"get_INetSharingConfigurationForINetConnection {i}"
  | sharingEnabled i => s!"SharingEnabled {i}"
  | openClass => s!"OpenKey HKLM {adapterClass} {readAccess}"
  | listKeys => "EnumKeys"
  | openKey name => s!"OpenKey class {name} {readAccess}"
  | readValue key value => s!"GetValue {key} {value}"
  | asLock => "QueryInterface INetCfgLock"
  | acquireLock timeout => s!"AcquireWriteLock {timeout.toNat} {lockClient}"
  | beginSession => "Initialize"
  | findComponent infId => s!"FindComponent {infId}"
  | asBindings => "QueryInterface INetCfgComponentBindings"
  | enumeratePaths => "EnumBindingPaths 2"
  | nextPath i => s!"NextPath 1 {i}"
  | pathToken i => s!"GetPathToken {i}"
  | enable i on => s!"Enable {i} {if on then 1 else 0}"
  | apply => "Apply"
  | endSession => "Uninitialize"
  | releaseLock => "ReleaseWriteLock"

end VmBridge.Windows
