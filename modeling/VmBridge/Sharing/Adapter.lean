import VmBridge.Sharing.Guid
/-! Network adapters as the registry lists them, and the one a device id means. -/
namespace VmBridge.Sharing

structure Adapter where
  instanceId : String
  devicePath : Option String
  deriving DecidableEq, Repr, Inhabited

def Adapter.isMeantBy (a : Adapter) (deviceId : String) : Bool :=
  a.devicePath.any (Text.equalIgnoringCase · deviceId) || sameGuid a.instanceId deviceId

def matchAdapter (adapters : List Adapter) (deviceId : String) : Option String :=
  (adapters.find? (·.isMeantBy deviceId)).map Adapter.instanceId

end VmBridge.Sharing
