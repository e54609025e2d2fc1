import VmBridge.Log.Level
import VmBridge.Sharing.Policy
/-! What a settings file can change, with the values that hold where it is silent. -/
namespace VmBridge

structure Tools where
  ip : String := "ip"
  ifconfig : String := "ifconfig"
  brctl : String := "brctl"
  tunDevice : String := "/dev/net/tun"
  deriving DecidableEq, Repr, Inhabited

structure BridgeSettings where
  infId : String := Binding.defaultBridge
  guard : Sharing.Policy := .bind
  lockTimeout : UInt32 := 5000
  deriving DecidableEq, Repr, Inhabited

structure Settings where
  logLevel : Log.Level := .warn
  tools : Tools := {}
  bridge : BridgeSettings := {}
  deriving DecidableEq, Repr, Inhabited

namespace Settings

def effectiveLevel (s : Settings) (steps : Nat) : Log.Level := s.logLevel.raised steps

def defaultPath (app : String) : String := s!"/etc/{app}/{app}.toml"

end Settings
end VmBridge
