import VmBridge.Errno
import VmBridge.Text.Utf8
/-! Everything that can end a request, with the text shown for it and the exit status it
leads to. -/
namespace VmBridge
open Text (Bytes)

inductive IoFault where
  | os (number : Int)
  | custom (text : String)
  deriving DecidableEq, Repr, Inhabited

def IoFault.message : IoFault → String
  | .os n => s!"{Errno.sentence n} (os error {n})"
  | .custom text => text

def IoFault.number? : IoFault → Option Int
  | .os n => some n
  | .custom _ => none

inductive TapStep where
  | attach
  | owner
  | group
  | persist
  | unpersist
  deriving DecidableEq, Repr, Inhabited

namespace TapStep

def title : TapStep → String
  | attach => "TUNSETIFF"
  | owner => "TUNSETOWNER"
  | group => "TUNSETGROUP"
  | persist => "enabling TUNSETPERSIST"
  | unpersist => "disabling TUNSETPERSIST"

def name : TapStep → String
  | attach => "Attach"
  | owner => "Owner"
  | group => "Group"
  | persist => "Persist"
  | unpersist => "Unpersist"

end TapStep

inductive Fault where
  | usage (line : String)
  | settings (text : String)
  | logger (text : String)
  | io (cause : IoFault)
  | interfaceName (name reason : String)
  | unknownUser (name : String)
  | unknownGroup (name : String)
  | spawn (command : String) (cause : IoFault)
  | commandFailed (command status stderr : String)
  | tapOpen (path : Bytes) (cause : IoFault)
  | tapSetup (interface : String) (step : TapStep) (applied : List TapStep) (cause : IoFault)
  | lockHeld (holder : String)
  | notifyObject (text : String)
  | componentNotFound (infId : String)
  | bindingEnumeration (text : String)
  | netConfig (text : String)
  | toggle (enable : Bool) (reason : String)
  | apply (text : String)
  | sharing (text : String)
  | sharedConnection (device : String)
  | unsupported (what : String)
  deriving DecidableEq, Repr, Inhabited

namespace Fault

def appliedNote (applied : List TapStep) : String :=
  if applied.isEmpty then ""
  else " (already applied: " ++ ", ".intercalate (applied.map TapStep.title) ++ ")"

def stderrNote (stderr : String) : String := if stderr = "" then "" else ": " ++ stderr

def message : Fault → String
  | usage line => line
  | settings text => "configuration error: " ++ text
  | logger text => "failed to initialize logging: " ++ text
  | io cause => cause.message
  | interfaceName name reason => s!"invalid interface name '{name}': {reason}"
  | unknownUser name => s!"'{name}' is neither a username nor a numeric uid."
  | unknownGroup name => s!"'{name}' is neither a group name nor a numeric gid."
  | spawn command cause => s!"failed to run `{command}`: {cause.message}"
  | commandFailed command status stderr =>
    s!"`{command}` failed with {status}" ++ stderrNote stderr
  | tapOpen path cause => s!"Failed to open '{Text.Utf8.lossy path}': {cause.message}"
  | tapSetup interface step applied cause =>
    s!"{step.title} on '{interface}' failed{appliedNote applied}: {cause.message}"
  | lockHeld holder => s!"{holder} currently holds the lock, try later."
  | notifyObject text => "Couldn't get the notify object interface: " ++ text
  | componentNotFound infId => s!"Couldn't get an interface pointer to {infId}."
  | bindingEnumeration text => "Couldn't get the binding path enumerator interface: " ++ text
  | netConfig text => "network configuration call failed: " ++ text
  | toggle enable reason =>
    "Failed to " ++ (if enable then "enable" else "disable") ++ " the binding path: " ++ reason
  | apply text => "Failed to apply changes to the binding path: " ++ text
  | sharing text => "couldn't inspect connection sharing: " ++ text
  | sharedConnection device =>
    s!"'{device}' is shared through Internet Connection Sharing; disable sharing before bridging it"
  | unsupported what => what ++ " is not supported on this platform"

def exitCode : Fault → Int
  | sharing _ => -1
  | sharedConnection _ => -2
  | _ => 1

def isRetryable : Fault → Bool
  | lockHeld _ => true
  | _ => false

def ofChain (outermostFirst : List String) : Fault :=
  settings (": ".intercalate outermostFirst)

end Fault
end VmBridge
