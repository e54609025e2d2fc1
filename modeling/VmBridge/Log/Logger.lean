import VmBridge.Fault
import VmBridge.Log.Filter
import VmBridge.Text.Controls
/-! The logger of a process: set once, and it decides what becomes of records. -/
namespace VmBridge.Log

structure Logger where
  sink : Sink
  filter : Filter

def alreadySet : String :=
  "attempted to set a logger after the logging system was already initialized"

def install (slot : Option Logger) (logger : Logger) : Except Fault Logger :=
  match slot with
  | none => .ok logger
  | some _ => .error (.logger alreadySet)

def Logger.line? (l : Logger) (r : Record) : Option String :=
  match l.sink with
  | .stderr => if l.filter.passes r then some (Text.withoutControls r.line) else none
  | .syslog => none

end VmBridge.Log
