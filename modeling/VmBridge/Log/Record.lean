import VmBridge.Log.Level
/-! Log records, and the line a record makes on a stream. -/
namespace VmBridge.Log

inductive Origin where
  | verbs
  | binding
  | command
  | owner
  | tap
  | sharing
  | netConfig
  | registry
  deriving DecidableEq, Repr, Inhabited

def Origin.target : Origin → String
  | verbs => "bridge_tools::bridge"
  | binding => "bridge_tools::bind"
  | command => "bridge_tools::command"
  | owner => "bridge_tools::owner"
  | tap => "bridge_tools::tap"
  | sharing => "bridge_tools::sharing"
  | netConfig => "bridge_tools::win32::netcfg"
  | registry => "bridge_tools::win32::registry"

structure Record where
  level : Level
  origin : Origin
  message : String
  deriving DecidableEq, Repr, Inhabited

def indented (message : String) : String :=
  String.ofList (message.toList.flatMap fun c => if c = '\n' then "\n    ".toList else [c])

def Record.line (r : Record) : String :=
  let title := r.level.title
  let column := title.pushn ' ' (5 - title.length)
  s!"[{column} {r.origin.target}] {indented r.message}\n"

def upTo (threshold : Level) (records : List Record) : List Record :=
  records.filter (fun r => decide (r.level ≤ threshold))

inductive Sink where
  | stderr
  | syslog
  deriving DecidableEq, Repr, Inhabited

def Sink.ofFlag (syslog : Bool) : Sink := if syslog then .syslog else .stderr

end VmBridge.Log
