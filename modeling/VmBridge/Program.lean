import VmBridge.CommandLine.Help
import VmBridge.Log.Logger
import VmBridge.Rehearsal.Linux
import VmBridge.Settings.Load
/-! One run of a tool, from its arguments to its exit status. Records show from the moment the
settings are known; what was logged before is lost. -/
namespace VmBridge
open Text (Bytes)
open CommandLine (Tool Options VerbCall BindCall)

structure Program where
  tool : Tool
  argv : List Bytes
  userland : Programs.Userland
  logFilter : Option String := none

structure Finished where
  status : Nat
  stdout : Bytes
  stderr : Bytes
  deriving DecidableEq, Repr

namespace Program
variable {κ σ : Type}

def exitByte (status : Int) : Nat := (status % 256).toNat

def shownOnStderr (logger : Option Log.Logger) : Effect κ → Bytes
  | .err bytes => bytes
  | .log r => ((logger.bind (·.line? r)).map Text.Utf8.encode).getD []
  | _ => []

def finished (logger : Option Log.Logger) (r : Ran κ σ Int) : Finished :=
  let stderr := r.trace.flatMap (shownOnStderr logger)
  match r.result with
  | .ok status => ⟨exitByte status, Trace.stdout r.trace, stderr⟩
  | .error e => ⟨exitByte e.exitCode, Trace.stdout r.trace, stderr⟩

def logger (p : Program) (options : Options) (s : Settings) : Log.Logger × List String :=
  let filter := Log.Filter.ofLevel (s.effectiveLevel options.verbose)
  match Log.Sink.ofFlag options.syslog, p.logFilter with
  | .stderr, some directives =>
    let (overridden, warnings) := filter.overridden directives
    (⟨.stderr, overridden⟩, warnings)
  | sink, _ => (⟨sink, filter⟩, [])

def fallbackPath (p : Program) : Bytes := Text.Utf8.encode (Settings.defaultPath p.tool.name)

def settingsPath? (p : Program) : Option Bytes :=
  let options := match p.tool with
    | .verbs => (VerbCall.ofArgv p.argv).toOption.map VerbCall.options
    | .binding => (BindCall.ofArgv p.argv).toOption.map BindCall.options
  options.map fun o => o.config.getD p.fallbackPath

def configured (p : Program) (options : Options) (body : Settings → Act HostCall Unit Int) :
    Finished :=
  match Settings.load p.userland.files options.config p.fallbackPath with
  | .error e => ⟨1, [], Text.Utf8.encode s!"{p.tool.name}: {e.message}\n"⟩
  | .ok s =>
    let (logger, warnings) := p.logger options s
    let f := finished (some logger) ((body s).run ())
    { f with stderr := Text.Utf8.encode (String.join warnings) ++ f.stderr }

def ended (p : Program) (e : CommandLine.Ending) : Finished :=
  finished none ((e.answer p.tool p.argv : Act HostCall Unit Int).run ())

def runVerbs (p : Program) : Finished :=
  match VerbCall.ofArgv p.argv with
  | .error e => p.ended e
  | .ok call =>
    p.configured call.options fun s =>
      call.verb.dispatch (Rehearsal.linux p.userland s.tools.tunDevice).host s.tools

def withoutBackend : Act HostCall Unit Int := do
  let e := Fault.unsupported Tool.binding.name
  Act.complain s!"{Tool.binding.name}: {e.message}\n"
  pure e.exitCode

def bindRequest (operands : List String) (s : Settings) : Act HostCall Unit Int :=
  match Binding.Request.ofOperands s.bridge.infId operands with
  | .ok _ => withoutBackend
  | .error e => do
    Act.print (e.message ++ "\n")
    pure e.exitCode

def runBinding (p : Program) : Finished :=
  match BindCall.ofArgv p.argv with
  | .error e => p.ended e
  | .ok call => p.configured call.options (bindRequest call.operands)

def run (p : Program) : Finished :=
  match p.tool with
  | .verbs => p.runVerbs
  | .binding => p.runBinding

end Program
end VmBridge
