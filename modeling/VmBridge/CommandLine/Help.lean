import VmBridge.Act
import VmBridge.Binding.Request
import VmBridge.CommandLine.BindCall
import VmBridge.CommandLine.VerbCall
import VmBridge.Files.Path
import VmBridge.Text.Controls
import VmBridge.Verb.Operation
/-! The texts that end a program before it does anything: help, version and the usage line. -/
namespace VmBridge.CommandLine
open Text (Bytes)

inductive Tool where
  | verbs
  | binding
  deriving DecidableEq, Repr, Inhabited

def Tool.name : Tool → String
  | verbs => Verb.appName
  | binding => "bindbridge"

def verbUsageLine : String :=
  "Usage: qemu-bridge ifup <interface> | ifdown <interface> | ifaddress <interface> <address> | " ++
  "mktap <tapname> <user> [group] | deltap <tapname> | addtobr <br> <tap> | delfrombr <br> <tap>"

def Tool.usageLine : Tool → String
  | verbs => verbUsageLine
  | binding => Binding.usageLine

def Tool.version (t : Tool) : String := t.name ++ " 0.1.0\n"

def shownName? (argv : List Bytes) : Option String :=
  (argv.head?.bind Files.fileName?).bind Text.Utf8.decode?

def about : String :=
  "Host-side helpers for attaching virtual machine interfaces to network bridges"

def padTo (width : Nat) (s : String) : String := s.pushn ' ' (width - s.length)

def columns (rows : List (String × String)) : String :=
  let width := rows.foldl (fun w row => max w row.1.length) 0
  String.join (rows.map fun (left, right) => "  " ++ padTo width left ++ "  " ++ right ++ "\n")

def configRow : String × String := ("-c, --config <CONFIG>", "Configuration file")
def syslogRow : String × String := ("    --syslog", "Log to syslog instead of stderr")
def verboseRow : String × String := ("-v, --verbose...", "Raise the log level (repeatable)")
def helpRow : String × String := ("-h, --help", "Print help")
def versionRow : String × String := ("-V, --version", "Print version")

def verbToolHelp (name : String) : String :=
  about ++ "\n\nUsage: " ++ Text.withoutControls name ++ " [OPTIONS] <COMMAND>\n\nCommands:\n" ++
    columns (Verb.Kind.all.map fun k => (k.word, k.summary)) ++
    "\nOptions:\n" ++ columns [configRow, syslogRow, verboseRow, helpRow, versionRow]

def bindingToolHelp (name : String) : String :=
  about ++ "\n\nUsage: " ++ Text.withoutControls name ++ " [OPTIONS] <OPERAND> <OPERAND>...\n\nArguments:\n" ++
    columns [("<OPERAND> <OPERAND>...", "[<bridgeId>] <deviceId> <bind|unbind>")] ++
    "\nOptions:\n" ++ columns [configRow, verboseRow, helpRow, versionRow]

def bracketed : String × Bool → String
  | (name, true) => "<" ++ name ++ ">"
  | (name, false) => "[" ++ name ++ "]"

def verbHelp (name : Option String) (k : Verb.Kind) : String :=
  let title := Text.withoutControls (" ".intercalate (name.toList ++ [k.word]))
  let words := title :: k.operands.map bracketed
  k.summary ++ "\n\nUsage: " ++ " ".intercalate words ++ "\n\nArguments:\n" ++
    columns (k.operands.map fun operand => (bracketed operand, "")) ++
    "\nOptions:\n" ++ columns [helpRow]

def Tool.help (t : Tool) (name : Option String) : String :=
  match t with
  | verbs => verbToolHelp (name.getD t.name)
  | binding => bindingToolHelp (name.getD t.name)

namespace Ending
variable {κ σ : Type}

def answer (tool : Tool) (argv : List Bytes) : Ending → Act κ σ Int
  | help none => do
    Act.print (tool.help (shownName? argv))
    pure 0
  | help (some kind) => do
    Act.print (verbHelp (shownName? argv) kind)
    pure 0
  | version => do
    Act.print tool.version
    pure 0
  | bare => do
    Act.log .debug .verbs (tool.help (shownName? argv))
    Act.print (tool.usageLine ++ "\n")
    pure 1
  | refused => do
    Act.print (tool.usageLine ++ "\n")
    pure 1

end Ending

def reading {κ σ α : Type} (tool : Tool) (argv : List Bytes) (call : Except Ending α) :
    Act κ σ (Except Int α) :=
  match call with
  | .ok c => pure (.ok c)
  | .error e => do
    let status ← e.answer tool argv
    pure (.error status)

def runVerb {κ σ : Type} (host : Host κ σ) (tools : Tools) (argv : List Bytes) :
    Act κ σ Int := do
  match ← reading .verbs argv (VerbCall.ofArgv argv) with
  | .ok call => call.verb.dispatch host tools
  | .error status => pure status

end VmBridge.CommandLine
