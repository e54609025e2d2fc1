import VmBridge.Command.Checked
import VmBridge.Owner.Accounts
import VmBridge.Tap.Control
import VmBridge.Verb.Operation
/-! The Linux host: commands run as child processes, TAP devices are set up through their
control device. -/
namespace VmBridge
open Text (Bytes)

inductive HostCall where
  | device (access : Tap.Access)
  | command (c : Command)
  deriving DecidableEq, Repr

def HostCall.device? : HostCall → Option Tap.Call
  | device (.request call) => some call
  | device (.opening _) | command _ => none

def HostCall.command? : HostCall → Option Command
  | device _ => none
  | command c => some c

structure Linux (κ σ : Type) where
  accounts : Owner.Accounts
  driver : Tap.Driver κ σ
  controlDevice : Bytes
  runner : Command.Runner κ σ

namespace Linux
variable {κ σ : Type}

def run (l : Linux κ σ) (c : Command) : Act κ σ Unit := do
  let output ← Command.runChecked l.runner c
  Act.write output.stdout
  Act.emit (.err output.stderr)

def ownedLine (name : String) (owner : Owner.Id) : Option Owner.Id → String
  | some group => s!"Set '{name}' persistent and owned by uid {owner} gid {group}\n"
  | none => s!"Set '{name}' persistent and owned by uid {owner}\n"

def makeTap (l : Linux κ σ) (r : TapRequest) : Act κ σ Unit := do
  let owner ← l.accounts.owner r.user
  let group ← l.accounts.group? r.group
  Tap.createPersistent l.driver l.controlDevice r.name owner group
  Act.print (ownedLine r.name owner group)

def deleteTap (l : Linux κ σ) (name : String) : Act κ σ Unit := do
  Tap.clearPersistent l.driver l.controlDevice name
  Act.print s!"Set '{name}' nonpersistent\n"

def host (l : Linux κ σ) : Host κ σ := ⟨l.run, l.makeTap, l.deleteTap⟩

def answering (accounts : Owner.Accounts) (controlDevice : Bytes)
    (openDevice : Bytes → Option IoFault) (request : Tap.Call → σ → Int × σ)
    (spawn : Command → σ → Except IoFault Command.Output × σ) : Linux HostCall σ where
  accounts
  driver := ⟨.device, openDevice, request⟩
  controlDevice
  runner := Command.Spawner.runner ⟨.command, spawn⟩

end Linux
end VmBridge
