import VmBridge.Act
import VmBridge.Command.Basic
import VmBridge.Command.Status
import VmBridge.Text.Blank
/-! Running a command to its end and refusing every end but success. -/
namespace VmBridge.Command
open Text (Bytes)

structure Output where
  status : WaitStatus
  stdout : Bytes
  stderr : Bytes
  deriving DecidableEq, Repr, Inhabited

abbrev Runner (κ σ : Type) := Command → Act κ σ Output

def complaint (stderr : Bytes) : String := Text.trim (Text.Utf8.lossy stderr)

variable {κ σ : Type}

structure Spawner (κ σ : Type) where
  recorded : Command → κ
  spawn : Command → σ → Except IoFault Output × σ

def Spawner.runner (p : Spawner κ σ) : Runner κ σ := fun c => do
  Act.log .debug .command s!"running `{c.line}`"
  Act.call (p.recorded c)
  match ← Act.take (p.spawn c) with
  | .ok output => pure output
  | .error cause => Act.fail (.spawn c.line cause)

def runChecked (runner : Runner κ σ) (c : Command) : Act κ σ Output := do
  let output ← runner c
  if output.status.isSuccess then pure output
  else
    Act.log .warn .command s!"`{c.line}` exited with {output.status.text}"
    Act.fail (.commandFailed c.line output.status.text (complaint output.stderr))

end VmBridge.Command
