import VmBridge.Programs.Launch
import VmBridge.Verb.LinuxHost
/-! A Linux system kept in memory. Its one account is root, commands are programs of a tree of
files, and no file in the tree is a network device. -/
namespace VmBridge
open Text (Bytes)

def Programs.Userland.runner {σ : Type} (u : Programs.Userland) : Command.Runner HostCall σ :=
  Command.Spawner.runner ⟨.command, u.spawn⟩

namespace Rehearsal
open Programs (Userland)

def onlyRoot : Owner.Directory := fun name => if name = "root" then .found 0 else .absent

def accounts : Owner.Accounts := ⟨onlyRoot, onlyRoot, 0⟩

def driver (files : Files.Tree) : Tap.Driver HostCall Unit where
  recorded := .device
  openDevice := files.openFault?
  request _ s := (Errno.notATypewriter, s)

def linux (u : Userland) (controlDevice : String) : Linux HostCall Unit :=
  ⟨accounts, driver u.files, Text.Utf8.encode controlDevice, u.runner⟩

end Rehearsal
end VmBridge
