import VmBridge.Binding.Execute
import VmBridge.Windows.Machine
/-! A session on the network configuration: the write lock is taken, then the configuration is
opened, and closing undoes both in turn. A close that fails is only warned of. -/
namespace VmBridge.Windows
open Binding

def unknownHolder : String := "another application"

structure Path where
  index : Nat
  item : PathItem

namespace Machine

/-- A holder that is named holds the lock, even where the call itself succeeds. -/
def lockOutcome (w : Machine) : Except Fault Unit :=
  if w.lock = .noWriteLock then
    .error (.lockHeld (if w.lockHolder.isNone then unknownHolder else w.lockHolder.text))
  else if w.lock.fails then .error (.notifyObject (w.describe w.lock))
  else if w.lockHolder.isSome then .error (.lockHeld w.lockHolder.text)
  else .ok ()

def acquireLock (w : Machine) (timeout : UInt32) : WinAct Unit := do
  Act.call (.acquireLock timeout)
  (Act.ofExcept w.lockOutcome).closing w.lockHolder.free

def releaseLock (w : Machine) : WinAct Unit := do
  Act.call .releaseLock
  if w.release.fails then
    Act.log .warn .netConfig s!"INetCfgLock::ReleaseWriteLock failed: {w.describe w.release}"
  else pure ()

def beginSession (w : Machine) : WinAct Unit := do
  Act.call .beginSession
  w.demand .notifyObject w.beginning

def endSession (w : Machine) : WinAct Unit := do
  Act.call .endSession
  if w.ending.fails then
    Act.log .warn .netConfig s!"INetCfg::Uninitialize failed: {w.describe w.ending}"
  else pure ()

def closeSession (w : Machine) : WinAct Unit := do
  w.endSession
  w.releaseLock

def findComponent (w : Machine) (infId : String) : WinAct Component := do
  Act.call (.findComponent infId)
  match w.component infId with
  | none => Act.fail (.componentNotFound infId)
  | some c =>
    if c.code.fails then do
      Act.log .debug .netConfig s!"FindComponent({infId}) failed: {w.describe c.code}"
      Act.fail (.componentNotFound infId)
    else if c.absent then Act.fail (.componentNotFound infId)
    else pure c

def pullPath (w : Machine) (index : Nat) (item : PathItem) : WinAct (Option Path) := do
  Act.call (.nextPath index)
  w.demand .bindingEnumeration item.code
  pure (if item.code = .done ∧ !item.absent then some ⟨index, item⟩ else none)

def pullEnd (index : Nat) : WinAct (Option Path) := do
  Act.call (.nextPath index)
  pure none

def pathsFrom (w : Machine) : Nat → List PathItem → Enumeration Call Ahead Path
  | index, [] => [pullEnd index]
  | index, item :: rest => w.pullPath index item :: w.pathsFrom (index + 1) rest

def pathsBelow (w : Machine) (infId : String) : WinAct (Enumeration Call Ahead Path) := do
  let c ← w.findComponent infId
  Act.call .asBindings
  w.demand .bindingEnumeration c.asBindings
  Act.call .enumeratePaths
  w.demandObject .bindingEnumeration c.enumeration
  pure (w.pathsFrom 0 c.paths)

def pathToken (w : Machine) (p : Path) : WinAct String := do
  Act.call (.pathToken p.index)
  w.demand .netConfig p.item.tokenCode
  p.item.token.free
  pure p.item.token.text

def setEnabled (w : Machine) (p : Path) (on : Bool) : WinAct Unit := do
  Act.call (.enable p.index on)
  w.demand .netConfig p.item.enable

def applyChanges (w : Machine) : WinAct Unit := do
  Act.call .apply
  w.demand .apply w.apply
  Act.log .info .netConfig "binding changes applied"

def netConfig (w : Machine) : NetConfig Call Ahead Path where
  below := w.pathsBelow
  token := w.pathToken
  setEnabled := w.setEnabled
  apply := w.applyChanges
  close := w.closeSession

def openSession (w : Machine) (timeout : UInt32) : WinAct (NetConfig Call Ahead Path) := do
  w.createObject .notifyObject .netConfig
  Act.call .asLock
  w.demand .notifyObject w.asLock
  w.acquireLock timeout
  w.beginSession.undoing w.releaseLock
  Act.log .debug .netConfig "network configuration locked and initialized"
  pure w.netConfig

end Machine
end VmBridge.Windows
