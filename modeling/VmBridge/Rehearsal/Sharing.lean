import VmBridge.Sharing.Guard
/-! An inspector that answers from a list, to rehearse the sharing guard without a system. -/
namespace VmBridge.Rehearsal
open Sharing

structure Connection where
  guid : Except Fault String
  shared : Except Fault Bool

structure Surroundings where
  adapters : Except Fault (List Adapter) := .ok []
  connections : Except Fault (List Connection) := .ok []

inductive Inspection where
  | connections
  | guid (index : Nat)
  | sharing (index : Nat)
  deriving DecidableEq, Repr

def Inspection.text : Inspection → String
  | connections => "connections"
  | guid i => s!"guid {i}"
  | sharing i => s!"sharing {i}"

variable {κ σ : Type}

def Surroundings.inspector (s : Surroundings) (recorded : Inspection → κ) :
    Inspector κ σ (Nat × Connection) where
  instanceId deviceId := Act.ofExcept (s.adapters.map (matchAdapter · deviceId))
  connections := do
    Act.call (recorded .connections)
    let found ← Act.ofExcept s.connections
    pure (found.zipIdx.map fun (c, i) => (i, c))
  guid := fun (i, c) => do
    Act.call (recorded (.guid i))
    Act.ofExcept c.guid
  isShared := fun (i, c) => do
    Act.call (recorded (.sharing i))
    Act.ofExcept c.shared

end VmBridge.Rehearsal
