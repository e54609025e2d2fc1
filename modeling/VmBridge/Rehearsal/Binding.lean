import VmBridge.Binding.Execute
import VmBridge.Rehearsal.Sharing
/-! A network configuration kept in memory, to rehearse binding requests. A change is pending
until it is applied, and closing drops what is still pending. -/
namespace VmBridge.Rehearsal
open Binding

inductive Item where
  | path (token : Except Fault String) (refusal : Option Fault) (enabled : Bool)
  | failure (e : Fault)

def Item.enabled : Item → Bool
  | path _ _ enabled => enabled
  | failure _ => false

inductive Step where
  | guard (deviceId : String)
  | inspect (i : Inspection)
  | openConfig
  | below (infId : String)
  | next (index : Nat)
  | token (index : Nat)
  | toggle (index : Nat) (enable : Bool)
  | apply
  | close
  deriving DecidableEq, Repr

def Step.text : Step → String
  | guard deviceId => s!"guard {deviceId}"
  | inspect i => i.text
  | openConfig => "open"
  | below infId => s!"below {infId}"
  | next i => s!"next {i}"
  | token i => s!"token {i}"
  | toggle i true => s!"enable {i}"
  | toggle i false => s!"disable {i}"
  | apply => "apply"
  | close => "close"

structure Path where
  infId : String
  index : Nat
  token : Except Fault String
  refusal : Option Fault

structure Change where
  infId : String
  index : Nat
  enable : Bool
  deriving DecidableEq, Repr

structure Stage where
  components : List (String × List Item)
  surroundings : Surroundings := {}
  opens : List (Option Fault) := []
  applies : List (Option Fault) := []
  committed : List (String × List Bool) := []
  pending : List Change := []

namespace Stage

def enabledAtFirst (components : List (String × List Item)) : List (String × List Bool) :=
  components.map fun (infId, items) => (infId, items.map Item.enabled)

def takeOpen (s : Stage) : Option Fault × Stage :=
  (s.opens.head?.join, { s with opens := s.opens.tail })

def takeApply (s : Stage) : Option Fault × Stage :=
  (s.applies.head?.join, { s with applies := s.applies.tail })

def commitOne (states : List (String × List Bool)) (c : Change) : List (String × List Bool) :=
  states.map fun (infId, flags) =>
    if infId = c.infId then (infId, flags.set c.index c.enable) else (infId, flags)

def commit (s : Stage) : Stage :=
  { s with committed := s.pending.foldl commitOne s.committed, pending := [] }

end Stage

abbrev StageAct (α : Type) := Act Step Stage α

def failing : Option Fault → StageAct Unit
  | none => pure ()
  | some e => Act.fail e

def pullOf (infId : String) (index : Nat) (item : Item) : StageAct (Option Path) := do
  Act.call (.next index)
  match item with
  | .path token refusal _ => pure (some ⟨infId, index, token, refusal⟩)
  | .failure e => Act.fail e

def enumeration (infId : String) (items : List Item) : Enumeration Step Stage Path :=
  items.zipIdx.map fun (item, index) => pullOf infId index item

def readToken (p : Path) : StageAct String := do
  Act.call (.token p.index)
  Act.ofExcept p.token

def netConfig : NetConfig Step Stage Path where
  below infId := do
    Act.call (.below infId)
    let s ← Act.get
    match s.components.find? (·.1 = infId) with
    | some (_, items) => pure (enumeration infId items)
    | none => Act.fail (.componentNotFound infId)
  token := readToken
  setEnabled p enable := do
    Act.call (.toggle p.index enable)
    failing p.refusal
    Act.modify fun s => { s with pending := s.pending ++ [⟨p.infId, p.index, enable⟩] }
  apply := do
    Act.call .apply
    let refusal ← Act.take Stage.takeApply
    failing refusal
    Act.modify Stage.commit
  close := do
    Act.call .close
    Act.modify fun s => { s with pending := [] }

def backend : Backend Step Stage Path where
  ensureNotShared deviceId := do
    Act.call (.guard deviceId)
    let s ← Act.get
    Sharing.ensureNotShared (s.surroundings.inspector .inspect) deviceId
  openConfig := do
    Act.call .openConfig
    let refusal ← Act.take Stage.takeOpen
    failing refusal
    pure netConfig

end VmBridge.Rehearsal
