import VmBridge.Sharing.Guard
import VmBridge.Windows.AdapterKeys
/-! Connections as the sharing manager lists them. A listing is all or nothing: one failure on
the way to the end loses the connections already seen. -/
namespace VmBridge.Windows

structure Connection where
  index : Nat
  item : ConnectionItem

namespace Machine

def createSharingManager (w : Machine) : WinAct Unit := w.createObject .sharing .sharingManager

def connectionOf (w : Machine) (index : Nat) (item : ConnectionItem) : WinAct Connection := do
  w.demand .sharing (if item.holdsObject then .done else .typeMismatch)
  Act.call (.asConnection index)
  w.demand .sharing item.asConnection
  pure ⟨index, item⟩

/-- The listing ends at the first pull that is not a plain success with something fetched. -/
def collectConnections (w : Machine) : Nat → List ConnectionItem → WinAct (List Connection)
  | index, [] => do
    Act.call (.nextConnection index)
    pure []
  | index, item :: rest => do
    Act.call (.nextConnection index)
    w.demand .sharing item.code
    if item.code = .done ∧ item.fetched ≠ 0 then do
      let c ← w.connectionOf index item
      let more ← w.collectConnections (index + 1) rest
      pure (c :: more)
    else pure []

def connectionList (w : Machine) : WinAct (List Connection) := do
  Act.call .listConnections
  w.demandObject .sharing w.listing
  Act.call .enumerateConnections
  w.demandObject .sharing w.enumeration
  Act.call .asVariants
  w.demand .sharing w.asVariants
  w.collectConnections 0 w.connections

def connectionGuid (w : Machine) (c : Connection) : WinAct String := do
  Act.call (.properties c.index)
  w.demandObject .sharing c.item.properties
  Act.call (.guid c.index)
  match c.item.guid with
  | .ok units => pure (Text.Utf16.lossy units)
  | .error code => Act.fail (.sharing (w.describe code))

def sharingEnabled (w : Machine) (c : Connection) : WinAct Bool := do
  Act.call (.sharingSettings c.index)
  w.demandObject .sharing c.item.settings
  Act.call (.sharingEnabled c.index)
  w.demand .sharing c.item.sharingCode
  pure (c.item.sharing != 0)

def inspector (w : Machine) : Sharing.Inspector Call Ahead Connection where
  instanceId := w.instanceId
  connections := w.connectionList
  guid := w.connectionGuid
  isShared := w.sharingEnabled

def ensureNotShared (w : Machine) (deviceId : String) : WinAct Unit := do
  w.createSharingManager
  Sharing.ensureNotShared w.inspector deviceId

end Machine

structure Listing where
  known : List Connection := []

def Listing.references (l : Listing) : Nat := 1 + l.known.length

end VmBridge.Windows
