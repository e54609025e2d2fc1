import VmBridge.Act
import VmBridge.Windows.Code
import VmBridge.Windows.SystemString
/-! What a Windows system answers to the calls made of it. Starting up and creating objects
may answer differently each time, so those answers are used up in turn; all else keeps its
answer. -/
namespace VmBridge.Windows

structure ConnectionItem where
  code : Code := .done
  fetched : Nat := 1
  holdsObject : Bool := true
  asConnection : Code := .done
  properties : Reply := .code .done
  settings : Reply := .code .done
  guid : Except Code (List UInt16) := .ok []
  sharingCode : Code := .done
  sharing : Int16 := 0

structure RegistryKey where
  name : Option String
  refusal : Option String := none
  values : List (String × String) := []

structure Registry where
  refusal : Option String := none
  keys : List RegistryKey := []

structure PathItem where
  code : Code := .done
  absent : Bool := false
  tokenCode : Code := .done
  token : SystemString := none
  enable : Code := .done

structure Component where
  code : Code := .done
  absent : Bool := false
  asBindings : Code := .done
  enumeration : Reply := .code .done
  paths : List PathItem := []

structure Machine where
  messages : Code → String := fun _ => ""
  listing : Reply := .code .done
  enumeration : Reply := .code .done
  asVariants : Code := .done
  connections : List ConnectionItem := []
  registry : Registry := {}
  asLock : Code := .done
  lock : Code := .done
  lockHolder : SystemString := none
  beginning : Code := .done
  ending : Code := .done
  release : Code := .done
  apply : Code := .done
  component : String → Option Component := fun _ => none

structure Ahead where
  apartments : List Code := []
  objects : List Reply := []

namespace Ahead

def takeApartment (a : Ahead) : Code × Ahead :=
  (a.apartments.headD .done, { a with apartments := a.apartments.tail })

def takeObject (a : Ahead) : Reply × Ahead :=
  (a.objects.headD (.code .done), { a with objects := a.objects.tail })

end Ahead

abbrev WinAct (α : Type) := Act Call Ahead α

namespace Machine

def describe (w : Machine) (c : Code) : String := s!"{w.messages c} ({c.hexText})"

def demand (w : Machine) (blame : String → Fault) (c : Code) : WinAct Unit :=
  if c.fails then Act.fail (blame (w.describe c)) else pure ()

def demandObject (w : Machine) (blame : String → Fault) (r : Reply) : WinAct Unit :=
  match r.refusal? with
  | some c => Act.fail (blame (w.describe c))
  | none => pure ()

def createObject (w : Machine) (blame : String → Fault) (c : ObjectClass) : WinAct Unit := do
  Act.call (.create c)
  let reply ← Act.take Ahead.takeObject
  w.demandObject blame reply

end Machine
end VmBridge.Windows
