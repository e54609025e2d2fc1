import VmBridge.Act
import VmBridge.Owner.NumericId
/-! Who a TAP device is handed to. A name is looked up first and read as a number only when
no account has it; a look-up that fails counts as no account and leaves a record. -/
namespace VmBridge.Owner

inductive Lookup where
  | found (id : Id)
  | absent
  | failed (errno : Int)
  deriving DecidableEq, Repr, Inhabited

abbrev Directory := String → Lookup

structure Accounts where
  users : Directory
  groups : Directory
  effective : Id

variable {κ σ : Type}

def hasNul (s : String) : Bool := s.toList.contains '\x00'

def search (title : String) (directory : Directory) (name : String) : Act κ σ (Option Id) :=
  if hasNul name then pure none
  else
    match directory name with
    | .found id => pure (some id)
    | .absent => pure none
    | .failed errno => do
      Act.log .debug .owner s!"{title} lookup for '{name}' failed: {Errno.titled errno}"
      pure none

def idOf (lookup : String → Act κ σ (Option Id)) (name : String) : Act κ σ (Option Id) := do
  match ← lookup name with
  | some id => pure (some id)
  | none => pure (numericId? name)

def ownerBy (lookup : String → Act κ σ (Option Id)) (effective : Id) :
    Option String → Act κ σ Id
  | none => pure effective
  | some name => do
    match ← idOf lookup name with
    | some id => pure id
    | none => Act.fail (.unknownUser name)

namespace Accounts

def owner (a : Accounts) (name : Option String) : Act κ σ Id :=
  ownerBy (search "user" a.users) a.effective name

def group (a : Accounts) (name : String) : Act κ σ Id := do
  match ← idOf (search "group" a.groups) name with
  | some id => pure id
  | none => Act.fail (.unknownGroup name)

def group? (a : Accounts) : Option String → Act κ σ (Option Id)
  | none => pure none
  | some name => do
    let id ← a.group name
    pure (some id)

end Accounts
end VmBridge.Owner
