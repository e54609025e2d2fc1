import VmBridge.Binding.Backend
/-! The first binding path with a given token. A path whose token cannot be read is passed
over; a failing enumeration ends the search. -/
namespace VmBridge.Binding
variable {κ σ π : Type}

def findPath (token : π → Act κ σ String) (wanted : String) :
    Enumeration κ σ π → Act κ σ (Option π)
  | [] => pure none
  | pull :: rest => do
    match ← pull.attempt with
    | .error e => do
      Act.log .debug .binding s!"binding path enumeration stopped: {e.message}"
      pure none
    | .ok none => pure none
    | .ok (some path) => do
      match ← (token path).attempt with
      | .ok found =>
        if found = wanted then pure (some path)
        else
          Act.log .trace .binding s!"skipping binding path {found}"
          findPath token wanted rest
      | .error e => do
        Act.log .debug .binding s!"skipping binding path with unreadable token: {e.message}"
        findPath token wanted rest

end VmBridge.Binding
