import VmBridge.Act
/-! What binding needs of a platform. Paths are pulled one at a time, so that a search takes
no more of them than it needs. -/
namespace VmBridge.Binding

/-- The pulls that an enumeration has left. A pull that gives no path, or fails, is the last
one that is made. -/
abbrev Enumeration (κ σ π : Type) := List (Act κ σ (Option π))

variable {κ σ π : Type}

def Enumeration.next :
    Enumeration κ σ π → Act κ σ (Option (Except Fault π) × Enumeration κ σ π)
  | [] => pure (none, [])
  | pull :: rest => do
    match ← pull.attempt with
    | .ok (some path) => pure (some (.ok path), rest)
    | .ok none => pure (none, [])
    | .error e => pure (some (.error e), [])

structure NetConfig (κ σ π : Type) where
  below : String → Act κ σ (Enumeration κ σ π)
  token : π → Act κ σ String
  setEnabled : π → Bool → Act κ σ Unit
  apply : Act κ σ Unit
  close : Act κ σ Unit

structure Backend (κ σ π : Type) where
  ensureNotShared : String → Act κ σ Unit
  openConfig : Act κ σ (NetConfig κ σ π)

end VmBridge.Binding
