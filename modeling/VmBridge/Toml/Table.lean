import VmBridge.Toml.Value
/-! Building tables up. A key is given once, a header once, and neither reaches into a table
that was closed before. -/
namespace VmBridge.Toml

structure Table where
  standing : Standing
  entries : Entries
  deriving Repr, Inhabited

namespace Table

def value (t : Table) : Value := .table t.standing t.entries

def descend (made : Standing) (work : Table → Option Table) : List String → Table → Option Table
  | [], t => work t
  | key :: path, t =>
    match t.entries.get? key with
    | none => do
      let new ← descend made work path ⟨made, []⟩
      some { t with entries := t.entries ++ [(key, new.value)] }
    | some (.tables older last) => do
      let new ← descend made work path ⟨.stated, last⟩
      some { t with entries := t.entries.replace key (.tables older new.entries) }
    | some (.table standing entries) =>
      if standing = .closed ∨ (made = .dotted ∧ standing = .stated) then none
      else do
        let new ← descend made work path ⟨standing, entries⟩
        some { t with entries := t.entries.replace key new.value }
    | some _ => none

def put (path : List String) (key : String) (v : Value) (t : Table) : Option Table :=
  descend .dotted
    (fun inner =>
      if inner.standing = .dotted ↔ path ≠ [] then
        (inner.entries.add? key v).map fun entries => { inner with entries }
      else none)
    path t

/-- Takes up a header. A table that headers below it have implied may still get its own, and
stands where that header stands from then on, behind what was given in between. -/
def state (key : String) (t : Table) : Option Table :=
  match t.entries.get? key with
  | none => some { t with entries := t.entries.putLast key (.table .stated []) }
  | some (.table .implied entries) =>
    some { t with entries := t.entries.putLast key (.table .stated entries) }
  | some _ => none

def stateAnother (key : String) (t : Table) : Option Table :=
  match t.entries.get? key with
  | none => some { t with entries := t.entries ++ [(key, .tables [] [])] }
  | some (.tables older last) =>
    some { t with entries := t.entries.replace key (.tables (older ++ [last]) []) }
  | some _ => none

end Table
end VmBridge.Toml
