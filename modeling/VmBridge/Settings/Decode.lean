import VmBridge.Settings.Basic
import VmBridge.Text.Quoted
import VmBridge.Toml.Value
/-! Settings from the entries of a document. What an entry says takes the place of the default;
an entry that says nothing of what is known, or not in the right form, is refused, and the
first one in the document decides what is told. -/
namespace VmBridge.Settings
open Toml (Value Entries)

inductive Misfit where
  | unknownField (name : String) (known : List String)
  | unknownVariant (name : String) (known : List String)
  | wrongType (found wanted : String)
  | outOfRange (found : Int) (wanted : String)
  | neitherStringNorTable
  | noElement
  | manyElements
  | fullArray
  | fullTable
  | noTable (found : String)
  deriving DecidableEq, Repr, Inhabited

def Misfit.message : Misfit → String
  | unknownField name known => s!"unknown field `{name}`, expected one of {listed known}"
  | unknownVariant name known => s!"unknown variant `{name}`, expected one of {listed known}"
  | wrongType found wanted => s!"invalid type: {found}, expected {wanted}"
  | outOfRange found wanted => s!"invalid value: integer `{found}`, expected {wanted}"
  | neitherStringNorTable => "wanted string or table"
  | noElement => "wanted exactly 1 element, found 0 elements"
  | manyElements => "wanted exactly 1 element, more than 1 element"
  | fullArray => "expected empty array"
  | fullTable => "expected empty table"
  | noTable found => s!"expected table, found {found}"
where
  listed (known : List String) : String := ", ".intercalate (known.map fun name => s!"`{name}`")

def described : Value → String
  | .string s => "string " ++ Text.quoted s
  | .integer n => s!"integer `{n}`"
  | .float x => s!"floating point `{x.text}`"
  | .boolean b => s!"boolean `{b}`"
  | .array _ | .tables _ _ => "sequence"
  | .datetime _ | .table _ _ => "map"

def string (wanted : String) : Value → Except Misfit String
  | .string s => .ok s
  | v => .error (.wrongType (described v) wanted)

def mostWord : Nat := 0xffffffff

def word32 : Value → Except Misfit UInt32
  | .integer n =>
    if 0 ≤ n ∧ n ≤ mostWord then .ok (UInt32.ofNat n.toNat) else .error (.outOfRange n "u32")
  | v => .error (.wrongType (described v) "u32")

def emptyContent : Value → Except Misfit Unit
  | .array [] | .table _ [] => .ok ()
  | .tables _ _ => .error .fullArray
  | .array _ | .table _ _ => .error .fullTable
  | .string _ => .error (.noTable "string")
  | .integer _ => .error (.noTable "integer")
  | .float _ => .error (.noTable "float")
  | .boolean _ => .error (.noTable "boolean")
  | .datetime _ => .error (.noTable "datetime")

def chosen {α : Type} (known : List (String × α)) (name : String) : Except Misfit α :=
  match known.lookup name with
  | some a => .ok a
  | none => .error (.unknownVariant name (known.map (·.1)))

def choice {α : Type} (known : List (String × α)) : Value → Except Misfit α
  | .string name => chosen known name
  | .table _ [] => .error .noElement
  | .table _ [(name, content)] => do
    let a ← chosen known name
    emptyContent content
    .ok a
  | .table _ _ => .error .manyElements
  | _ => .error .neitherStringNorTable

structure Field (α : Type) where
  name : String
  set : α → Value → Except Misfit α

variable {α : Type}

def setField (fields : List (Field α)) (a : α) (key : String) (v : Value) : Except Misfit α :=
  match fields.find? (·.name = key) with
  | some field => field.set a v
  | none => .error (.unknownField key (fields.map (·.name)))

def setEntries (fields : List (Field α)) (a : α) : Entries → Except Misfit α
  | [] => .ok a
  | (key, v) :: rest => do
    let a ← setField fields a key v
    setEntries fields a rest

def setItems (a : α) : List (Field α) → List Value → Except Misfit α
  | field :: fields, v :: rest => do
    let a ← field.set a v
    setItems a fields rest
  | _, _ => .ok a

def datetimeKey : String := "$__toml_private_datetime"

def record (fields : List (Field α)) (wanted : String) (a : α) : Value → Except Misfit α
  | .table _ entries => setEntries fields a entries
  | .array items => setItems a fields items
  | .tables older last => setItems a fields ((older ++ [last]).map (.table .stated))
  | .datetime _ => .error (.unknownField datetimeKey (fields.map (·.name)))
  | v => .error (.wrongType (described v) wanted)

def levelChoices : List (String × Log.Level) := Log.Level.all.map fun l => (l.word, l)
def guardChoices : List (String × Sharing.Policy) := Sharing.Policy.all.map fun p => (p.word, p)

def toolFields : List (Field Tools) := [
  ⟨"ip", fun t v => (string "a string" v).map fun ip => { t with ip }⟩,
  ⟨"ifconfig", fun t v => (string "a string" v).map fun ifconfig => { t with ifconfig }⟩,
  ⟨"brctl", fun t v => (string "a string" v).map fun brctl => { t with brctl }⟩,
  ⟨"tun_device", fun t v => (string "path string" v).map fun tunDevice => { t with tunDevice }⟩]

def bridgeFields : List (Field BridgeSettings) := [
  ⟨"inf_id", fun b v => (string "a string" v).map fun infId => { b with infId }⟩,
  ⟨"ics_guard", fun b v => (choice guardChoices v).map fun guard => { b with guard }⟩,
  ⟨"lock_timeout_ms", fun b v => (word32 v).map fun lockTimeout => { b with lockTimeout }⟩]

def fields : List (Field Settings) := [
  ⟨"log_level", fun s v => (choice levelChoices v).map fun logLevel => { s with logLevel }⟩,
  ⟨"tools", fun s v => (record toolFields "struct ToolsConfig" {} v).map fun tools =>
    { s with tools }⟩,
  ⟨"bridge", fun s v => (record bridgeFields "struct BridgeConfig" {} v).map fun bridge =>
    { s with bridge }⟩]

def ofEntries (entries : Entries) : Except Misfit Settings := setEntries fields {} entries

end VmBridge.Settings
