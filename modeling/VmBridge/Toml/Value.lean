import VmBridge.Decimal.Binary64
/-! Values of a TOML document. Tables keep their keys in the order they were given a place, and
remember how they came to be, which decides what may still be added to them. -/
namespace VmBridge.Toml

inductive Standing where
  | closed
  | stated
  | implied
  | dotted
  deriving DecidableEq, Repr, Inhabited

inductive Value where
  | string (s : String)
  | integer (n : Int)
  | float (x : Decimal.Binary64)
  | boolean (b : Bool)
  | datetime (text : String)
  | array (items : List Value)
  | tables (older : List (List (String × Value))) (last : List (String × Value))
  | table (standing : Standing) (entries : List (String × Value))
  deriving Repr, Inhabited

abbrev Entries := List (String × Value)

namespace Entries

def get? (es : Entries) (key : String) : Option Value := es.lookup key

def replace (es : Entries) (key : String) (v : Value) : Entries :=
  es.map fun (k, old) => if k = key then (k, v) else (k, old)

def putLast (es : Entries) (key : String) (v : Value) : Entries :=
  es.filter (·.1 ≠ key) ++ [(key, v)]

def add? (es : Entries) (key : String) (v : Value) : Option Entries :=
  match es.get? key with
  | some _ => none
  | none => some (es ++ [(key, v)])

end Entries
end VmBridge.Toml
