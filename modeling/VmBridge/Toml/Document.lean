import VmBridge.Toml.Datetime
import VmBridge.Toml.Table
/-! Reading a whole document: key and value pairs, headers, comments and blank lines. A text
that is no document reads as nothing; what is wrong with it is not told. -/
namespace VmBridge.Toml

def depthLimit : Nat := 80

def isBareKeyChar (c : Char) : Bool :=
  isDecimal c || ('a' ≤ c && c ≤ 'z') || ('A' ≤ c && c ≤ 'Z') || c = '_' || c = '-'

def bareWord : Reader String := fun cs =>
  let word := cs.takeWhile isBareKeyChar
  if word = [] then none else some (String.ofList word, cs.drop word.length)

def keyWord (cs : List Char) : Option (String × List Char) :=
  match quotedWord cs with
  | some found => some found
  | none => bareWord cs

def keyWords : Nat → Reader (List String)
  | 0, _ => none
  | fuel + 1, cs => do
    let (word, left) ← keyWord (skipWs cs)
    match skipWs left with
    | '.' :: rest => (keyWords fuel rest).map fun (words, left) => (word :: words, left)
    | rest => some ([word], rest)

def key : Reader (List String × String) := fun cs => do
  let (words, left) ← keyWords (depthLimit - 1) cs
  let last ← words.getLast?
  some ((words.dropLast, last), left)

def scalar (cs : List Char) : Option (Value × List Char) :=
  match cs with
  | '"' :: _ => (quotedText cs).map fun (s, left) => (.string s, left)
  | '\'' :: _ => (quotedText cs).map fun (s, left) => (.string s, left)
  | 't' :: _ => (expect "true".toList cs).map (.boolean true, ·)
  | 'f' :: _ => (expect "false".toList cs).map (.boolean false, ·)
  | cs =>
    match datetime cs with
    | some found => some found
    | none => number cs

def pair (element : Reader Value) : Reader ((List String × String) × Value) := fun cs => do
  let (k, left) ← key cs
  let left ← expect ['='] left
  let (v, left) ← element (skipWs left)
  some ((k, v), left)

def elements (element : Reader Value) : Nat → Reader (List Value)
  | 0, _ => none
  | fuel + 1, cs =>
    match skipGaps cs with
    | ']' :: rest => some ([], rest)
    | cs => do
      let (v, left) ← element cs
      match skipGaps left with
      | ',' :: rest => (elements element fuel rest).map fun (vs, left) => (v :: vs, left)
      | ']' :: rest => some ([v], rest)
      | _ => none

def pairs (element : Reader Value) : Nat → Table → Reader Entries
  | 0, _, _ => none
  | fuel + 1, t, cs => do
    let (((path, k), v), left) ← pair element cs
    let t ← t.put path k v
    match skipWs left with
    | ',' :: rest => pairs element fuel t rest
    | '}' :: rest => some (t.entries, rest)
    | _ => none

def inlineTable (element : Reader Value) (cs : List Char) : Option (Value × List Char) :=
  match skipWs cs with
  | '}' :: rest => some (.table .closed [], rest)
  | cs => (pairs element (cs.length + 1) ⟨.stated, []⟩ cs).map fun (es, left) =>
    (.table .closed es, left)

def value : Nat → Reader Value
  | 0 => scalar
  | depth + 1 => fun cs =>
    match cs with
    | '[' :: rest => (elements (value depth) (rest.length + 1) rest).map fun (vs, left) =>
      (.array vs, left)
    | '{' :: rest => inlineTable (value depth) rest
    | cs => scalar cs

inductive Line where
  | pair (path : List String) (key : String) (v : Value)
  | header (path : List String) (key : String)
  | another (path : List String) (key : String)
  deriving Repr

def pairLine (cs : List Char) : Option (Line × List Char) := do
  let (((path, k), v), left) ← pair (value (depthLimit - 1)) cs
  let rest ← lineEnd? left
  some (.pair path k v, rest)

def headerLine (cs : List Char) : Option (Line × List Char) :=
  match cs with
  | '[' :: rest => do
    let ((path, k), left) ← key rest
    let left ← expect "]]".toList left
    let rest ← lineEnd? left
    some (.another path k, rest)
  | cs => do
    let ((path, k), left) ← key cs
    let left ← expect "]".toList left
    let rest ← lineEnd? left
    some (.header path k, rest)

def line (cs : List Char) : Option (Option Line × List Char) :=
  match skipWs cs with
  | '[' :: rest => (headerLine rest).map fun (l, left) => (some l, left)
  | '#' :: rest => (lineEnd? ('#' :: rest)).map (none, ·)
  | rest =>
    match newline? rest with
    | some left => some (none, left)
    | none => (pairLine rest).map fun (l, left) => (some l, left)

abbrev Placed := List Char × Line

def linesFrom : Nat → List Placed → List Char → Option (List Placed)
  | 0, _, _ => none
  | fuel + 1, seen, cs =>
    if skipWs cs = [] then some seen.reverse
    else
      match line cs with
      | none => none
      | some (some l, left) => linesFrom fuel ((skipWs cs, l) :: seen) left
      | some (none, left) => linesFrom fuel seen left

def byteOrderMark : Char := '\uFEFF'

def lines? (cs : List Char) : Option (List Placed) :=
  let cs := if cs.head? = some byteOrderMark then cs.drop 1 else cs
  linesFrom (cs.length + 1) [] cs

structure Draft where
  root : Table := ⟨.stated, []⟩
  current : List String := []
  deriving Repr, Inhabited

namespace Draft

def add (d : Draft) : Line → Option Draft
  | .pair path key v =>
    (d.root.descend .implied (Table.put path key v) d.current).map fun root => { d with root }
  | .header path key =>
    (d.root.descend .implied (Table.state key) path).map fun root => ⟨root, path ++ [key]⟩
  | .another path key =>
    (d.root.descend .implied (Table.stateAnother key) path).map fun root => ⟨root, path ++ [key]⟩

def addAll (d : Draft) : List Line → Option Draft
  | [] => some d
  | l :: rest => (d.add l).bind (·.addAll rest)

end Draft

def parse? (text : String) : Option Entries := do
  let lines ← lines? text.toList
  let d ← ({} : Draft).addAll (lines.map (·.2))
  some d.root.entries

end VmBridge.Toml
