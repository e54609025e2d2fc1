import VmBridge.Toml.Document
/-! Showing where in a document a fault lies: its line with a mark under the place. -/
namespace VmBridge.Toml

structure Place where
  start : Nat
  length : Nat
  deriving DecidableEq, Repr, Inhabited

def Line.firstWord : Line → String
  | .pair path key _ | .header path key | .another path key => path.head?.getD key

def keyPlace? (text : String) (word : String) : Option Place := do
  let cs := text.toList
  let placed ← lines? cs
  let (left, _) ← placed.find? (·.2.firstWord = word)
  let start := skipWs (left.dropWhile (· = '['))
  let (_, rest) ← keyWord start
  some ⟨cs.length - start.length, start.length - rest.length⟩

def lineAt (cs : List Char) (start : Nat) : List Char × Nat × Nat :=
  let before := cs.take start
  let inLine := (before.reverse.takeWhile (· ≠ '\n')).reverse
  let content := inLine ++ (cs.drop start).takeWhile (· ≠ '\n')
  (content, before.count '\n', inLine.length)

def blanks (n : Nat) : String := "".pushn ' ' n

def excerpt (text : String) (p : Place) (message : String) : String :=
  let (content, row, column) := lineAt text.toList p.start
  let number := toString (row + 1)
  let margin := blanks (number.length + 1)
  let marks := max 1 (min p.length (content.length - column))
  s!"TOML parse error at line {number}, column {column + 1}\n{margin}|\n" ++
    s!"{number} | {String.ofList content}\n{margin}|{blanks (column + 1)}" ++
    "".pushn '^' marks ++ s!"\n{message}\n"

end VmBridge.Toml
