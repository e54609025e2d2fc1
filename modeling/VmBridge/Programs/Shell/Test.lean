import VmBridge.Files.Tree
import VmBridge.Programs.Number
import VmBridge.Text.Octet
/-! The conditions that a shell can test: texts, whole numbers and files, joined by "and",
"or" and "not". -/
namespace VmBridge.Programs.Shell

def illegalNumber (s : String) : String := s!"Illegal number: {s}"

inductive TestWord where
  | unary
  | binary
  | not
  | and
  | or
  | opening
  | closing
  deriving DecidableEq, Repr

def testWord? (word : String) : Option TestWord :=
  if [ "-r", "-w", "-x", "-e", "-f", "-d", "-c", "-b", "-p", "-u", "-g", "-k", "-s", "-t", "-z",
      "-n", "-h", "-L", "-O", "-G", "-S"].contains word then some .unary
  else if ["=", "!=", "<", ">", "-eq", "-ne", "-ge", "-gt", "-le", "-lt", "-nt", "-ot",
      "-ef"].contains word then some .binary
  else
    match word with
    | "!" => some .not
    | "-a" => some .and
    | "-o" => some .or
    | "(" => some .opening
    | ")" => some .closing
    | _ => none

def meaning? : List String → Option TestWord
  | [] => none
  | word :: rest =>
    match testWord? word, rest with
    | some .unary, [] => none
    | some .unary, [_] => some .unary
    | some .unary, next :: _ :: _ => if testWord? next = some .binary then none else some .unary
    | some .opening, [] => none
    | m, _ => m

def compared (a b : String) (holds : Int → Int → Bool) : Except String Bool :=
  match wholeNumber? a, wholeNumber? b with
  | some x, some y => .ok (holds x y)
  | none, _ => .error (illegalNumber a)
  | some _, none => .error (illegalNumber b)

def twoWords (operator a b : String) : Except String Bool :=
  match operator with
  | "=" => .ok (a = b)
  | "!=" => .ok (a ≠ b)
  | "<" => .ok (a < b)
  | ">" => .ok (b < a)
  | "-eq" => compared a b (· == ·)
  | "-ne" => compared a b (· != ·)
  | "-lt" => compared a b fun x y => decide (x < y)
  | "-le" => compared a b fun x y => decide (x ≤ y)
  | "-gt" => compared a b fun x y => decide (y < x)
  | "-ge" => compared a b fun x y => decide (y ≤ x)
  | "-ef" => .ok (a = b)
  | _ => .ok false

def oneWord (files : Files.Tree) (operator word : String) : Except String Bool :=
  let node? := (files.resolve (Text.octetBytes word)).toOption
  match operator with
  | "-n" => .ok (word ≠ "")
  | "-z" => .ok (word = "")
  | "-t" =>
    match wholeNumber? word with
    | some _ => .ok false
    | none => .error (illegalNumber word)
  | _ => .ok <|
    match operator, node? with
    | "-e", some _ => true
    | "-r", some _ => true
    | "-w", some _ => true
    | "-O", some _ => true
    | "-G", some _ => true
    | "-f", some (.file _) => true
    | "-f", some (.program _) => true
    | "-d", some .directory => true
    | "-x", some .directory => true
    | "-x", some (.program _) => true
    | "-c", some .device => true
    | "-s", some (.file content) => !content.isEmpty
    | "-s", some (.program _) => true
    | "-s", some .directory => true
    | _, _ => false

mutual

def anyOf (files : Files.Tree) : Nat → List String → Except String (Bool × List String)
  | 0, ws => .ok (false, ws)
  | fuel + 1, ws => do
    let (a, ws) ← allOf files fuel ws
    if meaning? ws.tail = some .or then
      let (b, ws) ← anyOf files fuel (ws.drop 2)
      .ok (a || b, ws)
    else .ok (a, ws)

def allOf (files : Files.Tree) : Nat → List String → Except String (Bool × List String)
  | 0, ws => .ok (false, ws)
  | fuel + 1, ws => do
    let (a, ws) ← negatable files fuel ws
    if meaning? ws.tail = some .and then
      let (b, ws) ← allOf files fuel (ws.drop 2)
      .ok (a && b, ws)
    else .ok (a, ws)

def negatable (files : Files.Tree) : Nat → List String → Except String (Bool × List String)
  | 0, ws => .ok (false, ws)
  | fuel + 1, ws =>
    if meaning? ws = some .not then
      if ws.tail = [] then .ok (true, ws)
      else do
        let (a, ws) ← negatable files fuel ws.tail
        .ok (!a, ws)
    else single files fuel ws

def single (files : Files.Tree) : Nat → List String → Except String (Bool × List String)
  | 0, ws => .ok (false, ws)
  | _ + 1, [] => .ok (false, [])
  | fuel + 1, word :: rest =>
    match meaning? (word :: rest) with
    | some .opening =>
      if meaning? rest = some .closing then .ok (false, rest)
      else do
        let (a, ws) ← anyOf files fuel rest
        if meaning? ws.tail = some .closing then .ok (a, ws.tail)
        else .error "closing paren expected"
    | some .unary =>
      match rest with
      | [] => .error s!"{word}: argument expected"
      | operand :: _ => do
        let a ← oneWord files word operand
        .ok (a, rest)
    | _ =>
      match rest with
      | operator :: more =>
        if meaning? rest = some .binary then
          match more with
          | [] => .error s!"{operator}: argument expected"
          | operand :: _ => do
            let a ← twoWords operator word operand
            .ok (a, more)
        else .ok (word ≠ "", word :: rest)
      | [] => .ok (word ≠ "", [word])

end

def joined (files : Files.Tree) (words : List String) : Except String Bool := do
  let (a, ws) ← anyOf files (8 * words.length + 8) words
  match ws with
  | "" :: _ :: _ => .error "unexpected operator"
  | last :: _ :: _ => .error s!"{last}: unexpected operator"
  | _ => .ok a

def condition (files : Files.Tree) : List String → Except String Bool
  | [] => .ok false
  | [a, operator, b] =>
    if testWord? operator = some .binary then twoWords operator a b
    else if a = "(" ∧ b = ")" then joined files [operator]
    else if a = "!" then (condition files [operator, b]).map (!·)
    else joined files [a, operator, b]
  | [a, b, c, d] =>
    if a = "(" ∧ d = ")" then joined files [b, c]
    else if a = "!" then (condition files [b, c, d]).map (!·)
    else joined files [a, b, c, d]
  | words => joined files words

end VmBridge.Programs.Shell
