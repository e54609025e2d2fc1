import VmBridge.Programs.Shell.Script
/-! A place in the text of a script, and what stands there next. -/
namespace VmBridge.Programs.Shell

structure Cursor where
  rest : List Char
  line : Nat := 1
  owed : Nat := 0

structure Complaint where
  line : Nat
  text : String
  deriving DecidableEq, Repr

inductive Next where
  | ended
  | newline
  | mark (m : String)
  | redirect
  | word (plain : Option String)
  deriving DecidableEq, Repr

def reserved : List String := [
  "!", "case", "do", "done", "elif", "else", "esac", "fi", "for", "if", "in", "then", "until",
  "while", "\x7b", "\x7d"]

def specialNames : List String := [
  ".", ":", "break", "continue", "eval", "exec", "exit", "export", "readonly", "return", "set",
  "shift", "times", "trap", "unset"]

def marks : List (List Char) :=
  [['&', '&'], ['|', '|'], [';', ';'], ['&'], ['|'], [';'], ['('], [')']]

def isBlank (c : Char) : Bool := c = ' ' || c = '\t'

def endsWord (c : Char) : Bool :=
  isBlank c || c = '\n' || ['&', '|', ';', '(', ')', '<', '>'].contains c

def isQuoting (c : Char) : Bool := ['\'', '"', '\\', '$', '\x60'].contains c

namespace Cursor

def refuse {α : Type} (c : Cursor) (text : String) : Except Complaint α :=
  .error ⟨c.line, s!"Syntax error: {text}"⟩

def step (c : Cursor) : Cursor :=
  match c.rest with
  | '\n' :: rest => ⟨rest, c.line + c.owed + 1, 0⟩
  | _ :: rest => { c with rest }
  | [] => c

def drop : Nat → Cursor → Cursor
  | 0, c => c
  | n + 1, c => drop n c.step

def blanksFrom (line : Nat) : List Char → Nat × List Char
  | ' ' :: rest => blanksFrom line rest
  | '\t' :: rest => blanksFrom line rest
  | '\\' :: '\n' :: rest => blanksFrom (line + 1) rest
  | '#' :: rest => (line, rest.dropWhile (· ≠ '\n'))
  | rest => (line, rest)

def skipBlanks (c : Cursor) : Cursor :=
  let (line, rest) := blanksFrom c.line c.rest
  { c with line, rest }

def linesFrom : Nat → Cursor → Cursor
  | 0, c => c.skipBlanks
  | n + 1, c =>
    let c := c.skipBlanks
    if c.rest.head? = some '\n' then linesFrom n c.step else c

def skipLines (c : Cursor) : Cursor := linesFrom c.rest.length c

def plainWord? (cs : List Char) : Option String :=
  let plain := cs.takeWhile fun c => !endsWord c && !isQuoting c
  match cs.drop plain.length with
  | [] => some (String.ofList plain)
  | c :: _ => if isQuoting c then none else some (String.ofList plain)

def startsRedirect : List Char → Bool
  | '<' :: _ => true
  | '>' :: _ => true
  | _ => false

def nextIn (cs : List Char) : Next :=
  match cs, marks.find? (·.isPrefixOf cs) with
  | [], _ => .ended
  | '\n' :: _, _ => .newline
  | _, some m => .mark (String.ofList m)
  | c :: rest, none =>
    if startsRedirect cs ∨ c.isDigit ∧ startsRedirect rest then .redirect
    else .word (plainWord? cs)

def next (c : Cursor) : Next := nextIn c.skipBlanks.rest

def keyword? (c : Cursor) : Option String :=
  match c.next with
  | .word plain => plain.filter (reserved.contains ·)
  | _ => none

def title (c : Cursor) (known : Bool) : String :=
  match c.next with
  | .ended => "end of file"
  | .newline => "newline"
  | .mark m => s!"\"{m}\""
  | .redirect => "redirection"
  | .word _ =>
    match c.keyword?.filter fun _ => known with
    | some word => s!"\"{word}\""
    | none => "word"

def unexpected (c : Cursor) (known : Bool) (expected : Option String) : Complaint :=
  let hint := match expected with
    | some "word" => " (expecting word)"
    | some mark => s!" (expecting \"{mark}\")"
    | none => ""
  let c := c.skipBlanks
  ⟨if c.next = .newline then c.step.line else c.line, s!"Syntax error: {c.title known} unexpected{hint}"⟩

def startsWith (c : Cursor) (text : String) : Bool :=
  c.keyword? = some text || c.next = .mark text

def endsList (c : Cursor) : Bool :=
  match c.next with
  | .ended => true
  | .mark m => m = ")" || m = ";;"
  | _ =>
    (c.keyword?.map
      (["then", "elif", "else", "fi", "do", "done", "esac", "\x7d"].contains ·)).getD false

end Cursor
end VmBridge.Programs.Shell
