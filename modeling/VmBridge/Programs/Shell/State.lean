import VmBridge.Files.Tree
import VmBridge.Programs.Shell.Script
import VmBridge.Programs.Shell.Setting
import VmBridge.Text.Digit
import VmBridge.Text.Octet
/-! A shell between two commands: what its names hold, where its descriptors lead, and what
has been written so far. -/
namespace VmBridge.Programs.Shell
open Text (Bytes)

structure Variable where
  name : String
  value : Option String := none
  exported : Bool := false
  fixed : Bool := false
  deriving DecidableEq, Repr

inductive Port where
  | sink (n : Nat)
  | source (n : Nat)
  | file (place : Files.Place)
  | nowhere
  deriving DecidableEq, Repr

inductive Halt where
  | ended
  | failed
  | killed (signal : Nat)
  | left (loops : Nat) (again : Bool)
  | returned
  deriving DecidableEq, Repr

structure State where
  name : String
  arguments : List String := []
  process : Nat
  depth : Nat := 0
  files : Files.Tree
  ports : List (Nat × Port) := [(0, .source 0), (1, .sink 1), (2, .sink 2)]
  sources : List (Nat × Bytes) := []
  written : List (Nat × Bytes) := []
  late : List (Nat × Bytes) := []
  fresh : Nat := 3
  bindings : List Variable := []
  functions : List (String × Nat × Script) := []
  hidden : List (List Variable) := []
  traps : List (Nat × String) := []
  flags : Flags := {}
  status : Nat := 0
  captured : Option Nat := none
  line : Nat := 1
  reached : Nat := 1
  linesBefore : Nat := 0
  command : Option String := none
  loops : Nat := 0
  jobs : List (Nat × Nat) := []
  pending : List Nat := []
  sent : List Nat := []
  halt : Option Halt := none

namespace State

def settled (s : State) (status : Nat) : State := { s with status }
def succeeded (s : State) : Bool := s.status = 0

def port? (s : State) (descriptor : Nat) : Option Port :=
  (s.ports.find? (·.1 = descriptor)).map Prod.snd

def connect (s : State) (descriptor : Nat) (port : Port) : State :=
  { s with ports := (descriptor, port) :: s.ports.filter (·.1 ≠ descriptor) }

def disconnect (s : State) (descriptor : Nat) : State :=
  { s with ports := s.ports.filter (·.1 ≠ descriptor) }

def put (s : State) (descriptor : Nat) (bytes : Bytes) : State :=
  match s.port? descriptor with
  | some (.sink n) => { s with written := (n, bytes) :: s.written }
  | some (.file place) =>
    { s with files := s.files.put place (.file (s.files.content place ++ bytes)) }
  | _ => s

def source (s : State) (n : Nat) : Bytes := ((s.sources.find? (·.1 = n)).map Prod.snd).getD []

def setSource (s : State) (n : Nat) (bytes : Bytes) : State :=
  { s with sources := (n, bytes) :: s.sources.filter (·.1 ≠ n) }

def input? (s : State) : Option Bytes :=
  match s.port? 0 with
  | none => none
  | some (.source n) => some (s.source n)
  | some _ => some []

def setInput (s : State) (bytes : Bytes) : State :=
  match s.port? 0 with
  | some (.source n) => s.setSource n bytes
  | _ => s

def connectSource (s : State) (descriptor : Nat) (bytes : Bytes) : State :=
  { (s.setSource s.fresh bytes).connect descriptor (.source s.fresh) with fresh := s.fresh + 1 }

def stream (s : State) (n : Nat) : Bytes :=
  (s.written.reverse.filter (·.1 = n)).flatMap Prod.snd

def complain (s : State) (text : String) : State :=
  let command := (s.command.map (· ++ ": ")).getD ""
  s.put 2 (Text.octetBytes s!"{s.name}: {s.line}: {command}{text}\n")

def quit (s : State) (status : Nat) : State := { s with status, halt := some .ended }

def fail (s : State) (text : String) : State :=
  { s.complain text with status := 2, halt := some .failed }

def refuse (s : State) (status : Nat) (text : String) : State :=
  (s.complain text).settled status

def withFlags (s : State) (flags : Flags) : State :=
  if flags.has "monitor" then
    { s.complain "can't access tty; job control turned off" with
      flags := flags.put "monitor" false }
  else { s with flags }

def entry? (s : State) (name : String) : Option Variable :=
  s.bindings.find? (·.name = name)

def held? (s : State) (name : String) : Option String := (s.entry? name).bind (·.value)

def setVariable (s : State) (v : Variable) : State :=
  { s with bindings := v :: s.bindings.filter (·.name ≠ v.name) }

def dropVariable (s : State) (name : String) : State :=
  { s with bindings := s.bindings.filter (·.name ≠ name) }

def variableOr (s : State) (name : String) : Variable := (s.entry? name).getD { name }

def assign (s : State) (name value : String) : State :=
  let v := s.variableOr name
  if v.fixed then s.fail s!"{name}: is read only"
  else s.setVariable { v with value := some value, exported := v.exported || s.flags.exports }

def restored (s old : State) (names : List String) : State :=
  names.foldl (fun s name =>
    match old.entry? name with
    | some v => s.setVariable v
    | none => s.dropVariable name) s

def separators (s : State) : List Char :=
  match (s.entry? "IFS").map (·.value) with
  | some value => (value.getD "").toList
  | none => [' ', '\t', '\n']

def value? (s : State) (name : String) : Option String :=
  match name.toList with
  | ['$'] => some (toString s.process)
  | ['?'] => some (toString s.status)
  | ['#'] => some (toString s.arguments.length)
  | ['-'] => some s.flags.letters
  | ['!'] => s.jobs.head?.map fun job => toString job.1
  | ['@'] => if s.arguments.isEmpty then none else some (" ".intercalate s.arguments)
  | ['*'] => if s.arguments.isEmpty then none else some (" ".intercalate s.arguments)
  | c :: rest =>
    if c.isDigit then
      match (Text.takeDigits 10 (rest.length + 1) 0 (c :: rest)).1 with
      | 0 => some s.name
      | n + 1 => s.arguments[n]?
    else s.held? name
  | [] => none

def unnoticed : List Nat := [0, 17, 18, 23, 28]

def signalled (s : State) (signal : Nat) : State :=
  match s.traps.lookup signal with
  | some action =>
    if signal = 9 then { s with halt := some (.killed 9) }
    else if action = "" then s
    else { s with pending := s.pending ++ [signal] }
  | none =>
    if unnoticed.contains signal then s else { s with halt := some (.killed signal) }

def signal (s : State) (signal : Nat) : State :=
  if s.depth = 0 then s.signalled signal else { s with sent := s.sent ++ [signal] }

def flushed (s : State) : State := { s with written := s.late ++ s.written, late := [] }

def child (s : State) : State :=
  { s with
    traps := s.traps.filter (·.2 = ""), loops := 0, halt := none, depth := s.depth + 1,
    late := [], sent := [], pending := [] }

def after (s inner : State) : State :=
  inner.sent.foldl State.signal { s with
    files := { inner.files with working := s.files.working }
    sources := inner.sources
    written := inner.written
    fresh := inner.fresh
    status := inner.status
    halt := match inner.halt with
      | some (.killed signal) => some (.killed signal)
      | _ => s.halt }

end State
end VmBridge.Programs.Shell
