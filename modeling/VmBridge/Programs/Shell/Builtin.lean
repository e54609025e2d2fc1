import VmBridge.Command.Status
import VmBridge.Programs.Printf
import VmBridge.Programs.Shell.Cursor
import VmBridge.Programs.Shell.Expansion
import VmBridge.Programs.Shell.Test
/-! The commands that a shell carries out itself, as far as they run no other commands. -/
namespace VmBridge.Programs.Shell
open Text (Bytes)
open Command (WaitStatus)

namespace State

def print (s : State) (bytes : Bytes) : State :=
  let refused := s.refuse 1 (s.command.getD "" ++ ": I/O error")
  match s.port? 1 with
  | none => if bytes.isEmpty then s.settled 0 else refused
  | some (.source _) => refused
  | some _ => (s.put 1 bytes).settled 0

def printLine (s : State) (text : String) : State := s.print (Text.octetBytes (text ++ "\n"))

def failNumber (s : State) (word : String) : State := s.fail (illegalNumber word)

def withNumber (s : State) (word : String) (body : Nat → State) : State :=
  match digitsOnly? word with
  | some n => body n
  | none => s.failNumber word

def exit (s : State) : List String → State
  | [] => s.quit s.status
  | word :: _ => s.withNumber word fun n => s.quit (n % 256)

def comeBack (s : State) (args : List String) : State :=
  let gone (status : Nat) : State := { s with status, halt := some .returned }
  match args with
  | [] => gone s.status
  | word :: _ => s.withNumber word gone

def leave (s : State) (again : Bool) (args : List String) : State :=
  let gone (n : Nat) : State :=
    if n = 0 then s.failNumber (args.headD "")
    else if s.loops = 0 then s.settled 0
    else { s with status := 0, halt := some (.left (min n s.loops) again) }
  match args with
  | [] => gone 1
  | word :: _ => s.withNumber word gone

def shift (s : State) (args : List String) : State :=
  let gone (n : Nat) : State :=
    if s.arguments.length < n then s.fail "can't shift that many"
    else { s with arguments := s.arguments.drop n, status := 0 }
  match args with
  | [] => gone 1
  | word :: _ => s.withNumber word gone

def named (word : String) : String × Option String :=
  let cs := word.toList
  let name := cs.takeWhile (· ≠ '=')
  (String.ofList name,
    if name.length = cs.length then none else some (String.ofList (cs.drop (name.length + 1))))

def declare (s : State) (mark : Variable → Variable) : List String → State
  | [] => s.settled 0
  | word :: rest =>
    let (name, value) := named word
    if !isName name.toList then s.fail s!"{name}: bad variable name"
    else
      let s := match value with
        | some text => s.assign name text
        | none => s
      if s.halt.isSome then s
      else declare (s.setVariable (mark (s.variableOr name))) mark rest

def optionsFirst (args : List String) : List String :=
  args.dropWhile fun word => word.toList.head? = some '-'

def unset (s : State) (args : List String) : State :=
  match args with
  | "-f" :: names =>
    { s with functions := s.functions.filter (!names.contains ·.1), status := 0 }
  | args =>
    (optionsFirst args).foldl (fun s name =>
      if s.halt.isSome then s
      else if !isName name.toList then s.fail s!"{name}: bad variable name"
      else if (s.variableOr name).fixed then s.fail s!"{name}: is read only"
      else s.dropVariable name) (s.settled 0)

def makeLocal (s : State) (words : List String) : State :=
  match s.hidden with
  | [] => s.fail "not in a function"
  | frame :: older =>
    let keep (frame : List Variable) (word : String) : List Variable :=
      let name := (named word).1
      if frame.any (·.name = name) then frame else s.variableOr name :: frame
    let s := { s with hidden := words.foldl keep frame :: older }
    s.declare id words

def set (s : State) (words : List String) : State :=
  match Options.readWords false words none { flags := s.flags } with
  | .error text => s.fail text
  | .ok o =>
    let s := (s.withFlags o.flags).put 1 (Text.octetBytes o.printed)
    let keeps := o.operands = [] ∧ !o.replaces
    { s with arguments := if keeps then s.arguments else o.operands, status := 0 }

def mostSignals : Nat := 64

def signalNumber? (word : String) : Option Nat :=
  match digitsOnly? word with
  | some n => if n ≤ mostSignals then some n else none
  | none => (WaitStatus.signalNames.findIdx? (· = word.toUpper)).map (· + 1)

def signalWord (n : Nat) : String :=
  match n with
  | 0 => "EXIT"
  | k + 1 =>
    if n = 16 then "16"
    else if n = 34 then "RTMIN"
    else if 34 < n ∧ n < 50 then s!"RTMIN+{n - 34}"
    else if 50 ≤ n ∧ n < 64 then s!"RTMAX-{64 - n}"
    else if n = 64 then "RTMAX"
    else WaitStatus.signalNames[k]?.getD (toString n)

def signalAll (s : State) (signal : Nat) : List String → State
  | [] => s
  | target :: rest =>
    let own := target = toString s.process ∨ target = "0"
    match digitsOnly? (if target.toList.head? = some '-' then (target.drop 1).toString else target) with
    | none =>
      if target.toList.head? = some '%' then s.refuse 2 s!"No such job: {target}"
      else s.refuse 2 (illegalNumber target)
    | some _ =>
      if own then
        let s := s.signal signal
        if s.halt.isSome then s else s.signalAll signal rest
      else ((s.complain "No such process\n").settled 1).signalAll signal rest

def killUsage : String :=
  "Usage: kill [-s sigspec | -signum | -sigspec] [pid | job]... or\nkill -l [exitstatus]"

def signalTargets (s : State) (signal : Nat) (targets : List String) : State :=
  if targets = [] then s.refuse 2 killUsage else (s.settled 0).signalAll signal targets

def namedSignal (s : State) (word : String) (targets : List String) : State :=
  match signalNumber? word with
  | some signal => s.signalTargets signal targets
  | none => s.refuse 2 s!"invalid signal number or name: {word}"

def listSignals (s : State) : List String → State
  | [] =>
    let names := (List.range mostSignals).map fun n => signalWord (n + 1)
    s.printLine ("\n".intercalate ("0" :: names))
  | word :: _ =>
    match digitsOnly? word with
    | none => s.refuse 2 (illegalNumber word)
    | some n =>
      let signal := if 128 < n then n - 128 else n
      if 0 < signal ∧ signal ≤ mostSignals then s.printLine (signalWord signal)
      else s.refuse 2 s!"invalid signal number or exit status: {word}"

def kill (s : State) : List String → State
  | [] => s.refuse 2 killUsage
  | word :: rest =>
    match word.toList with
    | '-' :: cs =>
      match signalNumber? (String.ofList cs), cs with
      | some signal, _ => s.signalTargets signal rest
      | none, ['-'] => s.signalTargets 15 rest
      | none, ['l'] => s.listSignals rest
      | none, ['s'] =>
        match rest with
        | [] => s.refuse 2 "No arg for -s option"
        | name :: targets => s.namedSignal name targets
      | none, 's' :: name => s.namedSignal (String.ofList name) rest
      | none, [] => s.signalTargets 15 (word :: rest)
      | none, c :: _ => s.refuse 2 s!"Illegal option -{c}"
    | _ => s.signalTargets 15 (word :: rest)

def singleQuoted (text : String) : String :=
  "'" ++ String.ofList (text.toList.flatMap fun c => if c = '\'' then "'\"'\"'".toList else [c]) ++ "'"

def setTraps (s : State) (action : Option String) : List String → State
  | [] => s.settled 0
  | word :: rest =>
    match if word.toUpper = "EXIT" then some 0 else signalNumber? word with
    | none =>
      (s.put 2 (Text.octetBytes s!"trap: {word}: bad trap\n")).settled 1
    | some signal =>
      let others := s.traps.filter (·.1 ≠ signal)
      let traps := match action with
        | some text => others ++ [(signal, text)]
        | none => others
      ({ s with traps }).setTraps action rest

def trap (s : State) (args : List String) : State :=
  let args := if args.head? = some "--" then args.tail else args
  match args with
  | [] =>
    let sorted := s.traps.mergeSort fun a b => a.1 ≤ b.1
    s.print (Text.octetBytes (String.join (sorted.map fun (signal, text) =>
      s!"trap -- {singleQuoted text} {signalWord signal}\n")))
  | [word] => s.setTraps none [word]
  | action :: words =>
    if (digitsOnly? action).isSome then s.setTraps none (action :: words)
    else s.setTraps (if action = "-" then none else some action) words

def test (s : State) (words : List String) : State :=
  match condition s.files words with
  | .ok holds => s.settled (if holds then 0 else 1)
  | .error text => s.refuse 2 text

def bracket (s : State) (words : List String) : State :=
  if words.getLast? = some "]" then s.test words.dropLast else s.refuse 2 "missing ]"

def formatted (s : State) : List String → State
  | [] => s.refuse 2 "usage: printf format [arg ...]"
  | format :: args =>
    let p := Programs.printf format args
    let s := (p.complaints.foldl complain s).print p.bytes
    if s.status ≠ 0 then s
    else s.settled (if p.complaints.isEmpty then 0 else if p.failed then 2 else 1)

def strayOption? (args : List String) : Option Char :=
  match args.head?.map String.toList with
  | some ('-' :: '-' :: []) => none
  | some ('-' :: c :: _) => some c
  | _ => none

def printf (s : State) (args : List String) : State :=
  match strayOption? args with
  | some c => s.refuse 2 s!"Illegal option -{c}"
  | none => s.formatted (if args.head? = some "--" then args.tail else args)

def lineFrom (raw : Bool) : Nat → Bytes → Bytes × List (List UInt8 × Bool) × Bool
  | 0, rest => (rest, [], false)
  | _ + 1, [] => ([], [], false)
  | fuel + 1, b :: rest =>
    if b = 0x0A then (rest, [], true)
    else if b = 0x5C ∧ !raw then
      match rest with
      | [] => ([], [], false)
      | 0x0A :: more => lineFrom raw fuel more
      | x :: more =>
        let (left, cs, ended) := lineFrom raw fuel more
        (left, ([x], true) :: cs, ended)
    else
      let (left, cs, ended) := lineFrom raw fuel rest
      (left, ([b], false) :: cs, ended)

def share (separators : List UInt8) : Nat → List (List UInt8 × Bool) → List Bytes
  | 0, _ => []
  | n + 1, cs =>
    let blank (x : List UInt8 × Bool) : Bool :=
      !x.2 && x.1.all fun b => separators.contains b && (b = 0x20 || b = 0x09)
    let splits (x : List UInt8 × Bool) : Bool := !x.2 && x.1.all (separators.contains ·)
    let cs := cs.dropWhile blank
    let field := cs.takeWhile fun x => !splits x
    let after := (cs.drop field.length).dropWhile blank
    let after := match after with
      | x :: rest => if splits x then rest else after
      | [] => []
    if n = 0 then
      let whole := if after.isEmpty then field else (cs.reverse.dropWhile blank).reverse
      [whole.flatMap Prod.fst]
    else field.flatMap Prod.fst :: share separators n after

def read (s : State) (args : List String) : State :=
  let raw := (args.takeWhile fun word => word.toList.head? = some '-').contains "-r"
  let names := optionsFirst args
  match names.find? fun name => !isName name.toList with
  | some name => s.refuse 2 s!"{name}: bad variable name"
  | none =>
    if names = [] then s.refuse 2 "arg count"
    else
      let input := s.input?.getD []
      let (left, line, ended) := lineFrom raw (input.length + 1) input
      let line := line.filter fun x => x.1 ≠ [0]
      let separators := (Text.octetBytes (String.ofList s.separators))
      let values := share separators names.length line
      let put (s : State) (entry : String × Bytes) : State :=
        s.assign entry.1 (String.ofList (Text.octets entry.2))
      ((names.zip values).foldl put (s.setInput left)).settled (if ended then 0 else 1)

def found? (s : State) (name : String) : Option String :=
  if name.toList.contains '/' then
    (s.files.program (Text.octetBytes name)).toOption.map fun _ => name
  else
    (((s.held? "PATH").getD "").splitOn ":").findSome? fun place =>
      let path := if place = "" then name else place ++ "/" ++ name
      (s.files.program (Text.octetBytes path)).toOption.map fun _ => path

def ownNames : List String := [
  "true", "false", "echo", "printf", "test", "[", "local", "kill", "read", "cd", "pwd", "wait",
  "jobs", "hash", "umask", "type", "command", "alias", "unalias"]

def kind (s : State) (name : String) : Option String :=
  if reserved.contains name then some "a shell keyword"
  else if specialNames.contains name then some "a special shell builtin"
  else if s.functions.any (·.1 = name) then some "a shell function"
  else if ownNames.contains name then some "a shell builtin"
  else s.found? name

def type (s : State) (names : List String) : State :=
  names.foldl (fun s name =>
    match s.kind name with
    | some kind => let status := s.status; (s.printLine s!"{name} is {kind}").settled status
    | none => (s.printLine s!"{name}: not found").settled 127) (s.settled 0)

def describe (s : State) : List String → State
  | [] => s.settled 0
  | name :: _ =>
    let own := reserved.contains name || specialNames.contains name || ownNames.contains name ||
      s.functions.any (·.1 = name)
    match if own then some name else s.found? name with
    | some text => s.printLine text
    | none => s.settled 127

def directoryText (place : Files.Place) : String :=
  "/" ++ "/".intercalate (place.map fun piece => String.ofList (Text.octets piece))

def changeDirectory (s : State) (args : List String) : State :=
  match (optionsFirst args).head?.orElse fun _ => s.held? "HOME" with
  | none => s.settled 0
  | some path =>
    match s.files.locate (Text.octetBytes path) with
    | .ok place =>
      if s.files.find? place = some .directory then
        { s with files := { s.files with working := place }, status := 0 }
      else s.refuse 2 s!"can't cd to {path}"
    | .error _ => s.refuse 2 s!"can't cd to {path}"

def wait (s : State) (args : List String) : State :=
  args.foldl (fun s word =>
    match s.jobs.find? fun job => toString job.1 = word with
    | some job => s.settled job.2
    | none => s.settled 127) (s.flushed.settled 0)

def builtin? (name : String) : Option (State → List String → State) :=
  match name with
  | ":" => some fun s _ => s.settled 0
  | "true" => some fun s _ => s.settled 0
  | "false" => some fun s _ => s.settled 1
  | "echo" => some fun s args => s.print (shellEcho args)
  | "printf" => some printf
  | "test" => some test
  | "[" => some bracket
  | "exit" => some exit
  | "return" => some comeBack
  | "break" => some fun s => s.leave false
  | "continue" => some fun s => s.leave true
  | "shift" => some shift
  | "set" => some set
  | "unset" => some unset
  | "export" =>
    some fun s args => s.declare (fun v => { v with exported := true }) (optionsFirst args)
  | "readonly" =>
    some fun s args => s.declare (fun v => { v with fixed := true }) (optionsFirst args)
  | "local" => some makeLocal
  | "trap" => some trap
  | "kill" => some kill
  | "read" => some read
  | "cd" => some changeDirectory
  | "pwd" => some fun s _ => s.printLine (directoryText s.files.working)
  | "wait" => some wait
  | "jobs" => some fun s _ => s.settled 0
  | "umask" => some fun s args => if args = [] then s.printLine "0022" else s.settled 0
  | "type" => some type
  | "hash" => some fun s _ => s.settled 0
  | "alias" => some fun s _ => s.settled 0
  | "unalias" => some fun s _ => s.settled 0
  | _ => none

end State
end VmBridge.Programs.Shell
